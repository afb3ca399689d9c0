import PathRouting.Proofs.FrozenTable
import PathRouting.Proofs.RegistrationFrame

/-! The gauges of a table. A router that fixes the routes it has collected reports their
number by kind, and from then on the report stands for the fixed table. A router that takes
its table from the cache reports nothing: the gauges are left as they were before. -/

namespace PathRouting

def Table.countOf (table : Table) : RouteKind → Nat
  | .static => table.staticCount
  | .dynamic => table.dynamicCount

namespace Journal

private theorem lookup_update_const (series : Series) (value : Nat) (row : List (Series × Nat)) :
    (update series (fun _ => value) row).lookup series = some value := by
  induction row with
  | nil => simp only [update, List.lookup_cons_self]
  | cons entry rest ih =>
    rw [update]
    split
    · rw [List.lookup_cons_self]
    split
    · rw [List.lookup_cons_self]
    next other _ =>
      rw [List.lookup_cons, beq_false_of_ne (Ne.symm other)]
      exact ih

private theorem lookup_update_of_ne {series other : Series} (differs : other ≠ series)
    (change : Nat → Nat) (row : List (Series × Nat)) :
    (update series change row).lookup other = row.lookup other := by
  induction row with
  | nil => simp [update, List.lookup_cons, beq_false_of_ne differs]
  | cons entry rest ih =>
    rw [update]
    split
    next same =>
      subst same
      rw [List.lookup_cons, List.lookup_cons, beq_false_of_ne differs]
    split
    · rw [List.lookup_cons, beq_false_of_ne differs]
    · rw [List.lookup_cons, List.lookup_cons, ih]

end Journal

namespace Host

/-- What the report of metrics shows as the number of entries of one kind in the finished
table. -/
def compiled? (host : Host) (kind : RouteKind) : Option Nat :=
  host.journal.metrics.lookup (Series.compiled kind.name)

variable {host : Host} {kind : RouteKind}

@[simp] theorem compiled?_log (event : Event) : (host.log event).compiled? kind = host.compiled? kind :=
  rfl

private theorem compiled?_count {series : Series} (other : series.name ≠ "router_compiled_routes") :
    (host.count series).compiled? kind = host.compiled? kind :=
  Journal.lookup_update_of_ne (fun same => other (congrArg Series.name same.symm)) _ _

@[simp] theorem compiled?_registered (method : String) (route : Route) :
    (host.registered method route).compiled? kind = host.compiled? kind :=
  compiled?_count (by simp [Series.registered])

@[simp] theorem compiled?_dispatches (outcome : String) :
    (host.count (.dispatches outcome)).compiled? kind = host.compiled? kind :=
  compiled?_count (by simp [Series.dispatches])

@[simp] theorem compiled?_cacheLoads (result : String) :
    (host.count (.cacheLoads result)).compiled? kind = host.compiled? kind :=
  compiled?_count (by simp [Series.cacheLoads])

@[simp] theorem compiled?_gauge (other : RouteKind) (value : Nat) :
    (host.gauge (.compiled other.name) value).compiled? kind =
      if kind = other then some value else host.compiled? kind := by
  split
  next same =>
    subst same
    exact Journal.lookup_update_const _ _ _
  next differs =>
    refine Journal.lookup_update_of_ne (fun same => differs ?_) _ _
    revert same differs
    cases kind <;> cases other <;> decide

end Host

/-- A store that reports no gauges of tables. -/
structure Keeper.Silent (keeper : Keeper) : Prop where
  load : ∀ host kind, (keeper.load host).2.compiled? kind = host.compiled? kind
  save : ∀ stored host kind, (keeper.save stored host).2.compiled? kind = host.compiled? kind

theorem Store.silent_keeper (store : Store) : store.keeper.Silent where
  load host kind := by
    simp only [Store.keeper, Store.load]
    split <;> rfl
  save stored host kind := by
    simp only [Store.keeper, Store.save]
    split
    · rfl
    · split <;> rfl

def Operation.Silent : Operation → Prop
  | elsewhere change => ∀ host kind, (change host).compiled? kind = host.compiled? kind
  | _ => True

theorem Answer.ofRegistration_ne_loaded (result : Except RouteError Unit) {hit : Bool} :
    Answer.ofRegistration result ≠ .loaded hit := by
  cases result <;> simp [ofRegistration]

namespace Service

variable {keep : Store → Keeper} {service : Service} {kind : RouteKind}

private theorem compiled?_addRoute (methods : List String) (template : String) (handler : Handler) :
    (service.addRoute methods template handler).2.host.compiled? kind =
      service.host.compiled? kind :=
  service.view_addRoute (fun host => host.compiled? kind) (fun _ => Host.compiled?_log)
    (fun _ => Host.compiled?_registered) methods template handler

private theorem compiled?_addFallback (method : String) (handler : Handler) :
    (service.addFallback method handler).2.host.compiled? kind = service.host.compiled? kind :=
  service.view_addFallback (fun host => host.compiled? kind) (fun _ => Host.compiled?_log) method
    handler

private theorem compiled?_received (expiry : Nat) (host : Host)
    (found : Except CacheError (Option StoredTable)) :
    (service.received expiry host found).2.host.compiled? kind = host.compiled? kind := by
  match found with
  | .ok none => exact Host.compiled?_cacheLoads _
  | .error _ => exact Host.compiled?_cacheLoads _
  | .ok (some stored) =>
    simp only [received]
    split
    · exact Host.compiled?_cacheLoads _
    split
    · exact Host.compiled?_cacheLoads _
    · exact Host.compiled?_cacheLoads _

private theorem compiled?_loadCacheBy (silent : ∀ store, (keep store).Silent) :
    (service.loadCacheBy keep).2.host.compiled? kind = service.host.compiled? kind := by
  simp only [loadCacheBy]
  split
  · rfl
  cases service.router.activeCache? with
  | none => rfl
  | some cache => exact (compiled?_received _ _ _).trans ((silent cache.store).load _ _)

private theorem compiled?_saveTableBy (silent : ∀ store, (keep store).Silent) (table : Table) :
    (saveTableBy keep table service).2.host.compiled? kind = service.host.compiled? kind := by
  rw [saveTableBy]
  cases service.router.activeCache? with
  | none => rfl
  | some cache =>
    have kept := (silent cache.store).save ⟨service.host.now, table.encode⟩ service.host kind
    simp only []
    generalize (keep cache.store).save ⟨service.host.now, table.encode⟩ service.host = result at kept
    obtain ⟨_ | _, host⟩ := result
    · exact kept
    · exact kept

private theorem compiled?_finishBy_collecting (silent : ∀ store, (keep store).Silent) {routes : RouteSet}
    {fallbacks : Fallbacks} (phase : service.router.phase = .collecting routes fallbacks) :
    (service.finishBy keep).2.2.host.compiled? kind =
      some (Table.countOf ⟨routes, fallbacks⟩ kind) := by
  have open_ : service.router.isFinished = false := by simp only [Router.isFinished, phase]
  simp only [finishBy, open_, Bool.false_eq_true, if_false, compiled?_saveTableBy silent, finish,
    phase, saveTable, Router.activeCache?, Option.filter_none]
  rw [show "static" = RouteKind.static.name from rfl,
    show "dynamic" = RouteKind.dynamic.name from rfl, Host.compiled?_gauge, Host.compiled?_gauge]
  cases kind <;> rfl

private theorem compiled?_dispatch_finished {table : Table}
    (phase : service.router.phase = .finished table) (method path : String) (wantAllowed : Bool) :
    (service.dispatch method path wantAllowed).2.host.compiled? kind =
      service.host.compiled? kind := by
  simp only [dispatch, finish_finished phase, Host.compiled?_dispatches, Host.compiled?_log]

/-- Once the table is fixed, the gauges stay as they are. -/
theorem compiled?_operate_finished {table : Table} (phase : service.router.phase = .finished table)
    {operation : Operation} (quiet : operation.Silent) :
    (service.operate keep operation).2.2.host.compiled? kind = service.host.compiled? kind := by
  cases operation with
  | register methods template handler => exact compiled?_addRoute methods template handler
  | registerFallback method handler => exact compiled?_addFallback method handler
  | loadCache => simp only [operate, loadCacheBy, isFinished_iff.mpr ⟨table, phase⟩, if_true]
  | setCacheEnabled enabled => rfl
  | finish => simp only [operate, finishBy_finished phase]
  | dispatch method path wantAllowed =>
    simp only [operate, finishBy_finished phase]
    exact compiled?_dispatch_finished phase method path wantAllowed
  | elsewhere change => exact quiet service.host kind

/-- An operation on an open router fixes the collected routes and reports their number, or
it leaves the gauges alone and fixes a table only by a hit in the cache. -/
theorem operate_collecting_counts (silent : ∀ store, (keep store).Silent) {routes : RouteSet}
    {fallbacks : Fallbacks} (phase : service.router.phase = .collecting routes fallbacks)
    {operation : Operation} (quiet : operation.Silent) :
    ((service.operate keep operation).1 ≠ .loaded true ∧
      (service.operate keep operation).2.2.router.phase = .finished ⟨routes, fallbacks⟩ ∧
      ∀ kind, (service.operate keep operation).2.2.host.compiled? kind =
        some (Table.countOf ⟨routes, fallbacks⟩ kind)) ∨
    (((service.operate keep operation).2.2.router.isFinished = true ↔
        (service.operate keep operation).1 = .loaded true) ∧
      ∀ kind, (service.operate keep operation).2.2.host.compiled? kind =
        service.host.compiled? kind) := by
  have open_ : service.router.isFinished = false := by simp only [Router.isFinished, phase]
  cases operation with
  | register methods template handler =>
    refine .inr ⟨iff_of_false ?_ (Answer.ofRegistration_ne_loaded _), fun _ =>
      compiled?_addRoute methods template handler⟩
    obtain ⟨_, _, same⟩ | ⟨_, _, _, same⟩ | ⟨_, _, _, same⟩ :=
      addRoute_cases phase methods template handler
    all_goals simp only [operate, same, Router.isFinished, phase, Bool.false_eq_true,
      not_false_eq_true]
  | registerFallback method handler =>
    obtain ⟨_, added⟩ := addFallback_collecting phase method handler
    refine .inr ⟨iff_of_false ?_ (Answer.ofRegistration_ne_loaded _), fun _ =>
      compiled?_addFallback method handler⟩
    simp only [operate, added, Router.isFinished, Bool.false_eq_true, not_false_eq_true]
  | loadCache =>
    refine .inr ⟨?_, fun _ => compiled?_loadCacheBy silent⟩
    simp only [operate, loadCacheBy, open_, Bool.false_eq_true, if_false]
    cases service.router.activeCache? with
    | none => simp [open_, Answer.ofLoading]
    | some cache =>
      simp only []
      obtain ⟨_, _, _, _, _, _, hit⟩ | ⟨_, _, missed⟩ :=
        received_cases service cache.expiry ((keep cache.store).load service.host).2
          ((keep cache.store).load service.host).1
      · simp [hit, Answer.ofLoading, Router.isFinished]
      · simp [missed, Answer.ofLoading, open_]
  | setCacheEnabled enabled =>
    refine .inr ⟨iff_of_false ?_ (by simp [operate]), fun _ => rfl⟩
    simp only [operate, Router.setCacheEnabled, Router.isFinished, phase, Bool.false_eq_true,
      not_false_eq_true]
  | finish =>
    obtain ⟨_, finished⟩ := finishBy_collecting keep phase
    refine .inl ⟨by simp [operate], ?_, fun _ => compiled?_finishBy_collecting silent phase⟩
    simp only [operate, finished]
  | dispatch method path wantAllowed =>
    obtain ⟨_, finished⟩ := finishBy_collecting keep phase
    have fixed : (service.finishBy keep).2.2.router.phase = .finished ⟨routes, fallbacks⟩ := by
      rw [finished]
    refine .inl ⟨by simp [operate], ?_, fun _ => (compiled?_dispatch_finished fixed _ _ _).trans
      (compiled?_finishBy_collecting silent phase)⟩
    obtain ⟨_, answered⟩ := dispatch_finished fixed method path wantAllowed
    simp only [operate, answered, fixed]
  | elsewhere change =>
    exact .inr ⟨iff_of_false (by simp [operate, open_]) (by simp [operate]), quiet service.host⟩

end Service

namespace Step

variable {keep : Store → Keeper} {step : Step} {table : Table}

/-- The gauges after the step are the numbers of entries of the table. -/
def Counts (step : Step) (table : Table) : Prop :=
  ∀ kind, step.after.host.compiled? kind = some (table.countOf kind)

def Leaves (step : Step) (host : Host) : Prop :=
  ∀ kind, step.after.host.compiled? kind = host.compiled? kind

theorem Performed.leaves_of_finished (performed : step.Performed keep)
    (quiet : step.operation.Silent) (phase : step.before.router.phase = .finished table) :
    step.Leaves step.before.host ∧ step.answer ≠ .loaded true := by
  refine ⟨fun kind => ?_, ?_⟩
  · have same : (step.before.operate keep step.operation).2.2.host.compiled? kind =
        step.before.host.compiled? kind := Service.compiled?_operate_finished phase quiet
    rw [performed] at same
    exact same
  · rw [(performed.frozen phase).answer]
    cases step.operation <;> simp [Operation.frozenAnswer]

theorem Performed.counts_or_leaves (performed : step.Performed keep)
    (silent : ∀ store, (keep store).Silent) (quiet : step.operation.Silent)
    {routes : RouteSet} {fallbacks : Fallbacks}
    (phase : step.before.router.phase = .collecting routes fallbacks) :
    (step.answer ≠ .loaded true ∧ step.after.router.phase = .finished ⟨routes, fallbacks⟩ ∧
      step.Counts ⟨routes, fallbacks⟩) ∨
    ((step.after.router.isFinished = true ↔ step.answer = .loaded true) ∧
      step.Leaves step.before.host) := by
  have cases := Service.operate_collecting_counts silent phase quiet
  rw [performed] at cases
  exact cases

end Step

/-- Steps in a row on one host: each begins with what the one before it has left. -/
def Continues (first : Host) : List Step → Host → Prop
  | [], last => last = first
  | step :: rest, last => step.before.host = first ∧ Continues step.after.host rest last

theorem Continues.append {first middle last : Host} {steps later : List Step}
    (continues : Continues first steps middle) (further : Continues middle later last) :
    Continues first (steps ++ later) last := by
  induction steps generalizing first with
  | nil =>
    obtain rfl : middle = first := continues
    exact further
  | cons step rest ih => exact ⟨continues.1, ih continues.2⟩

namespace Service

mutual

private theorem continues_trace (keep : Store → Keeper) (service : Service) : ∀ use : Use,
    Continues service.host (service.trace keep use).1 (service.trace keep use).2.host
  | .once _ => ⟨rfl, rfl⟩
  | .group stem body => continues_traceAll keep (service.inGroup stem) body

private theorem continues_traceAll (keep : Store → Keeper) (service : Service) : ∀ uses : List Use,
    Continues service.host (service.traceAll keep uses).1 (service.traceAll keep uses).2.host
  | [] => rfl
  | use :: rest => (continues_trace keep service use).append (continues_traceAll keep _ rest)

end

end Service

namespace Ran

variable {keep : Store → Keeper} {first last : Phase} {start final : Host} {steps : List Step}

/-- Once the table is fixed, no step touches the gauges, and none has a hit in the cache. -/
theorem leaves (ran : Ran keep first steps last) (continues : Continues start steps final)
    (quiet : ∀ step ∈ steps, step.operation.Silent) {table : Table}
    (fixed : first = .finished table) :
    ∀ step ∈ steps, step.Leaves start ∧ step.answer ≠ .loaded true := by
  induction steps generalizing first start with
  | nil => simp
  | cons step rest ih =>
    obtain ⟨begins, performed⟩ := ran.head
    obtain ⟨host, later⟩ := continues
    obtain ⟨here, others⟩ := List.forall_mem_cons.mp quiet
    obtain ⟨same, noHit⟩ := performed.leaves_of_finished here (begins.trans fixed)
    rw [host] at same
    have kept := (performed.frozen (begins.trans fixed)).after
    refine List.forall_mem_cons.mpr ⟨⟨same, noHit⟩, fun next member => ?_⟩
    obtain ⟨leaves, none⟩ := ih ran.tail later others kept next member
    exact ⟨fun kind => (leaves kind).trans (same kind), none⟩

/-- The gauges after a step that ends with a fixed table: those of the table if no step up
to it had a hit in the cache, and otherwise those of the start. -/
theorem counts (silent : ∀ store, (keep store).Silent) (ran : Ran keep first steps last)
    (continues : Continues start steps final) (quiet : ∀ step ∈ steps, step.operation.Silent)
    {routes : RouteSet} {fallbacks : Fallbacks} (open_ : first = .collecting routes fallbacks)
    {earlier later : List Step} {step : Step} (split : steps = earlier ++ step :: later)
    {table : Table} (fixed : step.after.router.phase = .finished table) :
    ((∀ other ∈ earlier ++ [step], other.answer ≠ .loaded true) ∧ step.Counts table) ∨
      ((∃ hit ∈ earlier ++ [step], hit.answer = .loaded true) ∧ step.Leaves start) := by
  subst split
  induction earlier generalizing first start routes fallbacks with
  | nil =>
    obtain ⟨begins, performed⟩ := ran.head
    obtain ⟨noHit, after, counts⟩ | ⟨hit, leaves⟩ := performed.counts_or_leaves silent
      (quiet step List.mem_cons_self) (begins.trans open_)
    · cases after.symm.trans fixed
      exact .inl ⟨List.forall_mem_singleton.mpr noHit, counts⟩
    · rw [continues.1] at leaves
      exact .inr ⟨⟨step, List.mem_cons_self, hit.mp (Service.isFinished_iff.mpr ⟨table, fixed⟩)⟩,
        leaves⟩
  | cons one earlier ih =>
    obtain ⟨begins, performed⟩ := ran.head
    obtain ⟨here, others⟩ := List.forall_mem_cons.mp quiet
    have member : step ∈ earlier ++ step :: later := List.mem_append_right _ List.mem_cons_self
    have within : ∀ other ∈ earlier ++ [step], other ∈ earlier ++ step :: later := by
      simp only [List.mem_append, List.mem_cons, List.not_mem_nil, or_false]
      exact fun other either => either.imp id .inl
    obtain ⟨noHit, after, counts⟩ | ⟨hit, leaves⟩ :=
      performed.counts_or_leaves silent here (begins.trans open_)
    · have rest := ran.tail.leaves continues.2 others after
      have frozen := ran.tail
      rw [after] at frozen
      cases (frozen.frozen.1 step member).after.symm.trans fixed
      exact .inl ⟨List.forall_mem_cons.mpr ⟨noHit, fun other listed => (rest other (within other listed)).2⟩,
        fun kind => ((rest step member).1 kind).trans (counts kind)⟩
    rw [continues.1] at leaves
    cases phase : one.after.router.phase with
    | finished loaded =>
      refine .inr ⟨⟨one, List.mem_cons_self, hit.mp (Service.isFinished_iff.mpr ⟨loaded, phase⟩)⟩,
        fun kind => ?_⟩
      exact ((ran.tail.leaves continues.2 others phase step member).1 kind).trans (leaves kind)
    | collecting routes fallbacks =>
      have noHit : one.answer ≠ .loaded true := fun loaded => by
        have closed := hit.mpr loaded
        simp only [Router.isFinished, phase, Bool.false_eq_true] at closed
      obtain ⟨none, counts⟩ | ⟨⟨other, listed, loaded⟩, further⟩ :=
        ih phase ran.tail continues.2 others
      · exact .inl ⟨List.forall_mem_cons.mpr ⟨noHit, none⟩, counts⟩
      · exact .inr ⟨⟨other, List.mem_cons_of_mem _ listed, loaded⟩,
          fun kind => (further kind).trans (leaves kind)⟩

end Ran

namespace Service

/-- The gauges of a table stand for the routes that were collected. For every run that begins
with an open router, over all stores that report no such gauges themselves: in each state
with a fixed table, the gauges are the numbers of entries of that table if no step so far
had a hit in the cache. After a hit they are still those of the start. -/
theorem gauges_of_fixed_table (keep : Store → Keeper) (silent : ∀ store, (keep store).Silent)
    (service : Service) (open_ : service.router.isFinished = false) (uses : List Use)
    (quiet : ∀ step ∈ (service.traceAll keep uses).1, step.operation.Silent) :
    ∀ earlier step later, (service.traceAll keep uses).1 = earlier ++ step :: later →
      ∀ table, step.after.router.phase = .finished table →
        ((∀ other ∈ earlier ++ [step], other.answer ≠ .loaded true) →
          ∀ kind, step.after.host.compiled? kind = some (table.countOf kind)) ∧
        ((∃ hit ∈ earlier ++ [step], hit.answer = .loaded true) →
          ∀ kind, step.after.host.compiled? kind = service.host.compiled? kind) := by
  intro earlier step later split table fixed
  cases phase : service.router.phase with
  | finished table =>
    rw [isFinished_iff.mpr ⟨table, phase⟩] at open_
    cases open_
  | collecting routes fallbacks =>
    obtain ⟨none, counts⟩ | ⟨⟨hit, listed, loaded⟩, leaves⟩ :=
      (ran_traceAll keep service uses).counts silent (continues_traceAll keep service uses) quiet
        phase split fixed
    · exact ⟨fun _ => counts, fun ⟨hit, listed, loaded⟩ => absurd loaded (none hit listed)⟩
    · exact ⟨fun none => absurd loaded (none hit listed), fun _ => leaves⟩

/-- A router with one route of each kind, fixed by its first request. -/
theorem gauges_of_fixed_table_registered :
    let service : Service := ⟨{ cache := some { store := .memory, expiry := 60 } }, {}⟩
    let uses : List Use := [.group "/a" [.once (.register ["get"] "[/{id}]" "a")],
      .once (.dispatch "get" "/a" false)]
    let final := (service.traceAll Store.keeper uses).2
    final.host.compiled? .static = some 1 ∧ final.host.compiled? .dynamic = some 1 := by
  intro service uses final
  have stated := gauges_of_fixed_table Store.keeper Store.silent_keeper service rfl uses (by
    simp [uses, traceAll, trace, group, Operation.Silent]) [_] _ [] rfl
  obtain ⟨table, fixed⟩ := isFinished_iff.mp (show final.router.isFinished = true by decide +kernel)
  have same : final.finish.1 = table := by rw [finish_finished fixed]
  have noHit : ∀ outcome : Outcome, Answer.outcome outcome ≠ .loaded true := by simp
  have counts := (stated table fixed).1 (List.forall_mem_cons.mpr
    ⟨Answer.ofRegistration_ne_loaded _, List.forall_mem_singleton.mpr (noHit _)⟩)
  rw [← same] at counts
  exact ⟨(counts .static).trans (by decide +kernel), (counts .dynamic).trans (by decide +kernel)⟩

/-- A fresh table with one route in the memory cell: the router answers from it, and the
report of metrics shows no entries. -/
theorem gauges_missing_after_hit :
    let kept : Table := ((⟨{}, {}⟩ : Service).addRoute ["get"] "/a" "a").2.finish.1
    let service : Service :=
      ⟨{ cache := some { store := .memory, expiry := 3600 } }, { cell := some ⟨0, kept.encode⟩ }⟩
    let loaded := service.loadCache.2
    service.loadCache.1 = .ok true ∧ loaded.router.isFinished = true ∧
      (loaded.dispatch "get" "/a" false).1.isFound = true ∧
      loaded.finish.1.countOf .static = 1 ∧ loaded.host.compiled? .static = none := by
  intro kept service loaded
  refine ⟨?_, ?_, ?_, ?_, ?_⟩
  · decide +kernel
  · decide +kernel
  · decide +kernel
  · decide +kernel
  · decide +kernel

end Service

end PathRouting
