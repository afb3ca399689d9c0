import PathRouting.Proofs.RegistrationRuns
import PathRouting.Proofs.RouterUses

/-! The table of a router is fixed once. Whatever is done with a router, in whatever
order and over whatever store, it answers from one table from then on, it refuses all
further registrations, and at most one table is ever handed to the store: the one
that has just been fixed, and only if it was not taken from the store. -/

namespace PathRouting

namespace Operation

def switched (router : Router) : Operation → Router
  | setCacheEnabled enabled => router.setCacheEnabled enabled
  | _ => router

theorem phase_switched (operation : Operation) (router : Router) :
    (operation.switched router).phase = router.phase := by
  cases operation <;> rfl

end Operation

namespace Step

def Performed (keep : Store → Keeper) (step : Step) : Prop :=
  step.before.operate keep step.operation = (step.answer, step.saved, step.after)

/-- A step of a router whose table is fixed: it answers from that table, hands nothing to
the store and keeps the table. Calls that need an open router change nothing at all. -/
structure Frozen (table : Table) (step : Step) : Prop where
  before : step.before.router.phase = .finished table
  answer : step.answer = step.operation.frozenAnswer table
  saved : step.saved = []
  after : step.after.router.phase = .finished table
  unchanged : step.operation.needsOpen = true → step.after = step.before

/-- The step fixes the table of an open router, without a hit in the cache and with the
cache switched on, and the given value is that table as it is encoded. -/
structure Saves (step : Step) (stored : StoredTable) : Prop where
  wasOpen : step.before.router.isFinished = false
  enabled : step.before.router.isCacheEnabled = true
  noHit : step.answer ≠ .loaded true
  encoded : ∃ table, step.after.router.phase = .finished table ∧
    stored = ⟨step.before.host.now, table.encode⟩

/-- What can be seen of a step without looking at the world outside of the router. -/
def view (step : Step) : Operation × Answer × List StoredTable × Router :=
  (step.operation, step.answer, step.saved, step.after.router)

end Step

namespace Service

variable {keep : Store → Keeper} {service : Service}

theorem isFinished_iff : service.router.isFinished = true ↔
    ∃ table, service.router.phase = .finished table := by
  rw [Router.isFinished]
  cases service.router.phase <;> simp

theorem dispatch_finished {table : Table} (phase : service.router.phase = .finished table)
    (method path : String) (wantAllowed : Bool) :
    ∃ host, service.dispatch method path wantAllowed =
      (table.dispatch method path wantAllowed, { service with host }) := by
  simp only [dispatch, finish_finished phase]
  exact ⟨_, rfl⟩

private theorem saveTableBy_spec (keep : Store → Keeper) (table : Table) (service : Service) :
    (saveTableBy keep table service).2.router = service.router ∧
      (saveTableBy keep table service).1 =
        if service.router.isCacheEnabled then [⟨service.host.now, table.encode⟩] else [] := by
  rw [saveTableBy, Router.isCacheEnabled]
  cases service.router.activeCache? with
  | none => exact ⟨rfl, rfl⟩
  | some cache =>
    simp only []
    rcases (keep cache.store).save ⟨service.host.now, table.encode⟩ service.host with ⟨_ | _, host⟩
    · exact ⟨rfl, rfl⟩
    · exact ⟨rfl, rfl⟩

theorem finishBy_finished {table : Table} (phase : service.router.phase = .finished table) :
    service.finishBy keep = (table, [], service) := by
  have closed : service.router.isFinished = true := isFinished_iff.mpr ⟨table, phase⟩
  simp only [finishBy, closed, if_true, finish_finished phase]

theorem finishBy_collecting (keep : Store → Keeper) {routes : RouteSet} {fallbacks : Fallbacks}
    (phase : service.router.phase = .collecting routes fallbacks) :
    ∃ host, service.finishBy keep = (⟨routes, fallbacks⟩,
      (if service.router.isCacheEnabled then
        [⟨service.host.now, Table.encode ⟨routes, fallbacks⟩⟩] else []),
      { router := { service.router with phase := .finished ⟨routes, fallbacks⟩ }, host }) := by
  have open_ : service.router.isFinished = false := by simp only [Router.isFinished, phase]
  simp only [finishBy, open_, Bool.false_eq_true, if_false, finish, phase, saveTable,
    Router.activeCache?, Option.filter_none]
  generalize reported : { service with host := _ } = before
  obtain ⟨router, saved⟩ := saveTableBy_spec keep ⟨routes, fallbacks⟩ before
  subst reported
  exact ⟨_, by rw [router, saved]; rfl⟩

theorem operate_finished (keep : Store → Keeper) {table : Table}
    (phase : service.router.phase = .finished table) (operation : Operation) :
    ∃ after, service.operate keep operation = (operation.frozenAnswer table, [], after) ∧
      after.router = operation.switched service.router ∧
      (operation.needsOpen = true → after = service) := by
  have closed : service.router.isFinished = true := isFinished_iff.mpr ⟨table, phase⟩
  cases operation with
  | register methods template handler =>
    refine ⟨service, ?_, rfl, fun _ => rfl⟩
    rw [operate, addRoute_finished phase]
    rfl
  | registerFallback method handler =>
    refine ⟨service, ?_, rfl, fun _ => rfl⟩
    rw [operate, addFallback_finished phase]
    rfl
  | loadCache =>
    refine ⟨service, ?_, rfl, fun _ => rfl⟩
    simp only [operate, loadCacheBy, closed, if_true]
    rfl
  | setCacheEnabled enabled => exact ⟨_, rfl, rfl, fun needs => absurd needs Bool.false_ne_true⟩
  | finish =>
    refine ⟨service, ?_, rfl, fun _ => rfl⟩
    simp only [operate, finishBy_finished phase]
    rfl
  | dispatch method path wantAllowed =>
    obtain ⟨host, answered⟩ := dispatch_finished phase method path wantAllowed
    refine ⟨{ service with host }, ?_, rfl, fun needs => absurd needs Bool.false_ne_true⟩
    simp only [operate, finishBy_finished phase, answered]
    rfl
  | elsewhere change => exact ⟨_, rfl, rfl, fun needs => absurd needs Bool.false_ne_true⟩

/-- What an operation can do to an open router: the router stays open, or a hit in the
cache fixes a table, or the collected table is fixed and handed to the store. -/
theorem operate_collecting (keep : Store → Keeper) {routes : RouteSet} {fallbacks : Fallbacks}
    (phase : service.router.phase = .collecting routes fallbacks) (operation : Operation) :
    (∃ answer after, service.operate keep operation = (answer, [], after) ∧
      after.router.isFinished = false) ∨
    (∃ table after, operation.needsOpen = true ∧
      service.operate keep operation = (.loaded true, [], after) ∧
      after.router.phase = .finished table) ∨
    (∃ after, operation.needsOpen = false ∧ after.router.phase = .finished ⟨routes, fallbacks⟩ ∧
      service.operate keep operation = (operation.frozenAnswer ⟨routes, fallbacks⟩,
        (if service.router.isCacheEnabled then
          [⟨service.host.now, Table.encode ⟨routes, fallbacks⟩⟩] else []), after)) := by
  have open_ : service.router.isFinished = false := by simp only [Router.isFinished, phase]
  cases operation with
  | register methods template handler =>
    have stays : (service.addRoute methods template handler).2.router.isFinished = false := by
      obtain ⟨_, _, same⟩ | ⟨_, _, _, same⟩ | ⟨_, _, _, same⟩ :=
        addRoute_cases phase methods template handler
      · rw [same]
        exact open_
      · rw [same]
        exact open_
      · rw [same]
        rfl
    exact .inl ⟨_, _, rfl, stays⟩
  | registerFallback method handler =>
    obtain ⟨host, added⟩ := addFallback_collecting phase method handler
    exact .inl ⟨_, _, by rw [operate, added], rfl⟩
  | loadCache =>
    simp only [operate, loadCacheBy, open_, Bool.false_eq_true, if_false]
    cases service.router.activeCache? with
    | none => exact .inl ⟨_, _, rfl, open_⟩
    | some cache =>
      simp only []
      obtain ⟨stored, table, after, _, _, _, hit⟩ | ⟨_, after, missed⟩ :=
        received_cases service cache.expiry ((keep cache.store).load service.host).2
          ((keep cache.store).load service.host).1
      · exact .inr (.inl ⟨table, _, rfl, by rw [hit]; rfl, rfl⟩)
      · exact .inl ⟨_, ⟨service.router, after⟩, by rw [missed], open_⟩
  | setCacheEnabled enabled => exact .inl ⟨_, _, rfl, open_⟩
  | finish =>
    obtain ⟨host, finished⟩ := finishBy_collecting keep phase
    exact .inr (.inr ⟨_, rfl, rfl, by simp only [operate, finished]; rfl⟩)
  | dispatch method path wantAllowed =>
    obtain ⟨host, finished⟩ := finishBy_collecting keep phase
    have fixed : (Service.mk { service.router with phase := .finished ⟨routes, fallbacks⟩ }
        host).router.phase = .finished ⟨routes, fallbacks⟩ := rfl
    obtain ⟨later, answered⟩ := dispatch_finished fixed method path wantAllowed
    exact .inr (.inr ⟨_, rfl, rfl, by simp only [operate, finished, answered]; rfl⟩)
  | elsewhere change => exact .inl ⟨_, _, rfl, open_⟩

end Service

namespace Step

variable {keep : Store → Keeper} {step : Step}

theorem Performed.eq_of_operate (performed : step.Performed keep) {answer : Answer}
    {saved : List StoredTable} {after : Service}
    (same : step.before.operate keep step.operation = (answer, saved, after)) :
    step.answer = answer ∧ step.saved = saved ∧ step.after = after := by
  rw [Performed, same] at performed
  simpa [eq_comm] using performed

theorem Performed.frozen (performed : step.Performed keep) {table : Table}
    (phase : step.before.router.phase = .finished table) : step.Frozen table := by
  obtain ⟨after, same, router, unchanged⟩ :=
    Service.operate_finished keep phase step.operation
  obtain ⟨answer, saved, rfl⟩ := performed.eq_of_operate same
  exact ⟨phase, answer, saved, by rw [router, Operation.phase_switched, phase], unchanged⟩

/-- A value is handed to the store exactly by a step that fixes a table without a hit. -/
theorem Performed.mem_saved_iff (performed : step.Performed keep) {stored : StoredTable} :
    stored ∈ step.saved ↔ step.Saves stored := by
  cases phase : step.before.router.phase with
  | finished table =>
    have frozen := performed.frozen phase
    have closed := Service.isFinished_iff.mpr ⟨table, phase⟩
    refine iff_of_false (by simp [frozen.saved]) fun saves => ?_
    rw [saves.wasOpen] at closed
    cases closed
  | collecting routes fallbacks =>
    have open_ : step.before.router.isFinished = false := by simp only [Router.isFinished, phase]
    obtain ⟨answer, after, same, stays⟩ | ⟨table, after, _, same, fixed⟩ |
      ⟨after, calls, fixed, same⟩ := Service.operate_collecting keep phase step.operation
    · obtain ⟨-, nothing, rfl⟩ := performed.eq_of_operate same
      refine iff_of_false (by simp [nothing]) fun saves => ?_
      obtain ⟨table, finished, _⟩ := saves.encoded
      rw [Service.isFinished_iff.mpr ⟨table, finished⟩] at stays
      cases stays
    · obtain ⟨hit, nothing, rfl⟩ := performed.eq_of_operate same
      exact iff_of_false (by simp [nothing]) fun saves => saves.noHit hit
    · obtain ⟨answer, saved, rfl⟩ := performed.eq_of_operate same
      have noHit : step.answer ≠ .loaded true := by
        rw [answer]
        cases step.operation <;> simp_all [Operation.needsOpen, Operation.frozenAnswer]
      rw [saved]
      constructor
      · intro member
        split at member
        next enabled =>
          exact ⟨open_, enabled, noHit, _, fixed, List.mem_singleton.mp member⟩
        next => cases member
      · intro saves
        obtain ⟨table, finished, rfl⟩ := saves.encoded
        rw [fixed] at finished
        cases finished
        simp [saves.enabled]

/-- A step that ends with a fixed table answers from it, also if it is the one that has fixed
the table. -/
theorem Performed.answer_of_fixed (performed : step.Performed keep) {table : Table}
    (fixed : step.after.router.phase = .finished table)
    (needs : step.operation.needsOpen = false) :
    step.answer = step.operation.frozenAnswer table := by
  cases phase : step.before.router.phase with
  | finished earlier =>
    have frozen := performed.frozen phase
    have same := frozen.after
    rw [fixed] at same
    cases same
    exact frozen.answer
  | collecting routes fallbacks =>
    obtain ⟨_, after, same, stays⟩ | ⟨_, _, hit, _, _⟩ | ⟨after, _, ends, same⟩ :=
      Service.operate_collecting keep phase step.operation
    · obtain ⟨-, -, rfl⟩ := performed.eq_of_operate same
      rw [Service.isFinished_iff.mpr ⟨table, fixed⟩] at stays
      cases stays
    · rw [needs] at hit
      cases hit
    · obtain ⟨answer, -, rfl⟩ := performed.eq_of_operate same
      rw [fixed] at ends
      cases ends
      exact answer

theorem Performed.length_saved_le (performed : step.Performed keep) : step.saved.length ≤ 1 := by
  cases phase : step.before.router.phase with
  | finished table => simp [(performed.frozen phase).saved]
  | collecting routes fallbacks =>
    obtain ⟨_, _, same, _⟩ | ⟨_, _, _, same, _⟩ | ⟨_, _, _, same⟩ :=
      Service.operate_collecting keep phase step.operation
    · simp [(performed.eq_of_operate same).2.1]
    · simp [(performed.eq_of_operate same).2.1]
    · rw [(performed.eq_of_operate same).2.1]
      split <;> simp

end Step

def Linked (first : Phase) : List Step → Phase → Prop
  | [], last => last = first
  | step :: rest, last => step.before.router.phase = first ∧ Linked step.after.router.phase rest last

structure Ran (keep : Store → Keeper) (first : Phase) (steps : List Step) (last : Phase) : Prop where
  linked : Linked first steps last
  performed : ∀ step ∈ steps, step.Performed keep

namespace Ran

variable {keep : Store → Keeper} {first middle last : Phase} {steps later : List Step}

private theorem append (ran : Ran keep first steps middle) (further : Ran keep middle later last) :
    Ran keep first (steps ++ later) last := by
  refine ⟨?_, fun step member => (List.mem_append.mp member).elim (ran.performed step)
    (further.performed step)⟩
  have linked := ran.linked
  clear ran
  induction steps generalizing first with
  | nil =>
    obtain rfl : middle = first := linked
    exact further.linked
  | cons step rest ih => exact ⟨linked.1, ih linked.2⟩

theorem head {step : Step} (ran : Ran keep first (step :: steps) last) :
    step.before.router.phase = first ∧ step.Performed keep :=
  ⟨ran.linked.1, ran.performed step List.mem_cons_self⟩

theorem tail {step : Step} (ran : Ran keep first (step :: steps) last) :
    Ran keep step.after.router.phase steps last :=
  ⟨ran.linked.2, fun other member => ran.performed other (List.mem_cons_of_mem _ member)⟩

theorem frozen {table : Table} (ran : Ran keep (.finished table) steps last) :
    (∀ step ∈ steps, step.Frozen table) ∧ last = .finished table := by
  induction steps with
  | nil => exact ⟨by simp, ran.linked⟩
  | cons step rest ih =>
    have here := ran.head.2.frozen ran.head.1
    have further := ran.tail
    rw [here.after] at further
    obtain ⟨others, ended⟩ := ih further
    exact ⟨List.forall_mem_cons.mpr ⟨here, others⟩, ended⟩

private theorem frozen_after (ran : Ran keep first steps last) :
    steps.Pairwise fun step next =>
      ∀ table, step.after.router.phase = .finished table → next.Frozen table := by
  induction steps generalizing first with
  | nil => exact .nil
  | cons step rest ih =>
    refine List.pairwise_cons.mpr ⟨fun next member table fixed => ?_, ih ran.tail⟩
    have further := ran.tail
    rw [fixed] at further
    exact further.frozen.1 next member

private theorem saved_once (ran : Ran keep first steps last) :
    (steps.flatMap Step.saved).length ≤ 1 := by
  induction steps generalizing first with
  | nil => exact Nat.zero_le _
  | cons step rest ih =>
    have performed := ran.head.2
    rw [List.flatMap_cons, List.length_append]
    cases saved : step.saved with
    | nil =>
      rw [List.length_nil, Nat.zero_add]
      exact ih ran.tail
    | cons stored others =>
      obtain ⟨table, fixed, _⟩ := (performed.mem_saved_iff.mp (saved ▸ List.mem_cons_self)).encoded
      have further := ran.tail
      rw [fixed] at further
      have nothing : rest.flatMap Step.saved = [] := by
        rw [List.flatMap_eq_nil_iff]
        exact fun next member => (further.frozen.1 next member).saved
      have one := performed.length_saved_le
      rw [saved] at one
      simpa [nothing] using one

end Ran

namespace Service

mutual

private theorem ran_trace (keep : Store → Keeper) (service : Service) : ∀ use : Use,
    Ran keep service.router.phase (service.trace keep use).1 (service.trace keep use).2.router.phase
  | .once operation => by
    refine ⟨⟨rfl, rfl⟩, fun step member => ?_⟩
    rw [List.mem_singleton.mp member]
    rfl
  | .group stem body => by
    have inside := ran_traceAll keep (service.inGroup stem) body
    exact ⟨inside.linked, inside.performed⟩

theorem ran_traceAll (keep : Store → Keeper) (service : Service) : ∀ uses : List Use,
    Ran keep service.router.phase (service.traceAll keep uses).1
      (service.traceAll keep uses).2.router.phase
  | [] => ⟨rfl, by simp [traceAll]⟩
  | use :: rest => (ran_trace keep service use).append (ran_traceAll keep _ rest)

end

/-- Two services with one router, on hosts that may differ once the table is fixed. -/
structure Alike (one two : Service) : Prop where
  router : one.router = two.router
  host : one.router.isFinished = false → one.host = two.host

section

variable {other : Store → Keeper} {one two : Service}

theorem Alike.of_finished (table : Table) (router : one.router = two.router)
    (phase : one.router.phase = .finished table) : Alike one two := by
  refine ⟨router, fun open_ => ?_⟩
  rw [isFinished_iff.mpr ⟨table, phase⟩] at open_
  cases open_

private theorem loadCacheBy_congr (reads : ∀ store, (other store).load = (keep store).load)
    (service : Service) : service.loadCacheBy other = service.loadCacheBy keep := by
  simp only [loadCacheBy, reads]

/-- Stores that are read alike give alike answers: what a store says to a table that is
handed to it is not seen again. -/
theorem operate_alike (reads : ∀ store, (other store).load = (keep store).load)
    (alike : Alike one two) (operation : Operation) :
    (one.operate other operation).1 = (two.operate keep operation).1 ∧
      (one.operate other operation).2.1 = (two.operate keep operation).2.1 ∧
      Alike (one.operate other operation).2.2 (two.operate keep operation).2.2 := by
  cases phase : one.router.phase with
  | finished table =>
    obtain ⟨after, first, firstRouter, _⟩ := operate_finished other phase operation
    obtain ⟨final, second, secondRouter, _⟩ :=
      operate_finished keep (alike.router ▸ phase) operation
    rw [first, second]
    refine ⟨rfl, rfl, .of_finished table ?_ ?_⟩
    · rw [firstRouter, secondRouter, alike.router]
    · rw [firstRouter, Operation.phase_switched, phase]
  | collecting routes fallbacks =>
    have open_ : one.router.isFinished = false := by simp only [Router.isFinished, phase]
    obtain ⟨router, host⟩ := one
    obtain rfl : router = two.router := alike.router
    obtain rfl : host = two.host := alike.host open_
    have itself : ∀ service : Service, Alike service service := fun _ => ⟨rfl, fun _ => rfl⟩
    cases operation with
    | register methods template handler => exact ⟨rfl, rfl, itself _⟩
    | registerFallback method handler => exact ⟨rfl, rfl, itself _⟩
    | loadCache =>
      simp only [operate, loadCacheBy_congr reads]
      exact ⟨trivial, trivial, itself _⟩
    | setCacheEnabled enabled => exact ⟨rfl, rfl, itself _⟩
    | finish =>
      obtain ⟨_, first⟩ := finishBy_collecting other phase
      obtain ⟨_, second⟩ := finishBy_collecting keep phase
      simp only [operate, first, second]
      exact ⟨trivial, trivial, .of_finished _ rfl rfl⟩
    | dispatch method path wantAllowed =>
      obtain ⟨_, first⟩ := finishBy_collecting other phase
      obtain ⟨_, second⟩ := finishBy_collecting keep phase
      simp only [operate, first, second]
      exact ⟨rfl, trivial, .of_finished _ rfl rfl⟩
    | elsewhere change => exact ⟨rfl, rfl, itself _⟩

mutual

private theorem trace_alike (reads : ∀ store, (other store).load = (keep store).load) {one two : Service}
    (alike : Alike one two) : ∀ use : Use,
    (one.trace other use).1.map Step.view = (two.trace keep use).1.map Step.view ∧
      Alike (one.trace other use).2 (two.trace keep use).2
  | .once operation => by
    obtain ⟨answer, saved, after⟩ := operate_alike reads alike operation
    refine ⟨?_, after⟩
    simp only [trace, List.map_cons, List.map_nil, Step.view, answer, saved, after.router]
  | .group stem body => by
    have entered : Alike (one.inGroup stem) (two.inGroup stem) :=
      ⟨by rw [inGroup, inGroup, alike.router], alike.host⟩
    obtain ⟨steps, after⟩ := traceAll_alike reads entered body
    have left : ∀ (stores : Store → Keeper) (service : Service),
        (service.trace stores (.group stem body)).2.router =
          ((service.inGroup stem).traceAll stores body).2.router.cutStem service.router.stem.length :=
      fun _ _ => rfl
    exact ⟨steps, by rw [left, left, after.router, alike.router], after.host⟩

private theorem traceAll_alike (reads : ∀ store, (other store).load = (keep store).load)
    {one two : Service} (alike : Alike one two) : ∀ uses : List Use,
    (one.traceAll other uses).1.map Step.view = (two.traceAll keep uses).1.map Step.view ∧
      Alike (one.traceAll other uses).2 (two.traceAll keep uses).2
  | [] => ⟨rfl, alike⟩
  | use :: rest => by
    obtain ⟨first, after⟩ := trace_alike reads alike use
    obtain ⟨later, final⟩ := traceAll_alike reads after rest
    refine ⟨?_, final⟩
    simp only [traceAll, List.map_append, first, later]

end

end

/-- The table of a router is fixed once and for all, and saved at most once. Over stores of
any kind and for all that can be done with a router: a step that fixes the table answers
from it, unless it has loaded it; after such a step, and in a router that has a table from
the start, all steps are those of that fixed table. A store is handed at most one value,
exactly by the step that fixes a table without a hit while the cache is switched on, and
the value is that table. Stores that differ only in how they take a table lead to the same
answers and the same routers. With the stores at hand, each step is the command of the
same name. -/
theorem trace_frozen_saved_once (keep : Store → Keeper) (service : Service) (uses : List Use) :
    let steps := (service.traceAll keep uses).1
    (∀ step ∈ steps, ∀ table, step.after.router.phase = .finished table →
      step.operation.needsOpen = false → step.answer = step.operation.frozenAnswer table) ∧
    (steps.Pairwise fun step next =>
      ∀ table, step.after.router.phase = .finished table → next.Frozen table) ∧
    (∀ table, service.router.phase = .finished table → ∀ step ∈ steps, step.Frozen table) ∧
    (steps.flatMap Step.saved).length ≤ 1 ∧
    (∀ step ∈ steps, ∀ stored, stored ∈ step.saved ↔ step.Saves stored) ∧
    (∀ other : Store → Keeper, (∀ store, (other store).load = (keep store).load) →
      (service.traceAll other uses).1.map Step.view = steps.map Step.view) ∧
    (keep = Store.keeper → ∀ step ∈ steps, ∀ command, step.operation.command? = some command →
      step.before.perform command = (step.answer, step.after)) := by
  intro steps
  have ran := ran_traceAll keep service uses
  refine ⟨?_, ran.frozen_after, fun table phase => ?_, ran.saved_once, ?_, ?_, ?_⟩
  · exact fun step member table => (ran.performed step member).answer_of_fixed
  · rw [phase] at ran
    exact ran.frozen.1
  · exact fun step member stored => (ran.performed step member).mem_saved_iff
  · intro other reads
    exact (traceAll_alike reads ⟨rfl, fun _ => rfl⟩ uses).1
  · rintro rfl step member command named
    have performed := ran.performed step member
    rw [Step.Performed] at performed
    rw [operate_keeper named, performed]

end Service

end PathRouting
