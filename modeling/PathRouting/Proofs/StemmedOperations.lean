import PathRouting.Proofs.FrozenTable
import PathRouting.Proofs.RegistrationFrame

/-! Operations under a stem. A service within groups differs from one outside of them in
its stem, and an operation of the one goes like the operation of the other that has the
stem in front of its template. What has been reported may differ, so stores are asked to
take no notice of it. -/

namespace PathRouting

/-! ### Hosts apart from what has been reported -/

namespace Host

/-- What lies outside of a router, apart from what has been reported. -/
def world (host : Host) : Nat × Option StoredTable × Files := (host.now, host.cell, host.files)

@[simp] theorem world_log (host : Host) (event : Event) : (host.log event).world = host.world := rfl

private theorem now_of_world {one two : Host} (same : one.world = two.world) : one.now = two.now :=
  congrArg Prod.fst same

end Host

theorem Store.content_of_world (store : Store) {one two : Host} (same : one.world = two.world) :
    store.content one = store.content two := by
  have cells : one.cell = two.cell := congrArg (fun world => world.2.1) same
  have files : one.files = two.files := congrArg (fun world => world.2.2) same
  cases store with
  | memory => simp only [content, cells]
  | file path => simp only [content, files]

/-- A store that pays no attention to what has been reported. -/
structure Keeper.IgnoresJournal (keeper : Keeper) : Prop where
  load : ∀ {one two : Host}, one.world = two.world →
    (keeper.load one).1 = (keeper.load two).1 ∧
      (keeper.load one).2.world = (keeper.load two).2.world
  save : ∀ (stored : StoredTable) {one two : Host}, one.world = two.world →
    (keeper.save stored one).1 = (keeper.save stored two).1 ∧
      (keeper.save stored one).2.world = (keeper.save stored two).2.world

def Operation.IgnoresJournal : Operation → Prop
  | elsewhere change =>
    ∀ one two : Host, one.world = two.world → (change one).world = (change two).world
  | _ => True

/-- The operation with a stem in front of its template, if it has one. -/
def Operation.under (stem : String) : Operation → Operation
  | register methods template handler => register methods (stem ++ template) handler
  | operation => operation

namespace Service

/-- The first service is within groups whose stems together are the given one; otherwise the
two differ in nothing but what has been reported. -/
structure Within (stem : String) (one two : Service) : Prop where
  router : one.router = { two.router with stem := two.router.stem ++ stem }
  world : one.host.world = two.host.world

variable {keep : Store → Keeper} {service one two : Service} {stem : String}

private theorem addRoute_world (service : Service) (methods : List String) (template : String)
    (handler : Handler) :
    (service.addRoute methods template handler).2.host.world = service.host.world :=
  service.view_addRoute Host.world Host.world_log (fun _ _ _ => rfl) methods template handler

private theorem addFallback_world (service : Service) (method : String) (handler : Handler) :
    (service.addFallback method handler).2.host.world = service.host.world :=
  service.view_addFallback Host.world Host.world_log method handler

theorem Within.withHosts (within : Within stem one two) {host other : Host}
    (world : host.world = other.world) :
    Within stem { one with host := host } { two with host := other } :=
  ⟨within.router, world⟩

theorem Within.compile (within : Within stem one two) (template : String) :
    one.router.compile template = two.router.compile (stem ++ template) := by
  simp only [within.router, Router.compile, String.append_assoc]

theorem Within.addRoute (within : Within stem one two) (methods : List String) (template : String)
    (handler : Handler) :
    (one.addRoute methods template handler).1 = (two.addRoute methods (stem ++ template) handler).1 ∧
      Within stem (one.addRoute methods template handler).2
        (two.addRoute methods (stem ++ template) handler).2 := by
  have world := (addRoute_world one methods template handler).trans
    (within.world.trans (addRoute_world two methods (stem ++ template) handler).symm)
  have phases : one.router.phase = two.router.phase := by rw [within.router]
  cases phase : two.router.phase with
  | finished table =>
    rw [addRoute_finished (phases.trans phase), addRoute_finished phase]
    exact ⟨rfl, within⟩
  | collecting routes fallbacks =>
    rw [phase] at phases
    by_cases none : methods = []
    · subst none
      obtain ⟨_, first⟩ := addRoute_nothing template handler phases
      obtain ⟨_, second⟩ := addRoute_nothing (stem ++ template) handler phase
      rw [first, second] at world ⊢
      exact ⟨rfl, within.router, world⟩
    cases result : two.router.compile (stem ++ template) with
    | error error =>
      rw [addRoute_refused phases none ((within.compile template).trans result),
        addRoute_refused phase none result]
      exact ⟨rfl, within⟩
    | ok compiled =>
      rw [addRoute_stored handler phases none ((within.compile template).trans result),
        addRoute_stored handler phase none result] at world ⊢
      exact ⟨rfl, by simp only [within.router], world⟩

theorem Within.addFallback (within : Within stem one two) (method : String) (handler : Handler) :
    (one.addFallback method handler).1 = (two.addFallback method handler).1 ∧
      Within stem (one.addFallback method handler).2 (two.addFallback method handler).2 := by
  have world := (addFallback_world one method handler).trans
    (within.world.trans (addFallback_world two method handler).symm)
  have phases : one.router.phase = two.router.phase := by rw [within.router]
  cases phase : two.router.phase with
  | finished table =>
    rw [addFallback_finished (phases.trans phase), addFallback_finished phase]
    exact ⟨rfl, within⟩
  | collecting routes fallbacks =>
    obtain ⟨_, first⟩ := addFallback_collecting (phases.trans phase) method handler
    obtain ⟨_, second⟩ := addFallback_collecting phase method handler
    rw [first, second] at world ⊢
    exact ⟨rfl, by simp only [within.router], world⟩

theorem Within.received (within : Within stem one two) (expiry : Nat) {host other : Host}
    (world : host.world = other.world) (found : Except CacheError (Option StoredTable)) :
    (one.received expiry host found).1 = (two.received expiry other found).1 ∧
      Within stem (one.received expiry host found).2 (two.received expiry other found).2 := by
  match found with
  | .ok none => exact ⟨rfl, within.router, world⟩
  | .error _ => exact ⟨rfl, within.router, world⟩
  | .ok (some stored) =>
    simp only [Service.received, Host.now_of_world world]
    split
    · exact ⟨rfl, within.router, world⟩
    · split
      · exact ⟨rfl, within.router, world⟩
      · exact ⟨rfl, by simp only [within.router], world⟩

theorem Within.isFinished (within : Within stem one two) :
    one.router.isFinished = two.router.isFinished := by
  simp only [within.router, Router.isFinished]

theorem Within.activeCache? (within : Within stem one two) :
    one.router.activeCache? = two.router.activeCache? := by
  simp only [within.router, Router.activeCache?]

theorem Within.loadCacheBy (within : Within stem one two)
    (ignores : ∀ store, (keep store).IgnoresJournal) :
    (one.loadCacheBy keep).1 = (two.loadCacheBy keep).1 ∧
      Within stem (one.loadCacheBy keep).2 (two.loadCacheBy keep).2 := by
  simp only [Service.loadCacheBy, within.isFinished, within.activeCache?]
  split
  · exact ⟨rfl, within⟩
  cases two.router.activeCache? with
  | none => exact ⟨rfl, within⟩
  | some cache =>
    obtain ⟨found, world⟩ := (ignores cache.store).load within.world
    simp only [found]
    exact within.received cache.expiry world _

theorem Within.saveTableBy (within : Within stem one two)
    (ignores : ∀ store, (keep store).IgnoresJournal) (table : Table) :
    (Service.saveTableBy keep table one).1 = (Service.saveTableBy keep table two).1 ∧
      Within stem (Service.saveTableBy keep table one).2 (Service.saveTableBy keep table two).2 := by
  simp only [Service.saveTableBy, within.activeCache?, Host.now_of_world within.world]
  cases two.router.activeCache? with
  | none => exact ⟨rfl, within⟩
  | some cache =>
    obtain ⟨result, world⟩ :=
      (ignores cache.store).save ⟨two.host.now, table.encode⟩ within.world
    simp only []
    generalize (keep cache.store).save ⟨two.host.now, table.encode⟩ one.host = first at result world
    generalize (keep cache.store).save ⟨two.host.now, table.encode⟩ two.host = second at result world
    obtain ⟨first, host⟩ := first
    obtain ⟨second, other⟩ := second
    obtain rfl : first = second := result
    cases first with
    | ok _ => exact ⟨rfl, within.router, world⟩
    | error _ => exact ⟨rfl, within.router, world⟩

private theorem finish_alone {routes : RouteSet} {fallbacks : Fallbacks}
    (phase : service.router.phase = .collecting routes fallbacks) :
    let alone : Service := { service with router := { service.router with cache := none } }
    alone.finish.1 = ⟨routes, fallbacks⟩ ∧ alone.finish.2.host.world = service.host.world := by
  refine ⟨finish_collecting phase, ?_⟩
  simp only [finish, phase, saveTable, Router.activeCache?, Option.filter_none]
  rfl

private theorem phase_finishBy (keep : Store → Keeper) (service : Service) :
    (service.finishBy keep).2.2.router.phase = .finished (service.finishBy keep).1 := by
  cases phase : service.router.phase with
  | finished table => rw [finishBy_finished phase, phase]
  | collecting routes fallbacks =>
    obtain ⟨host, finished⟩ := finishBy_collecting keep phase
    rw [finished]

theorem Within.finishBy (within : Within stem one two)
    (ignores : ∀ store, (keep store).IgnoresJournal) :
    (one.finishBy keep).1 = (two.finishBy keep).1 ∧
      (one.finishBy keep).2.1 = (two.finishBy keep).2.1 ∧
      Within stem (one.finishBy keep).2.2 (two.finishBy keep).2.2 := by
  have phases : one.router.phase = two.router.phase := by rw [within.router]
  cases phase : two.router.phase with
  | finished table =>
    rw [finishBy_finished (phases.trans phase), finishBy_finished phase]
    exact ⟨rfl, rfl, within⟩
  | collecting routes fallbacks =>
    have open_ : two.router.isFinished = false := by simp only [Router.isFinished, phase]
    obtain ⟨tableOne, worldOne⟩ := finish_alone (phases.trans phase)
    obtain ⟨tableTwo, worldTwo⟩ := finish_alone phase
    have reported := within.withHosts (worldOne.trans (within.world.trans worldTwo.symm))
    simp only [Service.finishBy, within.isFinished, open_, Bool.false_eq_true, if_false, tableOne,
      tableTwo]
    obtain ⟨saved, after⟩ := reported.saveTableBy ignores ⟨routes, fallbacks⟩
    exact ⟨trivial, saved, by simp only [after.router], after.world⟩

theorem Within.dispatch (within : Within stem one two) {table : Table}
    (phase : two.router.phase = .finished table) (method path : String) (wantAllowed : Bool) :
    (one.dispatch method path wantAllowed).1 = (two.dispatch method path wantAllowed).1 ∧
      Within stem (one.dispatch method path wantAllowed).2
        (two.dispatch method path wantAllowed).2 := by
  have phases : one.router.phase = .finished table := by
    rw [within.router]
    exact phase
  simp only [Service.dispatch, finish_finished phase, finish_finished phases]
  exact ⟨trivial, within.router, within.world⟩

/-- An operation within groups is the operation outside of them under their stems. -/
theorem Within.operate (within : Within stem one two)
    (ignores : ∀ store, (keep store).IgnoresJournal) {operation : Operation}
    (blind : operation.IgnoresJournal) :
    (one.operate keep operation).1 = (two.operate keep (operation.under stem)).1 ∧
      (one.operate keep operation).2.1 = (two.operate keep (operation.under stem)).2.1 ∧
      Within stem (one.operate keep operation).2.2
        (two.operate keep (operation.under stem)).2.2 := by
  cases operation with
  | register methods template handler =>
    obtain ⟨result, after⟩ := within.addRoute methods template handler
    exact ⟨congrArg Answer.ofRegistration result, rfl, after⟩
  | registerFallback method handler =>
    obtain ⟨result, after⟩ := within.addFallback method handler
    exact ⟨congrArg Answer.ofRegistration result, rfl, after⟩
  | loadCache =>
    obtain ⟨result, after⟩ := within.loadCacheBy ignores
    exact ⟨congrArg Answer.ofLoading result, rfl, after⟩
  | setCacheEnabled enabled =>
    refine ⟨rfl, rfl, ?_, within.world⟩
    simp only [Service.operate, Operation.under, within.router, Router.setCacheEnabled]
  | finish =>
    obtain ⟨table, saved, after⟩ := within.finishBy ignores
    exact ⟨congrArg Answer.table table, saved, after⟩
  | dispatch method path wantAllowed =>
    obtain ⟨_, saved, fixed⟩ := within.finishBy ignores
    obtain ⟨outcome, after⟩ := fixed.dispatch (phase_finishBy keep two) method path wantAllowed
    exact ⟨congrArg Answer.outcome outcome, saved, after⟩
  | elsewhere change => exact ⟨rfl, rfl, within.router, blind _ _ within.world⟩

end Service

end PathRouting
