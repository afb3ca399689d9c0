import PathRouting.Router.Script

/-! Routers over stores of any kind. A store may answer as it likes, and between two
uses of a router the world may change: time passes, and files are written by others.
What a router does is told step by step, each step with its answer and with the
tables that it has handed to the store. -/

namespace PathRouting

/-- A store of any kind: how it is read, and how a table is put into it. -/
structure Keeper where
  load : Host → Except CacheError (Option StoredTable) × Host
  save : StoredTable → Host → Except CacheError Unit × Host

def Store.keeper (store : Store) : Keeper := ⟨store.load, store.save⟩

/-- One use of a router, or a change of what lies outside of it. -/
inductive Operation where
  | register (methods : List String) (template : String) (handler : Handler)
  | registerFallback (method : String) (handler : Handler)
  | loadCache
  | setCacheEnabled (enabled : Bool)
  | finish
  | dispatch (method path : String) (wantAllowed : Bool)
  /-- Time passes, or someone else changes what is kept. -/
  | elsewhere (change : Host → Host)

namespace Operation

def command? : Operation → Option Command
  | register methods template handler => some (.register methods template handler)
  | registerFallback method handler => some (.registerFallback method handler)
  | loadCache => some .loadCache
  | setCacheEnabled enabled => some (.setCacheEnabled enabled)
  | finish => some .finish
  | dispatch method path wantAllowed => some (.dispatch method path wantAllowed)
  | elsewhere _ => none

def needsOpen : Operation → Bool
  | register .. => true
  | registerFallback .. => true
  | loadCache => true
  | _ => false

def frozenAnswer (table : Table) : Operation → Answer
  | register .. => .refused .registrationClosed
  | registerFallback .. => .refused .registrationClosed
  | loadCache => .refused .registrationClosed
  | finish => .table table
  | dispatch method path wantAllowed => .outcome (table.dispatch method path wantAllowed)
  | setCacheEnabled _ => .done
  | elsewhere _ => .done

end Operation

/-- What the owner of a router does with it. The body of a group may go on after a call
that was refused, or end at it. -/
inductive Use where
  | once (operation : Operation)
  | group (stem : String) (body : List Use)

structure Step where
  before : Service
  operation : Operation
  answer : Answer
  /-- The tables that were handed to the store. -/
  saved : List StoredTable
  after : Service

namespace Service

/-- What a look into the cache leads to, by the answer of the store. -/
def received (service : Service) (expiry : Nat) (host : Host) :
    Except CacheError (Option StoredTable) → Except RouteError Bool × Service
  | .ok none => service.missed host "miss"
  | .error _ =>
    service.missed (host.log {
      level := .warn, area := .router, message := "Route cache unreadable, recompiling" })
      "malformed"
  | .ok (some stored) =>
    if !stored.isFresh expiry host.now then
      service.missed (host.log {
        level := .info, area := .router, message := "Route cache expired, recompiling"
        fields := [("expire_secs", toString expiry)] }) "stale"
    else
      match Table.decode stored.table with
      | .error _ =>
        service.missed (host.log {
          level := .warn, area := .router, message := "Route cache malformed, recompiling" })
          "malformed"
      | .ok table =>
        let host := (host.log {
          level := .info, area := .router, message := "Route table loaded from cache"
          fields := [("static_routes", toString table.staticCount),
            ("dynamic_routes", toString table.dynamicCount)] }).count (Series.cacheLoads "hit")
        (.ok true, { router := { service.router with phase := .finished table }, host })

/-- An answer of the store either fixes the table that it stands for, or it stands for none
that is fresh and leaves the router as it was. -/
theorem received_cases (service : Service) (expiry : Nat) (host : Host)
    (found : Except CacheError (Option StoredTable)) :
    (∃ stored table after, found = .ok (some stored) ∧ stored.isFresh expiry host.now = true ∧
      Table.decode stored.table = .ok table ∧ service.received expiry host found =
        (.ok true, ⟨{ service.router with phase := .finished table }, after⟩)) ∨
    ((∀ stored table, found = .ok (some stored) → stored.isFresh expiry host.now = true →
        Table.decode stored.table ≠ .ok table) ∧
      ∃ after, service.received expiry host found = (.ok false, ⟨service.router, after⟩)) := by
  match found with
  | .ok none => exact .inr ⟨(fun _ _ same => nomatch same), _, rfl⟩
  | .error _ => exact .inr ⟨(fun _ _ same => nomatch same), _, rfl⟩
  | .ok (some stored) =>
    simp only [received]
    split
    next stale =>
      refine .inr ⟨fun other table same fresh => ?_, _, rfl⟩
      cases same
      simp [fresh] at stale
    next fresh =>
      split
      next error malformed =>
        refine .inr ⟨fun other table same _ decoded => ?_, _, rfl⟩
        cases same
        cases malformed.symm.trans decoded
      next table decoded =>
        exact .inl ⟨stored, table, _, rfl, by simpa using fresh, decoded, rfl⟩

section

variable (keep : Store → Keeper)

def loadCacheBy (service : Service) : Except RouteError Bool × Service :=
  if service.router.isFinished then (.error .registrationClosed, service)
  else
    match service.router.activeCache? with
    | none => (.ok false, service)
    | some cache =>
      let (found, host) := (keep cache.store).load service.host
      service.received cache.expiry host found

/-- Hands a table to the store of the cache, if there is one that is switched on. -/
def saveTableBy (table : Table) (service : Service) : List StoredTable × Service :=
  match service.router.activeCache? with
  | none => ([], service)
  | some cache =>
    let stored : StoredTable := ⟨service.host.now, table.encode⟩
    match (keep cache.store).save stored service.host with
    | (.ok _, host) => ([stored], { service with host })
    | (.error _, host) =>
      ([stored], { service with host := host.log {
        level := .warn, area := .router, message := "Failed to save route cache" } })

/-- The table of the router, with what was handed to the store when it was fixed. All
other reports are those of a router without a cache. -/
def finishBy (service : Service) : Table × List StoredTable × Service :=
  if service.router.isFinished then (service.finish.1, [], service)
  else
    let (table, reported) := finish { service with router := { service.router with cache := none } }
    let (saved, after) := saveTableBy keep table { service with host := reported.host }
    (table, saved, { after with router := { after.router with phase := .finished table } })

def operate (service : Service) : Operation → Answer × List StoredTable × Service
  | .register methods template handler =>
    let (result, after) := service.addRoute methods template handler
    (.ofRegistration result, [], after)
  | .registerFallback method handler =>
    let (result, after) := service.addFallback method handler
    (.ofRegistration result, [], after)
  | .loadCache =>
    let (result, after) := service.loadCacheBy keep
    (.ofLoading result, [], after)
  | .setCacheEnabled enabled =>
    (.done, [], { service with router := service.router.setCacheEnabled enabled })
  | .finish =>
    let (table, saved, after) := service.finishBy keep
    (.table table, saved, after)
  | .dispatch method path wantAllowed =>
    let (_, saved, fixed) := service.finishBy keep
    let (outcome, after) := fixed.dispatch method path wantAllowed
    (.outcome outcome, saved, after)
  | .elsewhere change => (.done, [], { service with host := change service.host })

mutual

def trace (service : Service) : Use → List Step × Service
  | .once operation =>
    let (answer, saved, after) := service.operate keep operation
    ([⟨service, operation, answer, saved, after⟩], after)
  | .group stem body => service.group stem fun inner => inner.traceAll body

def traceAll (service : Service) : List Use → List Step × Service
  | [] => ([], service)
  | use :: rest =>
    let (steps, after) := service.trace use
    let (later, final) := after.traceAll rest
    (steps ++ later, final)

end

end

theorem loadCacheBy_keeper (service : Service) :
    service.loadCacheBy Store.keeper = service.loadCache := by
  rw [loadCacheBy, loadCache]
  split
  · rfl
  cases service.router.activeCache? with
  | none => rfl
  | some cache =>
    simp only [Store.keeper]
    split
    next host found => rw [found]; rfl
    next error host found => rw [found]; rfl
    next stored host found => rw [found]; rfl

private theorem saveTableBy_keeper (table : Table) (service : Service) :
    (saveTableBy Store.keeper table service).2 = saveTable table service := by
  rw [saveTableBy, saveTable]
  cases service.router.activeCache? with
  | none => rfl
  | some cache =>
    simp only [Store.keeper]
    rcases cache.store.save ⟨service.host.now, table.encode⟩ service.host with ⟨_ | _, host⟩
    · rfl
    · rfl

theorem finish_finished {service : Service} {table : Table}
    (phase : service.router.phase = .finished table) : service.finish = (table, service) := by
  simp only [finish, phase]

private theorem phase_finish (service : Service) :
    service.finish.2.router.phase = .finished service.finish.1 := by
  cases phase : service.router.phase with
  | finished table => simp only [finish_finished phase, phase]
  | collecting routes fallbacks => simp only [finish, phase]

private theorem dispatch_finish (service : Service) (method path : String) (wantAllowed : Bool) :
    service.finish.2.dispatch method path wantAllowed = service.dispatch method path wantAllowed := by
  rw [dispatch, dispatch, finish_finished service.phase_finish]

private theorem finishBy_keeper (service : Service) :
    ((service.finishBy Store.keeper).1, (service.finishBy Store.keeper).2.2) = service.finish := by
  cases phase : service.router.phase with
  | finished table =>
    have closed : service.router.isFinished = true := by simp only [Router.isFinished, phase]
    simp only [finishBy, closed, if_true, finish_finished phase]
  | collecting routes fallbacks =>
    have open_ : service.router.isFinished = false := by simp only [Router.isFinished, phase]
    simp only [finishBy, open_, Bool.false_eq_true, if_false, finish, phase, saveTable,
      Router.activeCache?, Option.filter_none, saveTableBy_keeper]

/-- With the stores at hand, an operation is the command of the same name. -/
theorem operate_keeper {operation : Operation} {command : Command}
    (named : operation.command? = some command) (service : Service) :
    service.perform command = ((service.operate Store.keeper operation).1,
      (service.operate Store.keeper operation).2.2) := by
  cases operation with
  | register methods template handler => cases named; rfl
  | registerFallback method handler => cases named; rfl
  | loadCache =>
    cases named
    simp only [operate, loadCacheBy_keeper, perform]
  | setCacheEnabled enabled => cases named; rfl
  | finish =>
    cases named
    simp only [operate, perform, ← finishBy_keeper]
  | dispatch method path wantAllowed =>
    cases named
    have fixed : (service.finishBy Store.keeper).2.2 = service.finish.2 :=
      congrArg Prod.snd (finishBy_keeper service)
    simp only [operate, perform, fixed, dispatch_finish]
  | elsewhere change => cases named

end Service

end PathRouting
