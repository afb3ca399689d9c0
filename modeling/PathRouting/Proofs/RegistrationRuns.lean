import Mathlib
import PathRouting.Proofs.RegistrationLog

/-! Runs of registration calls. Whatever the calls are and however they are grouped,
an open router holds exactly the tables that its log of accepted calls replays to. -/

namespace PathRouting

def RouteSet.insertAll (routes : RouteSet) (entries : List (String × Route)) (handler : Handler) :
    RouteSet :=
  entries.foldl (fun routes entry => routes.insert entry.1 entry.2 handler) routes

def Fallbacks.insertAll (fallbacks : Fallbacks) (methods : List String) (handler : Handler) :
    Fallbacks :=
  methods.foldl (fun fallbacks method => fallbacks.insert method handler) fallbacks

def Host.registeredAll (host : Host) (entries : List (String × Route)) : Host :=
  entries.foldl (fun host entry => host.registered entry.1 entry.2) host

def methodRoutes (methods : List String) (routes : List Route) : List (String × Route) :=
  (expandMethods anyMethods methods).flatMap fun method => routes.map fun route => (method, route)

private theorem upper_expandMethods {wildcard : List String}
    (upper : ∀ method ∈ wildcard, method.toUpper = method)
    {methods : List String} {method : String} (member : method ∈ expandMethods wildcard methods) :
    method.toUpper = method := by
  obtain ⟨given, _, inside⟩ := List.mem_flatMap.mp member
  split at inside
  · exact upper method inside
  · rw [List.mem_singleton.mp inside]
    simp [String.toUpper, Function.comp_def]

namespace Service

/-- The log entries of a call of `addRoute`: one for each method and each route that the
template stands for, and none if the call is refused. -/
def acceptedRoutes (methods : List String) (template : String) (handler : Handler)
    (service : Service) : Log :=
  match (service.addRoute methods template handler).1, service.router.compile template with
  | .ok (), .ok routes =>
    (expandMethods anyMethods methods).flatMap fun method =>
      routes.map fun route => .route method route.kind route.key handler
  | _, _ => []

def acceptedFallbacks (method : String) (handler : Handler) (service : Service) : Log :=
  match (service.addFallback method handler).1 with
  | .ok () => (expandMethods fallbackMethods [method]).map fun method => .fallback method handler
  | .error _ => []

def inGroup (service : Service) (stem : String) : Service :=
  { service with router := { service.router with stem := service.router.stem ++ stem } }

/-- Runs of registration calls from one state to another, with what they add to the log.
The body of a group may be any function that itself only registers, whatever it does
with the results of its calls. -/
inductive Registers : Service → Log → Service → Prop where
  | done (service : Service) : Registers service [] service
  | addRoute {service final : Service} {log : Log} (methods : List String) (template : String)
      (handler : Handler)
      (rest : Registers (service.addRoute methods template handler).2 log final) :
      Registers service (service.acceptedRoutes methods template handler ++ log) final
  | addFallback {service final : Service} {log : Log} (method : String) (handler : Handler)
      (rest : Registers (service.addFallback method handler).2 log final) :
      Registers service (service.acceptedFallbacks method handler ++ log) final
  | group {α : Type} {service final : Service} {inner log : Log} (stem : String)
      (body : Service → α × Service)
      (inside : Registers (service.inGroup stem) inner (body (service.inGroup stem)).2)
      (rest : Registers (service.group stem body).2 log final) :
      Registers service (inner ++ log) final

section addRoute

variable {service : Service} {routes : RouteSet} {fallbacks : Fallbacks} {methods : List String}
  {template : String} {handler : Handler}

theorem addRoute_finished {table : Table} (phase : service.router.phase = .finished table)
    (methods : List String) (template : String) (handler : Handler) :
    service.addRoute methods template handler = (.error .registrationClosed, service) := by
  simp only [addRoute, phase]

theorem addRoute_nothing (template : String) (handler : Handler)
    (phase : service.router.phase = .collecting routes fallbacks) :
    ∃ host, service.addRoute [] template handler = (.ok (), { service with host }) := by
  simp [addRoute, phase]

theorem addRoute_refused (phase : service.router.phase = .collecting routes fallbacks)
    (some : methods ≠ []) {error : RouteError} (bad : service.router.compile template = .error error) :
    service.addRoute methods template handler = (.error error, service) := by
  simp [addRoute, phase, some, bad]

theorem addRoute_stored (handler : Handler) (phase : service.router.phase = .collecting routes fallbacks)
    (some : methods ≠ []) {compiled : List Route} (good : service.router.compile template = .ok compiled) :
    service.addRoute methods template handler = (.ok (),
      { router := { service.router with
          phase := .collecting (routes.insertAll (methodRoutes methods compiled) handler) fallbacks }
        host := service.host.registeredAll (methodRoutes methods compiled) }) := by
  simp [addRoute, phase, some, good, RouteSet.insertAll, methodRoutes, Host.registeredAll]

/-- All that a call can do to an open service: it names no methods, or the template is
refused, or all routes of the template are stored. -/
theorem addRoute_cases (phase : service.router.phase = .collecting routes fallbacks)
    (methods : List String) (template : String) (handler : Handler) :
    (methods = [] ∧ ∃ host, service.addRoute methods template handler =
      (.ok (), { service with host })) ∨
    (∃ error, methods ≠ [] ∧ service.router.compile template = .error error ∧
      service.addRoute methods template handler = (.error error, service)) ∨
    (∃ compiled, methods ≠ [] ∧ service.router.compile template = .ok compiled ∧
      service.addRoute methods template handler = (.ok (),
        { router := { service.router with
            phase := .collecting (routes.insertAll (methodRoutes methods compiled) handler) fallbacks }
          host := service.host.registeredAll (methodRoutes methods compiled) })) := by
  by_cases none : methods = []
  · subst none
    exact .inl ⟨rfl, addRoute_nothing template handler phase⟩
  cases result : service.router.compile template with
  | error error => exact .inr (.inl ⟨error, none, rfl, addRoute_refused phase none result⟩)
  | ok compiled =>
    exact .inr (.inr ⟨compiled, none, rfl, addRoute_stored handler phase none result⟩)

theorem acceptedRoutes_stored (phase : service.router.phase = .collecting routes fallbacks)
    (some : methods ≠ []) {compiled : List Route} (good : service.router.compile template = .ok compiled) :
    service.acceptedRoutes methods template handler =
      (methodRoutes methods compiled).map fun entry =>
        .route entry.1 entry.2.kind entry.2.key handler := by
  have stored := addRoute_stored handler phase some good
  simp [acceptedRoutes, stored, good, methodRoutes, List.map_flatMap, Function.comp_def]

theorem acceptedRoutes_refused
    {error : RouteError} (bad : service.router.compile template = .error error) :
    service.acceptedRoutes methods template handler = [] := by
  simp [acceptedRoutes, bad]

theorem acceptedRoutes_nothing : service.acceptedRoutes [] template handler = [] := by
  simp only [acceptedRoutes, expandMethods, List.flatMap_nil]
  split <;> rfl

end addRoute

theorem addFallback_finished {service : Service} {table : Table}
    (phase : service.router.phase = .finished table) (method : String) (handler : Handler) :
    service.addFallback method handler = (.error .registrationClosed, service) := by
  simp only [addFallback, phase]

theorem addFallback_collecting {service : Service} {routes : RouteSet} {fallbacks : Fallbacks}
    (phase : service.router.phase = .collecting routes fallbacks) (method : String) (handler : Handler) :
    ∃ host, service.addFallback method handler = (.ok (),
      { router := { service.router with
          phase := .collecting routes
            (fallbacks.insertAll (expandMethods fallbackMethods [method]) handler) }
        host }) := by
  simp [addFallback, phase, Fallbacks.insertAll]

theorem acceptedFallbacks_collecting {service : Service} {routes : RouteSet} {fallbacks : Fallbacks}
    (phase : service.router.phase = .collecting routes fallbacks) (method : String) (handler : Handler) :
    service.acceptedFallbacks method handler =
      (expandMethods fallbackMethods [method]).map fun method => .fallback method handler := by
  obtain ⟨host, stored⟩ := addFallback_collecting phase method handler
  simp only [acceptedFallbacks, stored]

end Service

theorem Router.readable_of_compile {router : Router} {template : String} {compiled : List Route}
    (good : router.compile template = .ok compiled) {route : Route} (member : route ∈ compiled) :
    route.Readable := by
  simp only [Router.compile, bind, Except.bind] at good
  split at good
  · cases good
  next parsed =>
    obtain ⟨tokens, _, compiles⟩ := mem_of_mapM_ok good member
    exact Route.readable_compile compiles

theorem RouteSet.insertAll_spec (routes : RouteSet) (fallbacks : Fallbacks)
    (entries : List (String × Route)) (handler : Handler) :
    Snapshot.ofTable ⟨routes.insertAll entries handler, fallbacks⟩ =
      (entries.map fun entry => LogEntry.route entry.1 entry.2.kind entry.2.key handler).foldl
        Snapshot.record (Snapshot.ofTable ⟨routes, fallbacks⟩) := by
  induction entries generalizing routes with
  | nil => rfl
  | cons entry entries ih =>
    rw [List.map_cons, List.foldl_cons, ← RouteSet.insert_spec]
    exact ih (routes.insert entry.1 entry.2 handler)

theorem RouteSet.Readable.insertAll {routes : RouteSet} (readable : routes.Readable)
    {entries : List (String × Route)} (new : ∀ entry ∈ entries, entry.2.Readable)
    (handler : Handler) : (routes.insertAll entries handler).Readable := by
  induction entries generalizing routes with
  | nil => exact readable
  | cons entry entries ih =>
    exact ih (readable.insert entry.1 (new entry (by simp)) handler)
      (fun other member => new other (by simp [member]))

theorem RouteSet.Readable.registered {routes : RouteSet} (readable : routes.Readable) {router : Router}
    {template : String} {compiled : List Route} (good : router.compile template = .ok compiled)
    (methods : List String) (handler : Handler) :
    (routes.insertAll (methodRoutes methods compiled) handler).Readable := by
  apply readable.insertAll
  intro entry member
  obtain ⟨method, _, inside⟩ := List.mem_flatMap.mp member
  obtain ⟨route, present, rfl⟩ := List.mem_map.mp inside
  exact Router.readable_of_compile good present

theorem Fallbacks.insertAll_spec (routes : RouteSet) (fallbacks : Fallbacks) (methods : List String)
    (handler : Handler) :
    Snapshot.ofTable ⟨routes, fallbacks.insertAll methods handler⟩ =
      (methods.map fun method => LogEntry.fallback method handler).foldl Snapshot.record
        (Snapshot.ofTable ⟨routes, fallbacks⟩) := by
  induction methods generalizing fallbacks with
  | nil => rfl
  | cons method methods ih => exact ih (fallbacks.insert method handler)

namespace Service

/-- The service takes registrations, and has accepted those of the log and no others. -/
structure Collected (log : Log) (service : Service) : Prop where
  tables : ∃ routes fallbacks, service.router.phase = .collecting routes fallbacks ∧
    Snapshot.ofTable ⟨routes, fallbacks⟩ = log.snapshot ∧ routes.Readable
  upper : ∀ entry ∈ log, entry.method.toUpper = entry.method

namespace Collected

variable {log : Log} {service : Service}

theorem initial (aliases : AliasTable) (cache : Option Cache) (host : Host) :
    Collected [] ⟨{ aliases, cache }, host⟩ where
  tables := ⟨RouteSet.empty, OrderedMap.empty, rfl, rfl, RouteSet.readable_empty⟩
  upper := by simp

theorem of_phase (collected : Collected log service) {other : Service}
    (phase : other.router.phase = service.router.phase) : Collected log other where
  tables := by
    obtain ⟨routes, fallbacks, open_, same, readable⟩ := collected.tables
    exact ⟨routes, fallbacks, phase.trans open_, same, readable⟩
  upper := collected.upper

theorem addRoute (collected : Collected log service) (methods : List String) (template : String)
    (handler : Handler) :
    Collected (log ++ service.acceptedRoutes methods template handler)
      (service.addRoute methods template handler).2 := by
  obtain ⟨routes, fallbacks, phase, same, readable⟩ := collected.tables
  obtain ⟨rfl, host, unchanged⟩ | ⟨error, some, bad, refused⟩ | ⟨compiled, some, good, stored⟩ :=
    addRoute_cases phase methods template handler
  · rw [acceptedRoutes_nothing, List.append_nil, unchanged]
    exact collected.of_phase rfl
  · rw [acceptedRoutes_refused bad, List.append_nil, refused]
    exact collected
  · rw [acceptedRoutes_stored phase some good, stored]
    refine ⟨⟨_, _, rfl, ?_, readable.registered good methods handler⟩, ?_⟩
    · rw [Log.snapshot_append, ← same, RouteSet.insertAll_spec]
    · intro entry member
      rcases List.mem_append.mp member with before | new
      · exact collected.upper entry before
      · obtain ⟨pair, inside, rfl⟩ := List.mem_map.mp new
        obtain ⟨method, expanded, later⟩ := List.mem_flatMap.mp inside
        obtain ⟨route, _, rfl⟩ := List.mem_map.mp later
        exact upper_expandMethods (by decide +kernel) expanded

theorem addFallback (collected : Collected log service) (method : String) (handler : Handler) :
    Collected (log ++ service.acceptedFallbacks method handler)
      (service.addFallback method handler).2 := by
  obtain ⟨routes, fallbacks, phase, same, readable⟩ := collected.tables
  obtain ⟨host, stored⟩ := addFallback_collecting phase method handler
  rw [acceptedFallbacks_collecting phase, stored]
  refine ⟨⟨_, _, rfl, ?_, readable⟩, ?_⟩
  · rw [Log.snapshot_append, ← same, Fallbacks.insertAll_spec]
  · intro entry member
    rcases List.mem_append.mp member with before | new
    · exact collected.upper entry before
    · obtain ⟨expanded, inside, rfl⟩ := List.mem_map.mp new
      exact upper_expandMethods (by decide +kernel) inside

/-- Every run keeps the tables equal to the replayed log. -/
theorem registers {more : Log} {final : Service} (collected : Collected log service)
    (run : Registers service more final) : Collected (log ++ more) final := by
  induction run generalizing log with
  | done service => simpa using collected
  | addRoute methods template handler _ ih =>
    rw [← List.append_assoc]
    exact ih (collected.addRoute methods template handler)
  | addFallback method handler _ ih =>
    rw [← List.append_assoc]
    exact ih (collected.addFallback method handler)
  | group stem body _ _ inside rest =>
    rw [← List.append_assoc]
    exact rest ((inside (collected.of_phase rfl)).of_phase rfl)

end Collected

end Service

/-- A table that the log replays to, with its expressions. -/
structure Table.Replays (table : Table) (log : Log) : Prop where
  snapshot : Snapshot.ofTable table = log.snapshot
  readable : table.routes.Readable

namespace Table.Replays

variable {table : Table} {log : Log}

theorem static (replays : table.Replays log) :
    table.routes.static = ByMethod.ofEntries (log.routes .static) :=
  congrArg Snapshot.static replays.snapshot

theorem dynamic (replays : table.Replays log) :
    ByMethod.mapEach DynamicRoute.handler table.routes.dynamic =
      ByMethod.ofEntries (log.routes .dynamic) :=
  congrArg Snapshot.dynamic replays.snapshot

theorem static_keys (replays : table.Replays log) :
    table.routes.static.keys = ((log.routes .static).map Prod.fst).eraseDups := by
  rw [replays.static, ByMethod.keys_ofEntries]

theorem dynamic_keys (replays : table.Replays log) :
    table.routes.dynamic.keys = ((log.routes .dynamic).map Prod.fst).eraseDups := by
  rw [← OrderedMap.keys_mapValues fun bucket => bucket.mapValues DynamicRoute.handler]
  exact (congrArg OrderedMap.keys replays.dynamic).trans (ByMethod.keys_ofEntries _)

end Table.Replays

namespace Service

theorem finish_collecting {service : Service} {routes : RouteSet} {fallbacks : Fallbacks}
    (phase : service.router.phase = .collecting routes fallbacks) :
    service.finish.1 = ⟨routes, fallbacks⟩ := by
  simp only [finish, phase]

namespace Collected

variable {log : Log} {service : Service}

theorem replays (collected : Collected log service) : service.finish.1.Replays log := by
  obtain ⟨routes, fallbacks, phase, same, readable⟩ := collected.tables
  rw [finish_collecting phase]
  exact ⟨same, readable⟩

private theorem upper_routes (collected : Collected log service) {kind : RouteKind} {method : String}
    (member : method ∈ ((log.routes kind).map Prod.fst).eraseDups) : method.toUpper = method := by
  obtain ⟨triple, inside, rfl⟩ := List.mem_map.mp (List.mem_eraseDups.mp member)
  obtain ⟨entry, logged, selected⟩ := List.mem_filterMap.mp inside
  have upper := collected.upper entry logged
  cases entry with
  | fallback method handler => cases selected
  | route method other key handler =>
    simp only [LogEntry.route?] at selected
    split at selected
    · cases selected
      exact upper
    · cases selected

/-- The methods of a table that registrations have built are in upper case. -/
theorem upper_methods (collected : Collected log service) {method : String}
    (member : method ∈ service.finish.1.routes.static.keys ∨
      method ∈ service.finish.1.routes.dynamic.keys) : method.toUpper = method := by
  rw [collected.replays.static_keys, collected.replays.dynamic_keys] at member
  exact member.elim collected.upper_routes collected.upper_routes

end Collected

end Service

end PathRouting
