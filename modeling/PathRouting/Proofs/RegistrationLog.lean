import PathRouting.Proofs.Attempts
import PathRouting.Proofs.OrderedMaps
import PathRouting.Router

/-! What a router has accepted, as a list in the order of time. The tables that a
router fills are determined by this list: it can be replayed from nothing, and
every stored expression can be read again from the text it is stored under. -/

namespace PathRouting

/-- One accepted registration: a route of one method, or the fallback of one method. -/
inductive LogEntry where
  | route (method : String) (kind : RouteKind) (key : String) (handler : Handler)
  | fallback (method : String) (handler : Handler)
  deriving DecidableEq, Repr

namespace LogEntry

def method : LogEntry → String
  | route method _ _ _ => method
  | fallback method _ => method

def route? (kind : RouteKind) : LogEntry → Option (String × String × Handler)
  | route method other key handler => if other = kind then some (method, key, handler) else none
  | fallback .. => none

def fallback? : LogEntry → Option (String × Handler)
  | route .. => none
  | fallback method handler => some (method, handler)

end LogEntry

abbrev Log := List LogEntry

namespace Log

def routes (log : Log) (kind : RouteKind) : List (String × String × Handler) :=
  log.filterMap (LogEntry.route? kind)

def fallbacks (log : Log) : List (String × Handler) := log.filterMap LogEntry.fallback?

/-- The tables that result from the log, without the expressions that were read. -/
def snapshot (log : Log) : Snapshot where
  static := ByMethod.ofEntries (log.routes .static)
  dynamic := ByMethod.ofEntries (log.routes .dynamic)
  fallbacks := OrderedMap.ofList log.fallbacks

private theorem routes_append (first second : Log) (kind : RouteKind) :
    routes (first ++ second) kind = routes first kind ++ routes second kind :=
  List.filterMap_append

private theorem fallbacks_append (first second : Log) :
    fallbacks (first ++ second) = fallbacks first ++ fallbacks second :=
  List.filterMap_append

end Log

namespace Snapshot

def record (snapshot : Snapshot) : LogEntry → Snapshot
  | .route method .static key handler =>
    { snapshot with static := ByMethod.put snapshot.static method key handler }
  | .route method .dynamic key handler =>
    { snapshot with dynamic := ByMethod.put snapshot.dynamic method key handler }
  | .fallback method handler =>
    { snapshot with fallbacks := snapshot.fallbacks.insert method handler }

end Snapshot

theorem Log.snapshot_concat (log : Log) (entry : LogEntry) :
    Log.snapshot (log ++ [entry]) = log.snapshot.record entry := by
  simp only [Log.snapshot, Log.routes_append, Log.fallbacks_append]
  cases entry with
  | fallback method handler =>
    simp [Log.routes, Log.fallbacks, LogEntry.route?, LogEntry.fallback?, List.filterMap_cons,
      Snapshot.record, OrderedMap.ofList_concat]
  | route method kind key handler =>
    cases kind <;>
      simp [Log.routes, Log.fallbacks, LogEntry.route?, LogEntry.fallback?, List.filterMap_cons,
        Snapshot.record, ByMethod.ofEntries_concat]

theorem Log.snapshot_append (log more : Log) :
    Log.snapshot (log ++ more) = more.foldl Snapshot.record log.snapshot := by
  induction more generalizing log with
  | nil => simp
  | cons entry more ih =>
    rw [← List.singleton_append, ← List.append_assoc, ih, Log.snapshot_concat]
    rfl

namespace RouteSet

/-- Every stored expression is the one that its key is the text of. -/
def Readable (routes : RouteSet) : Prop :=
  ∀ method source route, ByMethod.find? routes.dynamic method source = some route →
    ∃ matcher, Matcher.ofSource source = .ok matcher ∧ matcher.regex = route.matcher.regex

theorem readable_empty : empty.Readable := by
  intro method source route found
  cases found

end RouteSet

namespace Route

/-- The expression of a dynamic route can be read again from its text. -/
def Readable : Route → Prop
  | static _ => True
  | dynamic matcher =>
    ∃ again, Matcher.ofSource matcher.source = .ok again ∧ again.regex = matcher.regex

end Route

theorem Matcher.source_ofSource {source : String} {matcher : Matcher}
    (read : Matcher.ofSource source = .ok matcher) : matcher.source = source := by
  simp only [Matcher.ofSource] at read
  split at read
  · cases read
  next regex found =>
    cases read
    obtain ⟨expr, _, rfl⟩ := Option.map_eq_some_iff.mp found
    rfl

/-- A matcher can be read again, under whatever names. -/
theorem Route.readable_ofSource {source : String} {matcher : Matcher}
    (read : Matcher.ofSource source = .ok matcher) (names : List String) :
    (dynamic { matcher with names }).Readable := by
  refine ⟨matcher, ?_, rfl⟩
  rw [show Matcher.source { matcher with names } = matcher.source from rfl,
    Matcher.source_ofSource read, read]

theorem Route.readable_ofTokens {tokens : List Token} {matcher : Matcher}
    (made : Matcher.ofTokens tokens = .ok matcher) : (dynamic matcher).Readable := by
  simp only [Matcher.ofTokens] at made
  split at made
  · cases made
  next =>
    obtain ⟨_, read, rfl⟩ := exists_of_map_ok made
    exact readable_ofSource read _

theorem Route.readable_compile {tokens : List Token} {route : Route}
    (compiled : Route.compile tokens = .ok route) : route.Readable := by
  simp only [Route.compile] at compiled
  split at compiled
  · cases compiled
    trivial
  · obtain ⟨_, made, rfl⟩ := exists_of_map_ok compiled
    exact readable_ofTokens made

theorem ByMethod.find?_put {β : Type} (table : ByMethod β) (method key : String) (value : β)
    (method' key' : String) :
    ByMethod.find? (ByMethod.put table method key value) method' key' =
      if method = method' ∧ key = key' then some value else ByMethod.find? table method' key' := by
  simp only [ByMethod.find?, ByMethod.put, OrderedMap.get?_insert]
  by_cases sameMethod : method = method'
  · subst sameMethod
    simp only [if_true, Option.bind_some, OrderedMap.get?_insert, true_and]
    cases table.get? method <;> rfl
  · simp [sameMethod]

/-- Storing a route records it in the snapshot and keeps all expressions readable. -/
theorem RouteSet.insert_spec (routes : RouteSet) (fallbacks : Fallbacks) (method : String)
    (route : Route) (handler : Handler) :
    Snapshot.ofTable ⟨routes.insert method route handler, fallbacks⟩ =
      (Snapshot.ofTable ⟨routes, fallbacks⟩).record (.route method route.kind route.key handler) := by
  cases route with
  | static path => rfl
  | dynamic matcher =>
    have recorded := ByMethod.mapEach_put DynamicRoute.handler routes.dynamic method matcher.source
      ⟨matcher, handler⟩
    simp only [ByMethod.mapEach] at recorded
    simp only [RouteSet.insert, Snapshot.ofTable, Snapshot.record, Route.kind, Route.key, recorded]

theorem RouteSet.Readable.insert {routes : RouteSet} (readable : routes.Readable) (method : String)
    {route : Route} (new : route.Readable) (handler : Handler) :
    (routes.insert method route handler).Readable := by
  cases route with
  | static path => exact readable
  | dynamic matcher =>
    intro other source stored found
    simp only [RouteSet.insert, ByMethod.find?_put] at found
    split at found
    next same =>
      cases found
      rw [← same.2]
      exact new
    next => exact readable other source stored found

end PathRouting
