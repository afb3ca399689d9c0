import PathRouting.Proofs.AllowedMethods

/-! A request answered from the log of accepted registrations alone. The order of
first appearance gives a dynamic route its priority, and the last entry with the
same method and key gives it its handler. A router answers in exactly this way. -/

namespace PathRouting

def capture? (source path : String) : Option Params :=
  match Matcher.ofSource source with
  | .ok matcher => matcher.captures? path
  | .error _ => none

namespace Log

def methods (log : Log) (kind : RouteKind) : List String :=
  ((log.routes kind).map Prod.fst).eraseDups

def sources (log : Log) (method : String) : List String :=
  ((ByMethod.ofMethod method (log.routes .dynamic)).map Prod.fst).eraseDups

def handler? (log : Log) (method : String) (kind : RouteKind) (key : String) : Option Handler :=
  OrderedMap.lastValue? key (ByMethod.ofMethod method (log.routes kind))

def fallback? (log : Log) (method : String) : Option Handler :=
  OrderedMap.lastValue? method log.fallbacks

/-- What a method answers to a path: its static route, or else the first of its
dynamic sources that captures the path. -/
def answer? (log : Log) (method path : String) : Option Outcome :=
  match log.handler? method .static path with
  | some handler => some (.found handler OrderedMap.empty)
  | none =>
    (log.sources method).findSome? fun source =>
      (capture? source path).bind fun params =>
        (log.handler? method .dynamic source).map fun handler => .found handler params

/-- The other methods that answer to a path: first those with a static route for it,
then those with a dynamic one, each in order of first appearance. -/
def allowed (log : Log) (method path : String) : List String :=
  let static := (log.methods .static).filter fun other =>
    other ≠ method && (log.handler? other .static path).isSome
  let dynamic := (log.methods .dynamic).filter fun other =>
    other ≠ method && (log.sources other).any fun source => (capture? source path).isSome
  (static ++ dynamic).eraseDups

/-- The answer to a request. HEAD is tried as GET after its own routes, and a miss
carries the last fallback of the method. -/
def dispatch (log : Log) (method path : String) (wantAllowed : Bool) : Outcome :=
  let method := method.toUpper
  let asGet := if method = "HEAD" then log.answer? "GET" path else none
  match log.answer? method path <|> asGet with
  | some outcome => outcome
  | none =>
    let allowed := if wantAllowed then log.allowed method path else []
    if allowed.isEmpty then .notFound (log.fallback? method)
    else .methodNotAllowed allowed (log.fallback? method)

end Log

namespace Matcher

theorem captures?_congr {first second : Matcher} (same : first.regex = second.regex) (path : String) :
    first.captures? path = second.captures? path := by
  rw [captures?, captures?, same]

end Matcher

theorem RouteSet.Readable.capture? {routes : RouteSet} (readable : routes.Readable)
    {method source : String} {route : DynamicRoute}
    (found : ByMethod.find? routes.dynamic method source = some route) (path : String) :
    PathRouting.capture? source path = route.matcher.captures? path := by
  obtain ⟨matcher, read, same⟩ := readable method source route found
  rw [PathRouting.capture?, read]
  exact Matcher.captures?_congr same path

namespace Table.Replays

variable {table : Table} {log : Log}

theorem find?_static (replays : table.Replays log) (method path : String) :
    ByMethod.find? table.routes.static method path = log.handler? method .static path := by
  rw [replays.static, ByMethod.find?_ofEntries]
  rfl

/-- The bucket of a method holds the method's sources in order, each with the handler
of its last entry. -/
theorem bucket (replays : table.Replays log) {method : String}
    {bucket : OrderedMap String DynamicRoute}
    (found : table.routes.dynamic.get? method = some bucket) :
    bucket.keys = log.sources method ∧
      ∀ source, (bucket.get? source).map DynamicRoute.handler = log.handler? method .dynamic source := by
  have handlers : bucket.mapValues DynamicRoute.handler =
      OrderedMap.ofList (ByMethod.ofMethod method (log.routes .dynamic)) := by
    have replayed := ByMethod.get?_ofEntries (log.routes .dynamic) method
    rw [← replays.dynamic, ByMethod.mapEach, OrderedMap.get?_mapValues, found] at replayed
    split at replayed
    · exact Option.some.inj replayed
    · cases replayed
  constructor
  · rw [← OrderedMap.keys_mapValues DynamicRoute.handler, handlers, OrderedMap.keys_ofList]
    rfl
  · intro source
    rw [← OrderedMap.get?_mapValues, handlers, OrderedMap.get?_ofList]
    rfl

private theorem no_bucket (replays : table.Replays log) {method : String}
    (missing : table.routes.dynamic.get? method = none) : log.sources method = [] := by
  have replayed := ByMethod.get?_ofEntries (log.routes .dynamic) method
  rw [← replays.dynamic, ByMethod.mapEach, OrderedMap.get?_mapValues, missing] at replayed
  split at replayed
  · cases replayed
  next absent => rw [Log.sources, ByMethod.ofMethod_of_absent absent]; rfl

theorem matchMethod? (replays : table.Replays log) (method path : String) :
    table.matchMethod? method path = log.answer? method path := by
  simp only [Table.matchMethod?, Log.answer?, replays.find?_static]
  cases log.handler? method .static path with
  | some handler => rfl
  | none =>
    cases found : table.routes.dynamic.get? method with
    | none => simp [replays.no_bucket found]
    | some bucket =>
      obtain ⟨keys, handlers⟩ := replays.bucket found
      simp only [Option.bind_some, matchDynamic?, OrderedMap.findSome?_values, keys]
      apply OrderedMap.findSome?_congr
      intro source _
      cases stored : bucket.get? source with
      | none => simp [← handlers, stored]
      | some route =>
        have entry : ByMethod.find? table.routes.dynamic method source = some route := by
          rw [ByMethod.find?, found, Option.bind_some, stored]
        rw [replays.readable.capture? entry path, ← handlers, stored]
        cases captured : route.matcher.captures? path <;> simp [captured]

theorem fallback? (replays : table.Replays log) (method : String) :
    table.fallback? method = log.fallback? method := by
  have same : table.fallbacks = OrderedMap.ofList log.fallbacks :=
    congrArg Snapshot.fallbacks replays.snapshot
  rw [Table.fallback?, same, OrderedMap.get?_ofList]
  rfl

private theorem staticMethods (replays : table.Replays log) (method path : String) :
    table.staticMethods method path = (log.methods .static).filter fun other =>
      other ≠ method && (log.handler? other .static path).isSome := by
  have keys : table.routes.static.keys = log.methods .static := replays.static_keys
  rw [Table.staticMethods,
    OrderedMap.keys_filter table.routes.static fun other bucket => other ≠ method && bucket.contains path,
    keys]
  apply List.filter_congr
  intro other _
  rw [← replays.find?_static, ByMethod.find?]
  cases table.routes.static.get? other with
  | none => simp
  | some bucket => rfl

private theorem dynamicMethods (replays : table.Replays log) (method path : String) :
    table.dynamicMethods method path = (log.methods .dynamic).filter fun other =>
      other ≠ method && (log.sources other).any fun source => (capture? source path).isSome := by
  have keys : table.routes.dynamic.keys = log.methods .dynamic := replays.dynamic_keys
  rw [Table.dynamicMethods,
    OrderedMap.keys_filter table.routes.dynamic fun other bucket =>
      other ≠ method && bucket.values.any fun route => route.matcher.accepts path,
    keys]
  apply List.filter_congr
  intro other _
  cases found : table.routes.dynamic.get? other with
  | none => simp [replays.no_bucket found]
  | some bucket =>
    obtain ⟨sources, _⟩ := replays.bucket found
    simp only [Option.any_some, OrderedMap.any_values, sources]
    congr 1
    rw [Bool.eq_iff_iff, List.any_eq_true, List.any_eq_true]
    apply exists_congr
    intro source
    apply and_congr_right
    intro member
    rw [← sources, ← OrderedMap.get?_isSome_iff, Option.isSome_iff_exists] at member
    obtain ⟨route, stored⟩ := member
    have entry : ByMethod.find? table.routes.dynamic other source = some route := by
      rw [ByMethod.find?, found, Option.bind_some, stored]
    rw [stored, replays.readable.capture? entry path, Matcher.isSome_captures?]
    rfl

private theorem allowedMethods (replays : table.Replays log) (method path : String) :
    table.allowedMethods method path = log.allowed method path := by
  rw [Log.allowed, Table.allowedMethods_eq_eraseDups, replays.staticMethods, replays.dynamicMethods]

/-- The table answers as the log does. -/
theorem dispatch (replays : table.Replays log) (method path : String) (wantAllowed : Bool) :
    table.dispatch method path wantAllowed = log.dispatch method path wantAllowed := by
  simp only [Table.dispatch, Table.resolve, replays.matchMethod?, replays.fallback?,
    replays.allowedMethods]
  rfl

end Table.Replays

namespace Service

theorem dispatch_eq (service : Service) (method path : String) (wantAllowed : Bool) :
    (service.dispatch method path wantAllowed).1 =
      service.finish.1.dispatch method path wantAllowed := rfl

/-- After any run of registrations on a fresh router, requests are answered as the log of
accepted registrations says. -/
theorem dispatch_eq_log_dispatch (aliases : AliasTable) (cache : Option Cache) (host : Host)
    {log : Log} {final : Service} (run : Registers ⟨{ aliases, cache }, host⟩ log final)
    (method path : String) (wantAllowed : Bool) :
    (final.dispatch method path wantAllowed).1 = log.dispatch method path wantAllowed := by
  have collected : Collected log final := (Collected.initial aliases cache host).registers run
  rw [dispatch_eq]
  exact collected.replays.dispatch method path wantAllowed

/-- A group whose first call is refused, and a fallback: the log holds what was accepted,
and requests are answered from it. -/
theorem dispatch_eq_log_dispatch_group :
    let fresh : Service := ⟨{}, {}⟩
    let body : Service → Except RouteError Unit × Service := fun inner =>
      (inner.addRoute ["get"] "/{y}]" "lost").2.addRoute ["GET"] "/{y}" "second"
    let final := (((fresh.addRoute ["get"] "/a/{x}" "first").2.group "/a" body).2.addFallback
      "put" "none").2
    (final.dispatch "head" "/a/1" false).1 = .found "first" (OrderedMap.ofList [("x", "1")]) ∧
      (final.dispatch "put" "/a/1" true).1 = .methodNotAllowed ["GET"] (some "none") := by
  intro fresh body final
  have run : ∃ log, Registers fresh log final ∧ log =
      [.route "GET" .dynamic "^/a/(?P<x>[^/]+)$" "first",
        .route "GET" .dynamic "^/a/(?P<y>[^/]+)$" "second", .fallback "PUT" "none"] := by
    refine ⟨_, .addRoute _ _ _ (.group "/a" body (.addRoute _ _ _ (.addRoute _ _ _ (.done _)))
      (.addFallback _ _ (.done _))), ?_⟩
    decide +kernel
  obtain ⟨log, run, rfl⟩ := run
  rw [dispatch_eq_log_dispatch _ _ _ run, dispatch_eq_log_dispatch _ _ _ run]
  refine ⟨?_, ?_⟩
  · decide +kernel
  · decide +kernel

end Service

end PathRouting
