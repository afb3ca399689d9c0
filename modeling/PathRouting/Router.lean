import PathRouting.Dispatch
import PathRouting.Snapshot
import PathRouting.Store
import PathRouting.Template

/-! Routers collect routes until the table is first needed; from then on the table
is fixed and further registrations are refused. A template is parsed and compiled
as a whole before anything is stored, so a refused registration leaves no trace. A
router may keep its table in a store and start from a kept table that is fresh. -/

namespace PathRouting

/-- The methods meant by `*` for routes. -/
def anyMethods : List String := ["GET", "POST", "HEAD", "PUT", "DELETE", "PATCH"]

/-- The methods meant by `*` for fallbacks. -/
def fallbackMethods : List String := ["GET", "POST", "HEAD", "PUT", "DELETE"]

/-- The methods in upper case, with `*` replaced by the methods that it means. -/
def expandMethods (wildcard : List String) (methods : List String) : List String :=
  methods.flatMap fun method => if method = "*" then wildcard else [method.toUpper]

/-- The use of a store by a router. -/
structure Cache where
  store : Store
  /-- The age in seconds up to which a kept table is used. -/
  expiry : Nat
  enabled : Bool := true
  deriving DecidableEq, Repr

inductive Phase where
  /-- Taking registrations. -/
  | collecting (routes : RouteSet) (fallbacks : Fallbacks)
  /-- Answering from its table. -/
  | finished (table : Table)

/-- A collection of routes that becomes a table. -/
structure Router where
  aliases : AliasTable := AliasTable.standard
  /-- The text put in front of every template: the stems of the open groups. -/
  stem : String := ""
  phase : Phase := .collecting RouteSet.empty OrderedMap.empty
  cache : Option Cache := none

structure Service where
  router : Router
  host : Host

namespace Router

/-- Whether the table is fixed. -/
def isFinished (router : Router) : Bool :=
  match router.phase with
  | .finished _ => true
  | .collecting .. => false

def activeCache? (router : Router) : Option Cache := router.cache.filter Cache.enabled

def isCacheEnabled (router : Router) : Bool := router.activeCache?.isSome

/-- Switches the cache on or off. Without a cache nothing changes. -/
def setCacheEnabled (router : Router) (enabled : Bool) : Router :=
  { router with cache := router.cache.map fun cache => { cache with enabled := enabled } }

def withCache (router : Router) (store : Store) (expiry : Nat) : Router :=
  { router with cache := some { store, expiry } }

/-- Keeps the stem up to a given length. -/
def cutStem (router : Router) (length : Nat) : Router :=
  { router with stem := String.ofList (router.stem.toList.take length) }

/-- The routes that a template stands for under the stem of the router. -/
def compile (router : Router) (template : String) : Except RouteError (List Route) := do
  (← Template.parse router.aliases (router.stem ++ template)).mapM Route.compile

end Router

def Host.registered (host : Host) (method : String) (route : Route) : Host :=
  (host.log {
    level := .debug, area := .registration, message := "Adding route"
    fields := [("method", method), ("kind", route.kind.name), ("key", route.key)] }).count
      (Series.registered route.kind.name)

/-- The value under which a table is kept: its snapshot, with entries by key. -/
def Table.encode (table : Table) : Json := (Snapshot.ofTable table).toJson.sorted

/-- The table of a kept value. -/
def Table.decode (value : Json) : Except CacheError Table :=
  match Snapshot.ofJson? value with
  | none => .error .unreadable
  | some snapshot =>
    match snapshot.toTable with
    | .ok table => .ok table
    | .error _ => .error .malformed

namespace Service

/-- Registers a template for several methods. Without methods nothing happens, and
the template is not looked at. -/
def addRoute (methods : List String) (template : String) (handler : Handler)
    (service : Service) : Except RouteError Unit × Service :=
  match service.router.phase with
  | .finished _ => (.error .registrationClosed, service)
  | .collecting routes fallbacks =>
    if methods.isEmpty then
      (.ok (), { service with host := service.host.log {
        level := .debug, area := .router, message := "No methods given, nothing registered"
        fields := [("template", template)] } })
    else
      match service.router.compile template with
      | .error error => (.error error, service)
      | .ok compiled =>
        let entries := (expandMethods anyMethods methods).flatMap fun method =>
          compiled.map fun route => (method, route)
        let routes := entries.foldl (fun routes entry =>
          routes.insert entry.1 entry.2 handler) routes
        let host := entries.foldl (fun host entry => host.registered entry.1 entry.2) service.host
        (.ok (), { router := { service.router with phase := .collecting routes fallbacks }, host })

/-- Registers a fallback for one method. -/
def addFallback (method : String) (handler : Handler) (service : Service) :
    Except RouteError Unit × Service :=
  match service.router.phase with
  | .finished _ => (.error .registrationClosed, service)
  | .collecting routes fallbacks =>
    let methods := expandMethods fallbackMethods [method]
    let fallbacks := methods.foldl (fun fallbacks method =>
      fallbacks.insert method handler) fallbacks
    let host := methods.foldl (fun host method => host.log {
      level := .debug, area := .router, message := "Adding fallback handler"
      fields := [("method", method)] }) service.host
    (.ok (), { router := { service.router with phase := .collecting routes fallbacks }, host })

/-- Runs registrations with a further stem in front of their templates. Afterwards the
stem is cut back to its former length, whether or not they succeed. -/
def group {α : Type} (stem : String) (body : Service → α × Service) (service : Service) :
    α × Service :=
  let outer := service.router.stem
  let (result, after) := body { service with
    router := { service.router with stem := outer ++ stem } }
  (result, { after with router := after.router.cutStem outer.length })

/-- Keeps a table in the cache of the router, if there is one that is switched on. A
failure is only reported. -/
def saveTable (table : Table) (service : Service) : Service :=
  match service.router.activeCache? with
  | none => service
  | some cache =>
    match cache.store.save ⟨service.host.now, table.encode⟩ service.host with
    | (.ok _, host) => { service with host }
    | (.error _, host) =>
      { service with host := host.log {
        level := .warn, area := .router, message := "Failed to save route cache" } }

/-- The table of the router. The first call fixes it and keeps it in the cache. -/
def finish (service : Service) : Table × Service :=
  match service.router.phase with
  | .finished table => (table, service)
  | .collecting routes fallbacks =>
    let table : Table := ⟨routes, fallbacks⟩
    let host := ((service.host.log {
      level := .info, area := .router, message := "Route table finalized"
      fields := [("static_routes", toString table.staticCount),
        ("dynamic_routes", toString table.dynamicCount),
        ("fallbacks", toString table.fallbacks.size)] }).gauge
          (Series.compiled "static") table.staticCount).gauge
            (Series.compiled "dynamic") table.dynamicCount
    let saved := saveTable table { service with host }
    (table, { saved with router := { saved.router with phase := .finished table } })

/-- Answers a request and fixes the table if that has not been done. -/
def dispatch (method path : String) (wantAllowed : Bool) (service : Service) : Outcome × Service :=
  let (table, service) := service.finish
  let outcome := table.dispatch method path wantAllowed
  let host := (service.host.log {
    level := .trace, area := .dispatch, message := "Dispatched request"
    fields := [("method", method.toUpper), ("path", path), ("outcome", outcome.label)] }).count
      (Series.dispatches outcome.label)
  (outcome, { service with host })

/-- Counts a look into the cache that gave no table. -/
def missed (service : Service) (host : Host) (result : String) : Except RouteError Bool × Service :=
  (.ok false, { service with host := host.count (Series.cacheLoads result) })

/-- Fixes the table from the cache if a fresh one is kept there that can be rebuilt.
In all other cases the router stays open. -/
def loadCache (service : Service) : Except RouteError Bool × Service :=
  if service.router.isFinished then (.error .registrationClosed, service)
  else
    match service.router.activeCache? with
    | none => (.ok false, service)
    | some cache =>
      match cache.store.load service.host with
      | (.ok none, host) => service.missed host "miss"
      | (.error _, host) =>
        service.missed (host.log {
          level := .warn, area := .router, message := "Route cache unreadable, recompiling" })
          "malformed"
      | (.ok (some stored), host) =>
        if !stored.isFresh cache.expiry host.now then
          service.missed (host.log {
            level := .info, area := .router, message := "Route cache expired, recompiling"
            fields := [("expire_secs", toString cache.expiry)] }) "stale"
        else
          match Table.decode stored.table with
          | .error _ =>
            service.missed (host.log {
              level := .warn, area := .router, message := "Route cache malformed, recompiling" })
              "malformed"
          | .ok table =>
            let host := (host.log {
              level := .info, area := .router, message := "Route table loaded from cache"
              fields := [("static_routes", toString table.staticCount),
                ("dynamic_routes", toString table.dynamicCount)] }).count (Series.cacheLoads "hit")
            (.ok true,
              { router := { service.router with phase := .finished table }, host })

end Service

end PathRouting
