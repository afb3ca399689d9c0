import PathRouting.Matcher

/-! Route tables. Routes are kept per method: static ones under their path, dynamic
ones under the text of their expression. The order of entries is the order of
registration, and for dynamic routes that order is their priority. -/

namespace PathRouting

/-- What a route leads to: a name that the caller understands. -/
abbrev Handler := String

/-- A route that is ready to be stored. -/
inductive Route where
  /-- Matches one path. -/
  | static (path : String)
  /-- Matches every path that its expression accepts. -/
  | dynamic (matcher : Matcher)

/-- The two kinds of routes. -/
inductive RouteKind where
  | static
  | dynamic
  deriving DecidableEq, Repr

def RouteKind.name : RouteKind → String
  | static => "static"
  | dynamic => "dynamic"

namespace Route

def kind : Route → RouteKind
  | static _ => .static
  | dynamic _ => .dynamic

/-- What a route is stored under: its path, or the text of its expression. -/
def key : Route → String
  | static path => path
  | dynamic matcher => matcher.source

/-- The route of a token sequence. It is static if it is a single literal. -/
def compile (tokens : List Token) : Except RouteError Route :=
  match tokens with
  | [.literal path] => .ok (.static path)
  | _ => (Matcher.ofTokens tokens).map .dynamic

end Route

structure DynamicRoute where
  matcher : Matcher
  handler : Handler

/-- Entries by method and key. -/
abbrev ByMethod (β : Type) := OrderedMap String (OrderedMap String β)

namespace ByMethod

variable {β : Type}

def put (table : ByMethod β) (method key : String) (value : β) : ByMethod β :=
  table.insert method (((table.get? method).getD OrderedMap.empty).insert key value)

def find? (table : ByMethod β) (method key : String) : Option β :=
  (table.get? method).bind fun bucket => bucket.get? key

def count (table : ByMethod β) : Nat :=
  table.values.foldr (fun bucket total => bucket.size + total) 0

end ByMethod

/-- The routes that have been registered. -/
structure RouteSet where
  static : ByMethod Handler
  dynamic : ByMethod DynamicRoute

namespace RouteSet

def empty : RouteSet := ⟨OrderedMap.empty, OrderedMap.empty⟩

instance : Inhabited RouteSet := ⟨empty⟩

/-- Stores a route for a method. A route with the same key gets the new handler and
keeps its place. -/
def insert (routes : RouteSet) (method : String) (route : Route) (handler : Handler) : RouteSet :=
  match route with
  | .static path => { routes with static := ByMethod.put routes.static method path handler }
  | .dynamic matcher =>
    { routes with
      dynamic := ByMethod.put routes.dynamic method matcher.source ⟨matcher, handler⟩ }

def add (routes : RouteSet) (method : String) (tokens : List Token) (handler : Handler) :
    Except RouteError RouteSet :=
  (Route.compile tokens).map fun route => routes.insert method route handler

end RouteSet

/-- Handlers for requests that match no route, by method. -/
abbrev Fallbacks := OrderedMap String Handler

/-- The finished routes of a router together with its fallbacks. -/
structure Table where
  routes : RouteSet
  fallbacks : Fallbacks
  deriving Inhabited

namespace Table

def staticCount (table : Table) : Nat := ByMethod.count table.routes.static

def dynamicCount (table : Table) : Nat := ByMethod.count table.routes.dynamic

def fallback? (table : Table) (method : String) : Option Handler := table.fallbacks.get? method

end Table

end PathRouting
