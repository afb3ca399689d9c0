import PathRouting.Table

/-! Answering requests from a table. A static route of the method comes first, then
the method's dynamic routes in order of registration; HEAD is then tried as GET. A
request that finds nothing may ask for the other methods that would. -/

namespace PathRouting

/-- The answer to a request. -/
inductive Outcome where
  | found (handler : Handler) (params : Params)
  /-- Only other methods have a route for the path. -/
  | methodNotAllowed (allowed : List String) (fallback : Option Handler)
  | notFound (fallback : Option Handler)
  deriving DecidableEq

namespace Outcome

def isFound : Outcome → Bool
  | found .. => true
  | _ => false

/-- The handler of the route, or the fallback if there is one. -/
def handler? : Outcome → Option Handler
  | found handler _ => some handler
  | methodNotAllowed _ fallback => fallback
  | notFound fallback => fallback

def params? : Outcome → Option Params
  | found _ params => some params
  | _ => none

def label : Outcome → String
  | found .. => "found"
  | methodNotAllowed .. => "method_not_allowed"
  | notFound _ => "not_found"

end Outcome

namespace Table

/-- The first dynamic route in order that matches the path. -/
def matchDynamic? (routes : List DynamicRoute) (path : String) : Option Outcome :=
  routes.findSome? fun route => (route.matcher.captures? path).map (.found route.handler)

def matchMethod? (table : Table) (method path : String) : Option Outcome :=
  match ByMethod.find? table.routes.static method path with
  | some handler => some (.found handler OrderedMap.empty)
  | none =>
    (table.routes.dynamic.get? method).bind fun routes => matchDynamic? routes.values path

/-- The other methods with a static route for the path. -/
def staticMethods (table : Table) (method path : String) : List String :=
  (table.routes.static.entries.filter fun entry =>
    entry.1 ≠ method && entry.2.contains path).map Prod.fst

/-- The other methods with a dynamic route that accepts the path. -/
def dynamicMethods (table : Table) (method path : String) : List String :=
  (table.routes.dynamic.entries.filter fun entry =>
    entry.1 ≠ method && entry.2.values.any fun route => route.matcher.accepts path).map Prod.fst

/-- The other methods with a route for the path, each once: those with a static route
in their order, then those that have a dynamic one only. -/
def allowedMethods (table : Table) (method path : String) : List String :=
  let static := table.staticMethods method path
  static ++ (table.dynamicMethods method path).filter fun other => other ∉ static

/-- Answers a request whose method is in upper case. -/
def resolve (table : Table) (method path : String) (wantAllowed : Bool) : Outcome :=
  let asGet := if method = "HEAD" then table.matchMethod? "GET" path else none
  match table.matchMethod? method path <|> asGet with
  | some outcome => outcome
  | none =>
    let fallback := table.fallback? method
    let allowed := if wantAllowed then table.allowedMethods method path else []
    if allowed.isEmpty then .notFound fallback else .methodNotAllowed allowed fallback

/-- Answers a request. The method counts in upper case, as far as ASCII goes. -/
def dispatch (table : Table) (method path : String) (wantAllowed : Bool) : Outcome :=
  table.resolve method.toUpper path wantAllowed

end Table

end PathRouting
