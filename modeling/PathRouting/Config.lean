import PathRouting.OrderedMap

/-! The configuration of a program that serves routes. -/

namespace PathRouting

namespace Config

/-- How log lines are laid out. -/
inductive LogFormat where
  | full
  | compact
  | pretty
  deriving DecidableEq, Repr

namespace LogFormat

def name : LogFormat → String
  | full => "full"
  | compact => "compact"
  | pretty => "pretty"

def ofName? (name : String) : Option LogFormat :=
  [full, compact, pretty].find? fun format => format.name = name

end LogFormat

/-- What is logged, and how. -/
structure Logging where
  level : String := "info"
  format : LogFormat := .full
  deriving DecidableEq, Repr

/-- Whether and where the table is kept, and for how many seconds. -/
structure CacheUse where
  enabled : Bool := false
  path : Option String := none
  expiry : Nat := 30
  deriving DecidableEq, Repr

/-- A route for some methods. -/
structure RouteEntry where
  methods : List String := ["GET"]
  pattern : String
  handler : String
  deriving DecidableEq, Repr

/-- Routes and groups with a common stem. -/
inductive Group where
  | mk (stem : String) (routes : List RouteEntry) (groups : List Group)
  deriving Repr

/-- A handler for requests of some methods that match no route. -/
structure FallbackEntry where
  methods : List String := ["*"]
  handler : String
  deriving DecidableEq, Repr

end Config

structure Config where
  logging : Config.Logging := {}
  cache : Config.CacheUse := {}
  /-- Aliases on top of the standard ones. -/
  aliases : OrderedMap String String := OrderedMap.empty
  routes : List Config.RouteEntry := []
  groups : List Config.Group := []
  fallbacks : List Config.FallbackEntry := []

instance : Inhabited Config := ⟨{}⟩

end PathRouting
