/-! What a router reports: events with a level and fields, counters and gauges. All
reports go into one journal; the log and the metrics are views of it. -/

namespace PathRouting

/-- How important an event is, from the least to the most. -/
inductive Level where
  | trace
  | debug
  | info
  | warn
  | error
  deriving DecidableEq, Repr

namespace Level

def name : Level → String
  | trace => "TRACE"
  | debug => "DEBUG"
  | info => "INFO"
  | warn => "WARN"
  | error => "ERROR"

/-- The number of levels that are more important. -/
def rank : Level → Nat
  | error => 0
  | warn => 1
  | info => 2
  | debug => 3
  | trace => 4

end Level

/-- The part of the program that an event comes from. -/
inductive Area where
  | program
  | registration
  | dispatch
  | router
  | store
  | configuration
  deriving DecidableEq, Repr

/-- The name by which a log filter selects a part of the program. -/
def Area.target : Area → String
  | program => "route_compiler"
  | registration => "route_compiler::routing::compiler"
  | dispatch => "route_compiler::routing::dispatcher"
  | router => "route_compiler::routing::router"
  | store => "route_compiler::cache::store"
  | configuration => "route_compiler::config::loader"

/-- Something that happened, with named details. -/
structure Event where
  level : Level
  area : Area
  message : String
  fields : List (String × String) := []
  deriving DecidableEq, Repr

structure Series where
  name : String
  label : String
  value : String
  deriving DecidableEq, Repr

namespace Series

/-- Requests by outcome. -/
def dispatches (outcome : String) : Series := ⟨"router_dispatch_total", "outcome", outcome⟩

/-- Stored routes by kind. -/
def registered (kind : String) : Series := ⟨"router_routes_registered_total", "kind", kind⟩

/-- Entries of the finished table by kind. -/
def compiled (kind : String) : Series := ⟨"router_compiled_routes", "kind", kind⟩

/-- Looks into the cache by result. -/
def cacheLoads (result : String) : Series := ⟨"router_cache_loads_total", "result", result⟩

def tag (series : Series) : String := series.label ++ "=" ++ series.value

/-- The order of a metrics report: by name, then by label. -/
def before (first second : Series) : Bool :=
  first.name < second.name || (first.name = second.name && first.tag < second.tag)

end Series

/-- One report. -/
inductive Report where
  | event (event : Event)
  | count (series : Series)
  | gauge (series : Series) (value : Nat)
  deriving DecidableEq, Repr

/-- Reports, latest first. -/
structure Journal where
  reports : List Report := []
  deriving DecidableEq, Repr, Inhabited

namespace Journal

def add (journal : Journal) (report : Report) : Journal := ⟨report :: journal.reports⟩

/-- The events, oldest first. -/
def events (journal : Journal) : List Event :=
  journal.reports.reverse.filterMap fun report =>
    match report with
    | .event event => some event
    | _ => none

def total (journal : Journal) (series : Series) : Nat := journal.reports.count (.count series)

/-- The last value of a gauge. -/
def gauge? (journal : Journal) (series : Series) : Option Nat :=
  journal.reports.findSome? fun report =>
    match report with
    | .gauge other value => if other = series then some value else none
    | _ => none

/-- Changes the value of a series in a sorted row, which starts at zero. -/
def update (series : Series) (change : Nat → Nat) : List (Series × Nat) → List (Series × Nat)
  | [] => [(series, change 0)]
  | entry :: rest =>
    if entry.1 = series then (series, change entry.2) :: rest
    else if series.before entry.1 then (series, change 0) :: entry :: rest
    else entry :: update series change rest

def metrics (journal : Journal) : List (Series × Nat) :=
  journal.reports.foldr (fun report values =>
    match report with
    | .event _ => values
    | .count series => update series (· + 1) values
    | .gauge series value => update series (fun _ => value) values) []

end Journal

end PathRouting
