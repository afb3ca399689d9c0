import PathRouting.CommandLine.Arguments
import PathRouting.Config.Build
import PathRouting.Config.Load
import PathRouting.LogFilter

/-! Runs of the program. A run takes the configuration, does what it is asked to do,
and reports a document or an error. Events are logged once the configuration, which
says what to log, is there. -/

namespace PathRouting.CommandLine

/-- What a run leaves behind. -/
structure Report where
  /-- Zero for success, one for a failure, two for arguments that make no sense. -/
  status : Nat
  document : Option String := none
  failure : Option String := none
  /-- The events that pass the filter, oldest first. -/
  logged : List Event := []
  /-- How the events are laid out. -/
  layout : Config.LogFormat := .full

def describeError : RouteError → String
  | .badPattern fault route =>
    "BadPattern \x7b reason: " ++ Text.quoted fault.message ++ ", route: " ++ Text.quoted route ++
      " \x7d"
  | .duplicateVariable name route =>
    "DuplicateVariable \x7b name: " ++ Text.quoted name ++ ", route: " ++ Text.quoted route ++
      " \x7d"
  | .invalidRegex _ => "InvalidRegex"
  | .registrationClosed => "RegistrationClosed"

def describeLoadError : Config.LoadError → String
  | .unreadable => "Io"
  | .illFormed => "Parse"
  | .invalid problems =>
    "Validation([" ++ String.intercalate ", " (problems.map Config.Problem.describe) ++ "])"

def tokenJson : Token → Json
  | .literal text => .object [("literal", .string text)]
  | .parameter name pattern =>
    .object [("variable", .object [("name", .string name), ("pattern", .string pattern)])]

def outcomeJson (outcome : Outcome) : Json :=
  let optional (handler : Option Handler) : Json := (handler.map Json.string).getD .null
  let details :=
    match outcome with
    | .found handler params =>
      [("handler", .string handler),
        ("params", .object (params.entries.map fun entry => (entry.1, .string entry.2)))]
    | .methodNotAllowed allowed fallback =>
      [("allowed", .array (allowed.map .string)), ("fallback", optional fallback)]
    | .notFound fallback => [("fallback", optional fallback)]
  .object (("status", .string outcome.label) :: details)

def logAliases (aliases : AliasTable) (host : Host) : Host :=
  host.log {
    level := .debug, area := .program, message := "Sugar table ready"
    fields := [("aliases", toString aliases.size)] }

/-- Does what is asked for: a document or an error. -/
def perform (config : Config) (action : Action) (host : Host) : Except RouteError Json × Host :=
  let aliases := config.allAliases
  match action with
  | .parse template =>
    let routes := Template.parse aliases template
    (routes.map fun routes => .array (routes.map fun tokens => .array (tokens.map tokenJson)),
      logAliases aliases host)
  | .aliases =>
    (.ok (.object (aliases.entries.entries.map fun entry => (entry.1, .string entry.2))),
      logAliases aliases host)
  | .table =>
    match config.build host with
    | (.error error, service) => (.error error, service.host)
    | (.ok _, service) =>
      let (table, service) := service.finish
      (.ok (Snapshot.ofTable table).toJson, service.host)
  | .dispatch method path wantAllowed =>
    match config.build host with
    | (.error error, service) => (.error error, service.host)
    | (.ok _, service) =>
      let (outcome, service) := service.dispatch method path wantAllowed
      (.ok (outcomeJson outcome), service.host.log {
        level := .info, area := .program, message := "Dispatch complete"
        fields := [("method", method), ("path", path), ("outcome", outcome.label)] })

/-- The configuration of an invocation. -/
def configuration (invocation : Invocation) (host : Host) :
    Except Config.LoadError Config × Host :=
  match invocation.config with
  | some path => Config.load path host
  | none => (.ok {}, host)

/-- The filter of the log: the given one if it can be read, or else the one of the
configuration. -/
def logFilter (config : Config) (given : Option String) : LogFilter :=
  (given.bind LogFilter.read?).getD (LogFilter.ofLevel config.logging.level)

def logStart (invocation : Invocation) (host : Host) : Host :=
  let path :=
    match invocation.config with
    | some path => "Some(" ++ Text.quotedPath path ++ ")"
    | none => "None"
  host.log {
    level := .debug, area := .program, message := "route-compiler starting"
    fields := [("config", path)] }

def runInvocation (filter : Option String) (invocation : Invocation) (host : Host) :
    Report × Host :=
  match configuration invocation host with
  | (.error error, host) =>
    ({ status := 1, failure := some ("Error: " ++ describeLoadError error) }, host)
  | (.ok config, host) =>
    let started := logStart invocation { host with journal := {} }
    let (result, host) := perform config invocation.action started
    let report : Report := {
      status := 0
      logged := host.journal.events.filter (logFilter config filter).passes
      layout := config.logging.format }
    match result with
    | .ok document => ({ report with document := some document.pretty }, host)
    | .error error =>
      ({ report with status := 1, failure := some ("Error: " ++ describeError error) }, host)

/-- An event as it is written to the log at a given time. -/
def logLine (layout : Config.LogFormat) (time : String) (event : Event) : String :=
  let start := time ++ " " ++ event.level.name ++ " " ++ event.area.target ++ ": " ++ event.message
  match layout with
  | .full | .compact =>
    event.fields.foldl (fun line field => line ++ " " ++ field.1 ++ "=" ++ field.2) start
  | .pretty =>
    "  " ++ event.fields.foldl (fun line field => line ++ ", " ++ field.1 ++ ": " ++ field.2) start

def usage : String :=
  "Usage: route-compiler [--config <CONFIG>] <parse <TEMPLATE>|sugar|table|" ++
    "dispatch [--allowed] <METHOD> <PATH>>"

def run (filter : Option String) (arguments : List String) (host : Host) : Report × Host :=
  match read arguments with
  | .run invocation => runInvocation filter invocation host
  | .help => ({ status := 0, document := some usage }, host)
  | .misuse => ({ status := 2, failure := some usage }, host)

end PathRouting.CommandLine
