import PathRouting.Config.Decode
import PathRouting.Config.Problem
import PathRouting.Store

/-! Taking a configuration from a text or from a file. It is in use only if nothing
is wrong with it. -/

namespace PathRouting.Config

/-- Why a configuration cannot be used. -/
inductive LoadError where
  | unreadable
  | illFormed
  | invalid (problems : List Problem)
  deriving DecidableEq, Repr

/-- The configuration of a TOML text. -/
def parse (text : String) : Except LoadError Config :=
  match ofTomlText? text with
  | none => .error .illFormed
  | some config =>
    match config.problems with
    | [] => .ok config
    | problems => .error (.invalid problems)

def load (path : String) (host : Host) : Except LoadError Config × Host :=
  match host.files.get? path with
  | some (.text text) =>
    match parse text with
    | .error error => (.error error, host)
    | .ok config =>
      (.ok config, host.log {
        level := .debug, area := .configuration, message := "Configuration loaded"
        fields := [("path", Text.quotedPath path),
          ("routes", toString config.routes.length),
          ("groups", toString config.groups.length)] })
  | _ => (.error .unreadable, host)

end PathRouting.Config
