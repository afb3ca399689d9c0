import PathRouting.Text

/-! The arguments of the program. The configuration is named before the command; the
flag of a command may stand anywhere after it. Behind a lone `--` no argument is an
option, and a lone `-` never is one. -/

namespace PathRouting.CommandLine

/-- What the program is asked to do. -/
inductive Action where
  | parse (template : String)
  | aliases
  | table
  | dispatch (method path : String) (wantAllowed : Bool)
  deriving DecidableEq, Repr

/-- What the program is asked to do, and with which configuration. -/
structure Invocation where
  /-- The path of the configuration; without it the default one is taken. -/
  config : Option String
  action : Action
  deriving DecidableEq, Repr

/-- What arguments mean. -/
inductive Reading where
  | run (invocation : Invocation)
  /-- A description of the arguments is asked for. -/
  | help
  /-- The arguments make no sense. -/
  | misuse
  deriving DecidableEq, Repr

/-- A command and its arguments so far. -/
structure Draft where
  command : String
  values : List String := []
  allowed : Bool := false
  /-- Whether a lone `--` has been seen. -/
  plain : Bool := false

namespace Draft

def arity (draft : Draft) : Nat :=
  match draft.command with
  | "parse" => 1
  | "dispatch" => 2
  | _ => 0

def action? (draft : Draft) : Option Action :=
  match draft.command, draft.values with
  | "parse", [template] => some (.parse template)
  | "sugar", [] => some .aliases
  | "table", [] => some .table
  | "dispatch", [method, path] => some (.dispatch method path draft.allowed)
  | _, _ => none

end Draft

/-- Whether an argument has the form of an option. -/
def isOption (argument : String) : Bool := argument.startsWith "-" && argument ≠ "-"

/-- Whether an option asks for help: `--help`, or a row of letters that begins with `h`. -/
def asksHelp (argument : String) : Bool := argument = "--help" || argument.startsWith "-h"

def readCommand (config : Option String) (draft : Draft) : List String → Reading
  | [] =>
    match draft.action? with
    | some action => .run ⟨config, action⟩
    | none => .misuse
  | argument :: rest =>
    if argument = "--" && !draft.plain then readCommand config { draft with plain := true } rest
    else if isOption argument && !draft.plain then
      if argument = "--allowed" && draft.command = "dispatch" && !draft.allowed then
        readCommand config { draft with allowed := true } rest
      else if asksHelp argument then .help
      else .misuse
    else if draft.values.length < draft.arity then
      readCommand config { draft with values := draft.values ++ [argument] } rest
    else .misuse

/-- The path that is written in one argument with its option. -/
def attachedPath? (argument : String) : Option String :=
  match argument.toList with
  | '-' :: '-' :: 'c' :: 'o' :: 'n' :: 'f' :: 'i' :: 'g' :: '=' :: path => some (String.ofList path)
  | '-' :: 'c' :: '=' :: path => some (String.ofList path)
  | '-' :: 'c' :: path => some (String.ofList path)
  | _ => none

def commands : List String := ["parse", "sugar", "table", "dispatch"]

/-- Reads the arguments of the program. The configuration may be named once, and its
path may not be empty. -/
def readAll (config : Option String) : List String → Reading
  | [] => .misuse
  | argument :: rest =>
    if argument ∈ commands then readCommand config { command := argument } rest
    else if argument = "help" || asksHelp argument then .help
    else if argument = "-c" || argument = "--config" then
      match rest with
      | [] => .misuse
      | path :: rest =>
        if config.isSome || path = "" || isOption path then .misuse else readAll (some path) rest
    else
      match attachedPath? argument with
      | none => .misuse
      | some path => if config.isSome || path = "" then .misuse else readAll (some path) rest

def read (arguments : List String) : Reading := readAll none arguments

end PathRouting.CommandLine
