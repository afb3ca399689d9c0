import PathRouting.Config
import PathRouting.Json.Decode
import PathRouting.Toml.Reader

/-! Configurations in TOML and in JSON. Both use the same names and the same defaults.
They differ in small points: a record that is written as an array may be longer than
its fields in TOML only, and a layout may also be the one key of a table whose value
says nothing, which is an empty table or array in TOML and `null` in JSON. -/

namespace PathRouting.Config

/-- The notation that a configuration is written in. -/
inductive Dialect where
  | json
  | toml
  deriving DecidableEq, Repr

namespace Dialect

/-- Whether an array may hold more items than the record that it stands for. -/
def allowsFurther : Dialect → Bool
  | json => false
  | toml => true

/-- Whether a value says nothing. -/
def isVoid : Dialect → Json.Tree → Bool
  | json, .null => true
  | toml, .array [] => true
  | toml, .object [] => true
  | _, _ => false

end Dialect

/-- Reads a field that may be missing. -/
def withDefault {β : Type} (default : β) (decode : Json.Tree → Option β) :
    Option Json.Tree → Option β
  | none => some default
  | some tree => decode tree

def strings? (room : Nat) (tree : Json.Tree) : Option (List String) :=
  tree.list? (fun _ item => item.string?) room

def LogFormat.ofTree? (dialect : Dialect) (room : Nat) (tree : Json.Tree) : Option LogFormat :=
  match tree with
  | .string name => name.bind ofName?
  | .object [(name, value)] =>
    if room ≠ 0 && dialect.isVoid value then name.bind ofName? else none
  | _ => none

def Logging.ofTree? (dialect : Dialect) (room : Nat) (tree : Json.Tree) : Option Logging := do
  let (room, fields) ← tree.fields? ["log_level", "log_format"] room dialect.allowsFurther
  match fields with
  | [level, format] =>
    return {
      level := ← withDefault "info" (·.string?) level
      format := ← withDefault .full (LogFormat.ofTree? dialect room) format }
  | _ => none

/-- A path that may be `null`. -/
def path? (tree : Json.Tree) : Option (Option String) :=
  match tree with
  | .null => some none
  | tree => tree.string?.map some

def CacheUse.ofTree? (dialect : Dialect) (room : Nat) (tree : Json.Tree) : Option CacheUse := do
  let (_, fields) ← tree.fields? ["enabled", "path", "expire_secs"] room dialect.allowsFurther
  match fields with
  | [enabled, path, expiry] =>
    return {
      enabled := ← withDefault false (·.bool?) enabled
      path := ← withDefault none path? path
      expiry := ← withDefault 30 (·.natural?) expiry }
  | _ => none

def RouteEntry.ofTree? (dialect : Dialect) (room : Nat) (tree : Json.Tree) :
    Option RouteEntry := do
  let (room, fields) ← tree.fields? ["methods", "pattern", "handler"] room dialect.allowsFurther
  match fields with
  | [methods, some pattern, some handler] =>
    return {
      methods := ← withDefault ["GET"] (strings? room) methods
      pattern := ← pattern.string?
      handler := ← handler.string? }
  | _ => none

def routes? (dialect : Dialect) (room : Nat) (tree : Json.Tree) : Option (List RouteEntry) :=
  tree.list? (RouteEntry.ofTree? dialect) room

/-- A group; `depth` bounds how deep groups nest. -/
def Group.ofTree? (dialect : Dialect) :
    (depth : Nat) → (room : Nat) → Json.Tree → Option Group
  | 0, _, _ => none
  | depth + 1, room, tree => do
    let (room, fields) ← tree.fields? ["prefix", "routes", "groups"] room dialect.allowsFurther
    match fields with
    | [some stem, routes, groups] =>
      return .mk (← stem.string?) (← withDefault [] (routes? dialect room) routes)
        (← withDefault [] (fun tree => tree.list? (ofTree? dialect depth) room) groups)
    | _ => none

def FallbackEntry.ofTree? (dialect : Dialect) (room : Nat) (tree : Json.Tree) :
    Option FallbackEntry := do
  let (room, fields) ← tree.fields? ["methods", "handler"] room dialect.allowsFurther
  match fields with
  | [methods, some handler] =>
    return {
      methods := ← withDefault ["*"] (strings? room) methods
      handler := ← handler.string? }
  | _ => none

def aliases? (room : Nat) (tree : Json.Tree) : Option (OrderedMap String String) :=
  tree.map? (fun _ value => value.string?) room

/-- A configuration. Every part may be missing. -/
def ofTree? (dialect : Dialect) (room : Nat) (tree : Json.Tree) : Option Config := do
  let names := ["observability", "cache", "sugar", "routes", "groups", "errors"]
  let (room, fields) ← tree.fields? names room dialect.allowsFurther
  match fields with
  | [logging, cache, aliases, routes, groups, fallbacks] =>
    return {
      logging := ← withDefault {} (Logging.ofTree? dialect room) logging
      cache := ← withDefault {} (CacheUse.ofTree? dialect room) cache
      aliases := ← withDefault OrderedMap.empty (aliases? room) aliases
      routes := ← withDefault [] (routes? dialect room) routes
      groups := ← withDefault []
        (fun tree => tree.list? (Group.ofTree? dialect room) room) groups
      fallbacks := ← withDefault []
        (fun tree => tree.list? (FallbackEntry.ofTree? dialect) room) fallbacks }
  | _ => none

def ofJsonText? (text : String) : Option Config :=
  (Json.Tree.read? text).bind (ofTree? .json Json.maxDepth)

def ofTomlText? (text : String) : Option Config :=
  (Toml.read? text).bind fun value =>
    let tree := value.toTree
    ofTree? .toml tree.depth tree

end PathRouting.Config
