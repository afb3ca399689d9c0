import PathRouting.Json.Decode
import PathRouting.Table

/-! Snapshots hold a table as plain data: dynamic routes are handlers under the text
of their expressions. A snapshot can be written as JSON and read back; the
expressions are then read anew. -/

namespace PathRouting

/-- The data of a table. -/
structure Snapshot where
  static : ByMethod Handler
  dynamic : ByMethod Handler
  fallbacks : Fallbacks
  deriving DecidableEq

namespace Snapshot

def ofTable (table : Table) : Snapshot where
  static := table.routes.static
  dynamic := table.routes.dynamic.mapValues fun bucket => bucket.mapValues DynamicRoute.handler
  fallbacks := table.fallbacks

/-- Reads the expressions of one method; the first that cannot be read is reported. -/
def readBucket (entries : List (String × Handler)) :
    Except RouteError (OrderedMap String DynamicRoute) :=
  (entries.mapM fun entry =>
    (Matcher.ofSource entry.1).map fun matcher => (entry.1, DynamicRoute.mk matcher entry.2)).map
      OrderedMap.ofList

def toTable (snapshot : Snapshot) : Except RouteError Table := do
  let dynamic ← snapshot.dynamic.entries.mapM fun entry =>
    (readBucket entry.2.entries).map fun bucket => (entry.1, bucket)
  return ⟨⟨snapshot.static, OrderedMap.ofList dynamic⟩, snapshot.fallbacks⟩

/-- Whether two snapshots hold the same entries, in whatever order. -/
def sameEntries (first second : Snapshot) : Bool :=
  let sameByMethod (a b : ByMethod Handler) : Bool :=
    a.size == b.size &&
      a.entries.all fun entry =>
        match b.get? entry.1 with
        | some bucket => entry.2.sameEntries bucket
        | none => false
  sameByMethod first.static second.static && sameByMethod first.dynamic second.dynamic &&
    first.fallbacks.sameEntries second.fallbacks

def handlersJson (handlers : OrderedMap String Handler) : Json :=
  .object (handlers.entries.map fun entry => (entry.1, .string entry.2))

/-- Handlers by method and name as a JSON object. -/
def byMethodJson (table : ByMethod Handler) : Json :=
  .object (table.entries.map fun entry => (entry.1, handlersJson entry.2))

/-- The snapshot as JSON, with all entries in their order. -/
def toJson (snapshot : Snapshot) : Json :=
  .object [("static", byMethodJson snapshot.static), ("dynamic", byMethodJson snapshot.dynamic),
    ("errors", handlersJson snapshot.fallbacks)]

def handlers? (room : Nat) (tree : Json.Tree) : Option (OrderedMap String Handler) :=
  tree.map? (fun _ value => value.string?) room

/-- Reads a snapshot. All three parts have to be there. -/
def ofTree? (room : Nat) (tree : Json.Tree) : Option Snapshot := do
  let (room, fields) ← tree.fields? ["static", "dynamic", "errors"] room
  match fields with
  | [some static, some dynamic, some fallbacks] =>
    return {
      static := ← static.map? handlers? room
      dynamic := ← dynamic.map? handlers? room
      fallbacks := ← handlers? room fallbacks }
  | _ => none

def read? (text : String) : Option Snapshot :=
  (Json.Tree.read? text).bind (ofTree? Json.maxDepth)

def ofJson? (value : Json) : Option Snapshot := ofTree? Json.maxDepth value.toTree

end Snapshot

end PathRouting
