import PathRouting.Json.Tree
import PathRouting.OrderedMap

/-! Typed reading of JSON trees. `room` is the number of arrays and objects that
may still be opened. A record may be written as an object or as the array of its
fields in order; an object may hold further entries, which are not looked at, but
may name no field twice. -/

namespace PathRouting.Json.Tree

def string? : Tree → Option String
  | .string value => value
  | _ => none

def bool? : Tree → Option Bool
  | .bool value => some value
  | _ => none

/-- A whole number below 2^64. -/
def natural? : Tree → Option Nat
  | .number (some (.natural value)) => some value
  | _ => none

def list? {β : Type} (decode : Nat → Tree → Option β) (room : Nat) : Tree → Option (List β)
  | .array items =>
    match room with
    | 0 => none
    | room + 1 => items.mapM (decode room)
  | _ => none

/-- The entries of an object with one kind of value. A repeated key keeps its first
place and gets its last value. -/
def map? {β : Type} (decode : Nat → Tree → Option β) (room : Nat) :
    Tree → Option (OrderedMap String β)
  | .object entries =>
    match room with
    | 0 => none
    | room + 1 =>
      let found := entries.mapM fun (key, value) => do return (← key, ← decode room value)
      found.map OrderedMap.ofList
  | _ => none

/-- The only entry with the given name; more than one is an error. -/
def field? (entries : List (Option String × Tree)) (name : String) : Option (Option Tree) :=
  match entries.filter fun entry => entry.1 == some name with
  | [] => some none
  | [entry] => some (some entry.2)
  | _ => none

/-- The fields of a record with the given names, in their order, and the room that
is left inside of it. A field that is not written is `none`. `further` tells whether
an array may hold more items than there are fields. -/
def fields? (names : List String) (room : Nat) (further : Bool := false) :
    Tree → Option (Nat × List (Option Tree))
  | .object entries =>
    match room with
    | 0 => none
    | room + 1 =>
      if entries.any fun entry => entry.1.isNone then none
      else (names.mapM (field? entries)).map fun found => (room, found)
  | .array items =>
    match room with
    | 0 => none
    | room + 1 =>
      if names.length < items.length && !further then none
      else
        let written := (items.take names.length).map some
        some (room, written ++ List.replicate (names.length - items.length) none)
  | _ => none

end PathRouting.Json.Tree
