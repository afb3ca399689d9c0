import PathRouting.Json.Decode

/-! A table as it is kept in a store: its JSON value and the time at which it was
saved, in seconds. -/

namespace PathRouting

structure StoredTable where
  savedAt : Nat
  table : Json

namespace StoredTable

/-- The seconds since the table was saved; a table from the future has age zero. -/
def age (stored : StoredTable) (now : Nat) : Nat := now - stored.savedAt

/-- Whether the table is no older than `expiry` seconds. -/
def isFresh (stored : StoredTable) (expiry now : Nat) : Bool := stored.age now ≤ expiry

def toJson (stored : StoredTable) : Json :=
  .object [("saved_at", .ofNat stored.savedAt), ("table", stored.table)]

/-- Reads a kept table. Both parts have to be there. -/
def ofTree? (room : Nat) (tree : Json.Tree) : Option StoredTable := do
  let (room, fields) ← tree.fields? ["saved_at", "table"] room
  match fields with
  | [some savedAt, some table] => return ⟨← savedAt.natural?, ← table.value? room⟩
  | _ => none

def read? (text : String) : Option StoredTable :=
  (Json.Tree.read? text).bind (ofTree? Json.maxDepth)

end StoredTable

end PathRouting
