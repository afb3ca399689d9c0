import PathRouting.OrderedMap
import PathRouting.Text

/-! Aliases are short names for common pattern fragments: with the standard table
`{id:i}` means `{id:\d+}`. A table is plain data; extending it gives a new one. -/

namespace PathRouting

/-- The fragment of a placeholder without a pattern of its own. -/
def defaultPattern : String := "[^/]+"

/-- Fragments under their aliases, in order of first insertion. -/
structure AliasTable where
  entries : OrderedMap String String
  deriving DecidableEq

namespace AliasTable

def empty : AliasTable := ⟨OrderedMap.empty⟩

/-- The table with further entries; an alias that is present gets the new fragment. -/
def extend (table : AliasTable) (entries : List (String × String)) : AliasTable :=
  ⟨table.entries.insertAll entries⟩

def ofList (entries : List (String × String)) : AliasTable := empty.extend entries

/-- The aliases that are in effect when nothing else is said. -/
def standard : AliasTable :=
  ofList [("i", "\\d+"), ("h", "[0-9a-fA-F]+"), ("o", "[0-7]"), ("a", "[a-zA-Z]+"),
    ("c", "[a-zA-Z_][a-zA-Z0-9_-]*"), ("*", defaultPattern), ("", defaultPattern)]

instance : Inhabited AliasTable := ⟨standard⟩

def get? (table : AliasTable) (name : String) : Option String := table.entries.get? name

/-- The pattern that a placeholder stands for. Text that is an alias as a whole
gives the trimmed fragment and other text stands for itself; a placeholder
without a pattern takes the fragment of the empty alias. -/
def resolve (table : AliasTable) : Option String → String
  | some text =>
    match table.get? text with
    | some fragment => Text.trimmed fragment
    | none => text
  | none =>
    match table.get? "" with
    | some fragment => Text.trimmed fragment
    | none => defaultPattern

def size (table : AliasTable) : Nat := table.entries.size

end AliasTable

end PathRouting
