/-! JSON values and their text. An object lists its entries in the order in which
they are written. A value that has been read without a type in mind, such as a
stored table, lists them by key. -/

namespace PathRouting

/-- A number of a JSON text. Whole numbers that fit a machine word stay exact;
all others are held as the bit pattern of a double. -/
inductive Json.Number where
  /-- A whole number below 2^64. -/
  | natural (value : Nat)
  /-- The negative of a whole number from 1 to 2^63. -/
  | negative (magnitude : Nat)
  /-- A double, by its bits. -/
  | double (bits : UInt64)
  deriving DecidableEq, Repr

/-- A JSON value. -/
inductive Json where
  | null
  | bool (value : Bool)
  | number (value : Json.Number)
  | string (value : String)
  | array (items : List Json)
  | object (entries : List (String × Json))
  deriving Repr, Inhabited

namespace Json

def ofNat (n : Nat) : Json := .number (.natural n)

/-- The entries of an object, or nothing for another value. -/
def entries : Json → List (String × Json)
  | object entries => entries
  | _ => []

def field (value : Json) (name : String) : Json :=
  ((value.entries.find? fun entry => entry.1 == name).map Prod.snd).getD null

/-- Writes an entry into a list that is sorted by key, replacing one with the same key. -/
def insertSorted {β : Type} (key : String) (value : β) : List (String × β) → List (String × β)
  | [] => [(key, value)]
  | entry :: rest =>
    if key = entry.1 then (key, value) :: rest
    else if key < entry.1 then (key, value) :: entry :: rest
    else entry :: insertSorted key value rest

/-- The entries by key, in the order of code points. Of two entries with one key the
later counts. -/
def sortEntries {β : Type} (entries : List (String × β)) : List (String × β) :=
  entries.foldl (fun sorted entry => insertSorted entry.1 entry.2 sorted) []

mutual

/-- The value with the entries of every object sorted by key. -/
def sorted : Json → Json
  | null => null
  | bool value => bool value
  | number value => number value
  | string value => string value
  | array items => array (sortedItems items)
  | object entries => object (sortEntries (sortedFields entries))

def sortedItems : List Json → List Json
  | [] => []
  | item :: rest => sorted item :: sortedItems rest

def sortedFields : List (String × Json) → List (String × Json)
  | [] => []
  | (key, value) :: rest => (key, sorted value) :: sortedFields rest

end

end Json

end PathRouting
