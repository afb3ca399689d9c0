import PathRouting.Toml

/-! Tables while they are being written. What may still be added to a table depends
on how it came about: a table with a header of its own is closed to further headers
and to keys from outside, one that a longer header or a dotted key implies is not.
Inline tables and arrays are values, which never grow. -/

namespace PathRouting.Toml

/-- How a table came about. -/
inductive Origin where
  /-- By a header of its own; also the outermost table and the elements of a table array. -/
  | header
  /-- By a longer header. -/
  | implied
  /-- By a dotted key. -/
  | dotted
  deriving DecidableEq, Repr

/-- What stands under a key of a table that is being written. -/
inductive Section where
  | value (value : Toml)
  | table (origin : Origin) (entries : List (String × Section))
  /-- An array of tables, each with a header of its own. -/
  | tables (elements : List (List (String × Section)))
  deriving Inhabited

namespace Section

/-- The entries of a table that is being written. -/
abbrev Entries := List (String × Section)

def find? (entries : Entries) (key : String) : Option Section :=
  (entries.find? fun entry => entry.1 == key).map Prod.snd

def put (key : String) (content : Section) : Entries → Entries
  | [] => [(key, content)]
  | entry :: rest =>
    if entry.1 = key then (key, content) :: rest else entry :: put key content rest

/-- Changes the table at the end of a path. Tables that are missing on the way are
made; of a table array the last element counts. A path of a dotted key does not lead
through a table that has a header of its own. -/
def alter (dotted : Bool) (change : Origin → Entries → Option Entries) :
    List String → Origin → Entries → Option Entries
  | [], origin, entries => change origin entries
  | key :: path, _, entries =>
    match find? entries key with
    | none =>
      let origin := if dotted then .dotted else .implied
      (alter dotted change path origin []).map fun inner => put key (.table origin inner) entries
    | some (.table origin inner) =>
      if dotted && origin = .header then none
      else (alter dotted change path origin inner).map fun inner =>
        put key (.table origin inner) entries
    | some (.tables elements) =>
      match elements.getLast? with
      | none => none
      | some last =>
        (alter dotted change path .header last).map fun inner =>
          put key (.tables (elements.dropLast ++ [inner])) entries
    | some (.value _) => none

/-- Writes a value under a dotted key. A table gets values either by dotted keys or
under its header, and no key gets a second value. -/
def addValue (path : List String) (key : String) (value : Toml) (entries : Entries) :
    Option Entries :=
  alter true (fun origin entries =>
    if decide (origin = .dotted) = path.isEmpty then none
    else if (find? entries key).isSome then none
    else some (entries ++ [(key, .value value)])) path .header entries

/-- Opens a table by its header. It may have been implied before. -/
def openTable (path : List String) (key : String) (entries : Entries) : Option Entries :=
  alter false (fun _ entries =>
    match find? entries key with
    | none => some (entries ++ [(key, .table .header [])])
    | some (.table .implied inner) => some (put key (.table .header inner) entries)
    | some _ => none) path .header entries

def openElement (path : List String) (key : String) (entries : Entries) : Option Entries :=
  alter false (fun _ entries =>
    match find? entries key with
    | none => some (entries ++ [(key, .tables [[]])])
    | some (.tables elements) => some (put key (.tables (elements ++ [[]])) entries)
    | some _ => none) path .header entries

mutual

def toValue : Section → Toml
  | .value content => content
  | .table _ entries => .table (entryValues entries)
  | .tables elements => .array (elementValues elements)

def entryValues : List (String × Section) → List (String × Toml)
  | [] => []
  | (key, content) :: rest => (key, toValue content) :: entryValues rest

def elementValues : List (List (String × Section)) → List Toml
  | [] => []
  | element :: rest => .table (entryValues element) :: elementValues rest

end

end Section

end PathRouting.Toml
