import PathRouting.Toml.Moment
import PathRouting.Toml.Number
import PathRouting.Toml.Section

/-! Reading TOML. A document is a row of statements: headers, which open a table or
an element of a table array, and keys with their values, which go into the table
opened last. -/

namespace PathRouting.Toml

/-- A key as written: the names of the tables on the way, and the last name. -/
structure Key where
  path : List String
  last : String
  deriving DecidableEq, Repr

/-- A statement of a document. -/
inductive Statement where
  | table (key : Key)
  | element (key : Key)
  | value (key : Key) (value : Toml)

/-- The most names that a key may have. -/
def maxNames : Nat := 79

/-- The number of arrays and inline tables that may be open at once. -/
def maxDepth : Nat := 79

def isBare (c : Char) : Bool := Text.isLetter c || Text.isDigit c || c = '_' || c = '-'

def name? (text : List Char) : Option (String × List Char) :=
  match text with
  | '"' :: _ => lineString? text
  | '\'' :: _ => lineString? text
  | text =>
    let bare := text.takeWhile isBare
    if bare.isEmpty then none else some (String.ofList bare, text.dropWhile isBare)

/-- A key of at most the given number of names, and the text after it. Blanks may
surround the names. -/
def key? : Nat → List Char → Option (Key × List Char)
  | 0, _ => none
  | names + 1, text => do
    let (name, after) ← name? (skipBlank text)
    match skipBlank after with
    | '.' :: rest =>
      let (key, last) ← key? names rest
      return ({ key with path := name :: key.path }, last)
    | after => return (⟨[], name⟩, after)

/-- The text after a comment, which reaches to the end of its line, and after blanks
before it. -/
def skipComment (text : List Char) : List Char :=
  match skipBlank text with
  | '#' :: rest => rest.dropWhile isPrintable
  | text => text

/-- The text after the rest of a line, which holds nothing but a comment. -/
def lineEnd? (text : List Char) : Option (List Char) :=
  match skipComment text with
  | [] => some []
  | text => lineBreak? text

/-- The text after blanks, line breaks and comments, as they may stand between the
items of an array; `lines` bounds the number of line breaks. -/
def skipLines : (lines : Nat) → List Char → List Char
  | 0, text => text
  | lines + 1, text =>
    match lineBreak? (skipComment text) with
    | some rest => skipLines lines rest
    | none => skipBlank text

/-- How a value is read. -/
abbrev Reader := List Char → Option (Toml × List Char)

/-- The items of an array after its opening bracket, up to the closing one. A comma
may follow the last item. The text may not be longer than `size`, and `count` bounds
the number of items. -/
def items? (value? : Reader) (size : Nat) :
    (count : Nat) → List Char → Option (List Toml × List Char)
  | 0, _ => none
  | count + 1, text =>
    match skipLines size text with
    | ']' :: rest => some ([], rest)
    | text => do
      let (item, after) ← value? text
      match skipLines size after with
      | ']' :: rest => return ([item], rest)
      | ',' :: rest =>
        let (others, last) ← items? value? size count rest
        return (item :: others, last)
      | _ => none

def entry? (value? : Reader) (text : List Char) : Option (Key × Toml × List Char) := do
  let (key, afterKey) ← key? maxNames text
  match afterKey with
  | '=' :: rest =>
    let (value, after) ← value? (skipBlank rest)
    return (key, value, after)
  | _ => none

/-- The entries of an inline table after its opening brace, up to the closing one;
`count` bounds their number. -/
def entries? (value? : Reader) :
    (count : Nat) → List Char → Option (List (Key × Toml) × List Char)
  | 0, _ => none
  | count + 1, text => do
    let (key, value, after) ← entry? value? text
    match skipBlank after with
    | '}' :: rest => return ([(key, value)], rest)
    | ',' :: rest =>
      let (others, last) ← entries? value? count rest
      return ((key, value) :: others, last)
    | _ => none

/-- The inline table with the given entries. -/
def inlineTable? (entries : List (Key × Toml)) : Option Toml :=
  let add (found : Section.Entries) (entry : Key × Toml) : Option Section.Entries :=
    Section.addValue entry.1.path entry.1.last entry.2 found
  (entries.foldlM add []).map fun found => .table (Section.entryValues found)

def scalar? (text : List Char) : Option (Toml × List Char) :=
  match text with
  | '"' :: _ => (string? text).map fun found => (.string found.1, found.2)
  | '\'' :: _ => (string? text).map fun found => (.string found.1, found.2)
  | 't' :: 'r' :: 'u' :: 'e' :: rest => some (.bool true, rest)
  | 'f' :: 'a' :: 'l' :: 's' :: 'e' :: rest => some (.bool false, rest)
  | text =>
    match moment? text with
    | some (value, after) => some (.moment value, after)
    | none => number? text

/-- A value with at most `depth` open arrays and inline tables. The text may not be
longer than `size`. -/
def value? (size : Nat) : (depth : Nat) → Reader
  | 0, text => scalar? text
  | depth + 1, text =>
    match text with
    | '[' :: rest => (items? (value? size depth) size size rest).map fun found =>
        (.array found.1, found.2)
    | '{' :: rest =>
      match skipBlank rest with
      | '}' :: after => some (.table [], after)
      | _ => do
        let (entries, after) ← entries? (value? size depth) size rest
        return (← inlineTable? entries, after)
    | text => scalar? text

/-- The statement at the head of a line, and the text after it. -/
def statement? (size : Nat) (text : List Char) : Option (Statement × List Char) :=
  match text with
  | '[' :: '[' :: rest => do
    let (key, after) ← key? maxNames rest
    let last ← (expect? ']' after).bind (expect? ']')
    return (.element key, last)
  | '[' :: rest => do
    let (key, after) ← key? maxNames rest
    return (.table key, ← expect? ']' after)
  | text => do
    let (key, value, after) ← entry? (value? size maxDepth) text
    return (.value key value, after)

/-- The statements of a document that is not longer than `size`; `lines` bounds the
number of its lines. -/
def statements? (size : Nat) : (lines : Nat) → List Char → Option (List Statement)
  | 0, _ => none
  | lines + 1, text =>
    match lineEnd? text with
    | some [] => some []
    | some rest => statements? size lines rest
    | none => do
      let (statement, after) ← statement? size (skipBlank text)
      return statement :: (← statements? size lines (← lineEnd? after))

/-- A document that has been read in part: its outermost table, and the path of the
table that was opened last. -/
structure Draft where
  entries : Section.Entries := []
  current : List String := []

/-- Carries out a statement. -/
def Draft.add (draft : Draft) : Statement → Option Draft
  | .table key =>
    (Section.openTable key.path key.last draft.entries).map fun entries =>
      ⟨entries, key.path ++ [key.last]⟩
  | .element key =>
    (Section.openElement key.path key.last draft.entries).map fun entries =>
      ⟨entries, key.path ++ [key.last]⟩
  | .value key value =>
    let inner? := Section.alter false (fun _ entries =>
      Section.addValue key.path key.last value entries) draft.current .header draft.entries
    inner?.map fun entries => { draft with entries := entries }

/-- The table that a text describes. A byte order mark in front is left out. -/
def read? (text : String) : Option Toml := do
  let text :=
    match text.toList with
    | '\ufeff' :: rest => rest
    | text => text
  let statements ← statements? text.length (text.length + 1) text
  let draft ← statements.foldlM Draft.add {}
  return .table (Section.entryValues draft.entries)

end PathRouting.Toml
