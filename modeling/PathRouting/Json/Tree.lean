import PathRouting.Json
import PathRouting.Text

/-! JSON text as a tree of its lexemes. The tree keeps what a typed reader needs
to see: the order of entries, repeated keys, and lexemes that are well formed but
have no value, such as half a surrogate pair or a number beyond all doubles.
Parts of a text that nobody asks for may contain such lexemes. -/

namespace PathRouting.Json

/-- A JSON text after lexing. A string or number without a value holds `none`. -/
inductive Tree where
  | null
  | bool (value : Bool)
  | number (value : Option Number)
  | string (value : Option String)
  | array (items : List Tree)
  | object (entries : List (Option String × Tree))
  deriving Repr, Inhabited

/-- One unit of a quoted string: a character, or an escaped 16-bit code. -/
inductive TextUnit where
  | char (c : Char)
  | code (value : Nat)
  deriving DecidableEq

/-- The units up to the closing quote, and the text after it. Control characters
have to be escaped. -/
def readUnits : List Char → Option (List TextUnit × List Char)
  | [] => none
  | '"' :: rest => some ([], rest)
  | '\\' :: 'u' :: a :: b :: c :: d :: rest => do
    let code ← Text.hexNumber? [a, b, c, d]
    let (units, after) ← readUnits rest
    return (.code code :: units, after)
  | '\\' :: c :: rest => do
    let value ←
      match c with
      | '"' => some '"'
      | '\\' => some '\\'
      | '/' => some '/'
      | 'b' => some '\x08'
      | 'f' => some '\x0c'
      | 'n' => some '\n'
      | 'r' => some '\r'
      | 't' => some '\t'
      | _ => none
    let (units, after) ← readUnits rest
    return (.char value :: units, after)
  | c :: rest =>
    if c.toNat < 32 || c = '\\' then none
    else do
      let (units, after) ← readUnits rest
      return (.char c :: units, after)

/-- The characters of a row of units. A high surrogate has to be followed at once
by a low one, and no other surrogate is allowed. -/
def joinUnits : List TextUnit → Option (List Char)
  | [] => some []
  | .char c :: rest => (joinUnits rest).map (c :: ·)
  | .code high :: .code low :: rest =>
    if 0xd800 ≤ high ∧ high < 0xdc00 then
      if 0xdc00 ≤ low ∧ low < 0xe000 then
        (joinUnits rest).map
          (Char.ofNat (0x10000 + (high - 0xd800) * 0x400 + (low - 0xdc00)) :: ·)
      else none
    else if 0xdc00 ≤ high ∧ high < 0xe000 then none
    else (joinUnits (.code low :: rest)).map (Char.ofNat high :: ·)
  | .code code :: rest =>
    if 0xd800 ≤ code ∧ code < 0xe000 then none
    else (joinUnits rest).map (Char.ofNat code :: ·)

def readString (text : List Char) : Option (Option String × List Char) :=
  (readUnits text).map fun (units, after) => ((joinUnits units).map String.ofList, after)

/-- A number as written. -/
structure NumberText where
  negative : Bool
  whole : List Char
  /-- The digits after the point; empty if there is no point. -/
  fraction : List Char
  /-- Whether the exponent is negative, and its digits. -/
  exponent : Option (Bool × List Char)
  deriving DecidableEq

/-- Reads a number: no leading zeros, and a digit after the point and in the exponent. -/
def readNumber (text : List Char) : Option (NumberText × List Char) := do
  let (negative, text) :=
    match text with
    | '-' :: rest => (true, rest)
    | text => (false, text)
  let whole := text.takeWhile Text.isDigit
  let text := text.dropWhile Text.isDigit
  if whole.isEmpty || (whole.head? = some '0' && 1 < whole.length) then none
  let (fraction, text) ←
    match text with
    | '.' :: rest =>
      let digits := rest.takeWhile Text.isDigit
      if digits.isEmpty then none else some (digits, rest.dropWhile Text.isDigit)
    | text => some ([], text)
  let exponentBody? : Option (List Char) :=
    match text with
    | 'e' :: rest => some rest
    | 'E' :: rest => some rest
    | _ => none
  match exponentBody? with
  | none => return (⟨negative, whole, fraction, none⟩, text)
  | some rest =>
    let (down, rest) :=
      match rest with
      | '+' :: rest => (false, rest)
      | '-' :: rest => (true, rest)
      | rest => (false, rest)
    let digits := rest.takeWhile Text.isDigit
    if digits.isEmpty then none
    return (⟨negative, whole, fraction, some (down, digits)⟩, rest.dropWhile Text.isDigit)

/-- Takes digits into a significand for as long as it stays below 2^64: the
significand and the digits that were left out. -/
def significand (start : Nat) : List Char → Nat × List Char
  | [] => (start, [])
  | c :: rest =>
    let next := start * 10 + (c.toNat - '0'.toNat)
    if next < 0x10000000000000000 then significand next rest else (start, c :: rest)

/-- Scales a double by a power of ten, in steps of at most 308. Going beyond all
doubles gives nothing. -/
def scale? : Nat → Float → Int → Option Float
  | 0, _, _ => none
  | steps + 1, value, exponent =>
    if exponent.natAbs ≤ 308 then
      let power := Float.ofScientific 1 false exponent.natAbs
      if 0 ≤ exponent then
        let scaled := value * power
        if scaled.isInf then none else some scaled
      else some (value / power)
    else if value == 0.0 then some value
    else if 0 ≤ exponent then none
    else scale? steps (value / Float.ofScientific 1 false 308) (exponent + 308)

/-- The double for a significand with a decimal exponent: one rounding to a
double and one multiplication or division. -/
def double? (negative : Bool) (significand : Nat) (exponent : Int) : Option Number :=
  (scale? (exponent.natAbs / 308 + 2) significand.toUInt64.toFloat exponent).map fun value =>
    .double (if negative then (-value).toBits else value.toBits)

/-- The value of a number as written. Digits beyond the first that fit 64 bits
only count as powers of ten. -/
def NumberText.value? (number : NumberText) : Option Number :=
  let (whole, beyond) := significand 0 number.whole
  let isWhole := number.fraction.isEmpty && number.exponent.isNone
  if isWhole && beyond.isEmpty then
    if !number.negative then some (.natural whole)
    else if 0 < whole && whole ≤ 0x8000000000000000 then some (.negative whole)
    else double? true whole 0
  else
    -- once a digit has been left out of the whole part, a fraction may still add digits
    let (digits, left) := significand whole number.fraction
    let taken := number.fraction.length - left.length
    let exponent : Int := beyond.length - taken
    match number.exponent with
    | none => double? number.negative digits exponent
    | some (down, power) =>
      let size := Text.number 10 power
      if 0x80000000 ≤ size then
        if digits ≠ 0 && !down then none
        else some (.double (if number.negative then (-0.0 : Float).toBits else 0))
      else double? number.negative digits (if down then exponent - size else exponent + size)

def isSpace (c : Char) : Bool := c = ' ' || c = '\n' || c = '\t' || c = '\r'

def skipSpace (text : List Char) : List Char := text.dropWhile isSpace

mutual

def readTree : Nat → List Char → Option (Tree × List Char)
  | 0, _ => none
  | fuel + 1, text =>
    match skipSpace text with
    | 'n' :: 'u' :: 'l' :: 'l' :: rest => some (.null, rest)
    | 't' :: 'r' :: 'u' :: 'e' :: rest => some (.bool true, rest)
    | 'f' :: 'a' :: 'l' :: 's' :: 'e' :: rest => some (.bool false, rest)
    | '"' :: rest => (readString rest).map fun (value, after) => (.string value, after)
    | '[' :: rest =>
      match skipSpace rest with
      | ']' :: after => some (.array [], after)
      | _ => (readItems fuel rest).map fun (items, after) => (.array items, after)
    | '{' :: rest =>
      match skipSpace rest with
      | '}' :: after => some (.object [], after)
      | _ => (readFields fuel rest).map fun (entries, after) => (.object entries, after)
    | text => (readNumber text).map fun (written, after) => (.number written.value?, after)

def readItems : Nat → List Char → Option (List Tree × List Char)
  | 0, _ => none
  | fuel + 1, text =>
    match readTree fuel text with
    | none => none
    | some (item, after) =>
      match skipSpace after with
      | ']' :: rest => some ([item], rest)
      | ',' :: rest => (readItems fuel rest).map fun (items, last) => (item :: items, last)
      | _ => none

def readFields : Nat → List Char → Option (List (Option String × Tree) × List Char)
  | 0, _ => none
  | fuel + 1, text =>
    match skipSpace text with
    | '"' :: text =>
      match readString text with
      | none => none
      | some (key, after) =>
        match skipSpace after with
        | ':' :: text =>
          match readTree fuel text with
          | none => none
          | some (value, after) =>
            match skipSpace after with
            | '}' :: rest => some ([(key, value)], rest)
            | ',' :: rest =>
              (readFields fuel rest).map fun (entries, last) => ((key, value) :: entries, last)
            | _ => none
        | _ => none
    | _ => none

end

/-- Reads a text that holds one value and nothing else. -/
def Tree.read? (text : String) : Option Tree :=
  let chars := text.toList
  match readTree (2 * chars.length + 2) chars with
  | some (tree, rest) => if (skipSpace rest).isEmpty then some tree else none
  | none => none

mutual

/-- The greatest number of arrays and objects that are open at once. -/
def Tree.depth : Tree → Nat
  | .array items => depthItems items + 1
  | .object entries => depthFields entries + 1
  | _ => 0

def depthItems : List Tree → Nat
  | [] => 0
  | item :: rest => max item.depth (depthItems rest)

def depthFields : List (Option String × Tree) → Nat
  | [] => 0
  | (_, value) :: rest => max value.depth (depthFields rest)

end

mutual

/-- The value of a tree, with the entries of its objects sorted by key; of two
entries with one key the later counts. No lexeme may lack a value, and at most
`room` arrays and objects may be open at once. -/
def Tree.value? (room : Nat) : Tree → Option Json
  | .null => some .null
  | .bool value => some (Json.bool value)
  | .number value => value.map Json.number
  | .string value => value.map Json.string
  | .array items =>
    match room with
    | 0 => none
    | room + 1 => (valueItems room items).map Json.array
  | .object entries =>
    match room with
    | 0 => none
    | room + 1 => (valueFields room entries).map fun found => Json.object (sortEntries found)

def valueItems (room : Nat) : List Tree → Option (List Json)
  | [] => some []
  | item :: rest => do return (← item.value? room) :: (← valueItems room rest)

def valueFields (room : Nat) : List (Option String × Tree) → Option (List (String × Json))
  | [] => some []
  | (key, value) :: rest => do return (← key, ← value.value? room) :: (← valueFields room rest)

end

/-- The number of arrays and objects that may be open at once. -/
def maxDepth : Nat := 127

def read? (text : String) : Option Json := (Tree.read? text).bind (Tree.value? maxDepth)

mutual

def toTree : Json → Tree
  | null => .null
  | bool value => .bool value
  | number value => .number (some value)
  | string value => .string (some value)
  | array items => .array (treeItems items)
  | object entries => .object (treeFields entries)

def treeItems : List Json → List Tree
  | [] => []
  | item :: rest => toTree item :: treeItems rest

def treeFields : List (String × Json) → List (Option String × Tree)
  | [] => []
  | (key, value) :: rest => (some key, toTree value) :: treeFields rest

end

end PathRouting.Json
