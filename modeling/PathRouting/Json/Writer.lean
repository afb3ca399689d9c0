import PathRouting.Decimal.Shortest
import PathRouting.Json

/-! The text of a JSON value, in one line or with an indent of two blanks. -/

namespace PathRouting.Json

def hexDigit (n : Nat) : Char :=
  if n < 10 then Char.ofNat ('0'.toNat + n) else Char.ofNat ('a'.toNat + (n - 10))

/-- A character inside a quoted string. Quotes, backslashes and control
characters are escaped, all else is written as it is. -/
def escapeChar (c : Char) : List Char :=
  if c = '"' then ['\\', '"']
  else if c = '\\' then ['\\', '\\']
  else if c = '\n' then ['\\', 'n']
  else if c = '\r' then ['\\', 'r']
  else if c = '\t' then ['\\', 't']
  else if c = '\x08' then ['\\', 'b']
  else if c = '\x0c' then ['\\', 'f']
  else if c.toNat < 32 then
    ['\\', 'u', '0', '0', hexDigit (c.toNat / 16), hexDigit (c.toNat % 16)]
  else [c]

def quote (text : String) : List Char :=
  '"' :: (text.toList.flatMap escapeChar ++ ['"'])

/-- A nonzero double from its shortest digits: positional from 10^-5 to below
10^16, with an exponent elsewhere. -/
def layout (digits : List Char) (exponent : Int) : List Char :=
  let point := (digits.length : Int) + exponent
  if 0 ≤ exponent ∧ point ≤ 16 then
    digits ++ List.replicate exponent.toNat '0' ++ ['.', '0']
  else if 0 < point ∧ point ≤ 16 then
    digits.take point.toNat ++ '.' :: digits.drop point.toNat
  else if -5 < point ∧ point ≤ 0 then
    '0' :: '.' :: (List.replicate (-point).toNat '0' ++ digits)
  else
    let power := 'e' :: (toString (point - 1)).toList
    match digits with
    | [] => power
    | [digit] => digit :: power
    | first :: rest => first :: '.' :: (rest ++ power)

def doubleText (bits : UInt64) : List Char :=
  let negative := 0x8000000000000000 ≤ bits.toNat
  let magnitude :=
    if bits.toNat % 0x8000000000000000 = 0 then ['0', '.', '0']
    else
      let decimal := Decimal.shortest bits
      layout (Nat.toDigits 10 decimal.1) decimal.2
  if negative then '-' :: magnitude else magnitude

def Number.text : Number → List Char
  | natural value => Nat.toDigits 10 value
  | negative magnitude => '-' :: Nat.toDigits 10 magnitude
  | double bits => doubleText bits

mutual

/-- The text of a value without any blanks. -/
def compactText : Json → List Char
  | null => ['n', 'u', 'l', 'l']
  | bool true => ['t', 'r', 'u', 'e']
  | bool false => ['f', 'a', 'l', 's', 'e']
  | number value => value.text
  | string value => quote value
  | array items => '[' :: (compactItems items ++ [']'])
  | object entries => '{' :: (compactFields entries ++ ['}'])

def compactItems : List Json → List Char
  | [] => []
  | [item] => compactText item
  | item :: rest => compactText item ++ ',' :: compactItems rest

def compactFields : List (String × Json) → List Char
  | [] => []
  | [(key, value)] => quote key ++ ':' :: compactText value
  | (key, value) :: rest => quote key ++ ':' :: (compactText value ++ ',' :: compactFields rest)

end

def compact (value : Json) : String := String.ofList value.compactText

/-- A new line at the given depth. -/
def newLine (depth : Nat) : List Char := '\n' :: List.replicate (2 * depth) ' '

mutual

/-- The text of a value over several lines; empty arrays and objects stay on one. -/
def prettyText (depth : Nat) : Json → List Char
  | null => ['n', 'u', 'l', 'l']
  | bool true => ['t', 'r', 'u', 'e']
  | bool false => ['f', 'a', 'l', 's', 'e']
  | number value => value.text
  | string value => quote value
  | array [] => ['[', ']']
  | array (item :: rest) =>
    '[' :: (newLine (depth + 1) ++ prettyText (depth + 1) item ++ prettyItems (depth + 1) rest ++
      newLine depth ++ [']'])
  | object [] => ['{', '}']
  | object ((key, value) :: rest) =>
    '{' :: (newLine (depth + 1) ++ quote key ++ [':', ' '] ++ prettyText (depth + 1) value ++
      prettyFields (depth + 1) rest ++ newLine depth ++ ['}'])

def prettyItems (depth : Nat) : List Json → List Char
  | [] => []
  | item :: rest => ',' :: (newLine depth ++ prettyText depth item ++ prettyItems depth rest)

def prettyFields (depth : Nat) : List (String × Json) → List Char
  | [] => []
  | (key, value) :: rest =>
    ',' :: (newLine depth ++ quote key ++ [':', ' '] ++ prettyText depth value ++
      prettyFields depth rest)

end

/-- The value over several lines, with an indent of two blanks. -/
def pretty (value : Json) : String := String.ofList (value.prettyText 0)

end PathRouting.Json
