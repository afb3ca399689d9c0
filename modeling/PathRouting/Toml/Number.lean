import PathRouting.Decimal.Nearest
import PathRouting.Toml
import PathRouting.Toml.Quoted

/-! TOML numbers. An underscore may stand between two digits. Whole numbers have to
fit 64 bits; a float may not be too large for a double. -/

namespace PathRouting.Toml

/-- Further digits of a run, without their underscores, and the text after the run.
An underscore has to be followed by a digit. -/
def moreDigits? (isDigit : Char → Bool) : List Char → Option (List Char × List Char)
  | '_' :: c :: rest =>
    if isDigit c then
      (moreDigits? isDigit rest).map fun found => (c :: found.1, found.2)
    else none
  | c :: rest =>
    if isDigit c then (moreDigits? isDigit rest).map fun found => (c :: found.1, found.2)
    else if c = '_' then none
    else some ([], c :: rest)
  | [] => some ([], [])

/-- A run of at least one digit, without its underscores, and the text after it. -/
def digits? (isDigit : Char → Bool) : List Char → Option (List Char × List Char)
  | c :: rest =>
    if isDigit c then (moreDigits? isDigit rest).map fun found => (c :: found.1, found.2)
    else none
  | [] => none

/-- The digits of a whole number, which has no leading zeros. -/
def whole? : List Char → Option (List Char × List Char)
  | '0' :: rest => some (['0'], rest)
  | text => digits? Text.isDigit text

/-- A sign in front of a number: whether it is a minus, and the text after it. -/
def sign : List Char → Bool × List Char
  | '-' :: rest => (true, rest)
  | '+' :: rest => (false, rest)
  | text => (false, text)

/-- A whole number that fits 64 bits. -/
def integer? (negative : Bool) (size : Nat) : Option Toml :=
  if negative then if size ≤ 0x8000000000000000 then some (.integer (-size)) else none
  else if size < 0x8000000000000000 then some (.integer size) else none

def based? (base : Nat) (isDigit : Char → Bool) (text : List Char) : Option (Toml × List Char) := do
  let (digits, after) ← digits? isDigit text
  return (← integer? false (Text.number base digits), after)

/-- The exponent of a float; nothing is written for zero. -/
def exponent? : List Char → Option (Int × List Char)
  | c :: rest =>
    if c = 'e' || c = 'E' then do
      let (negative, digits) := sign rest
      let (digits, after) ← digits? Text.isDigit digits
      let size : Int := Text.number 10 digits
      return (if negative then -size else size, after)
    else some (0, c :: rest)
  | [] => some (0, [])

/-- The digits after a point; without a point there are none. -/
def fraction? : List Char → Option (List Char × List Char)
  | '.' :: rest => digits? Text.isDigit rest
  | text => some ([], text)

/-- A float, unless it is positive and beyond all doubles. -/
def float? (negative : Bool) (digits : List Char) (exponent : Int) : Option Toml :=
  let size := Decimal.nearest (Text.number 10 digits) exponent
  if negative then some (.float (-size).toBits)
  else if size.isInf then none else some (.float size.toBits)

def decimal? (negative : Bool) (text : List Char) : Option (Toml × List Char) := do
  let (whole, afterWhole) ← whole? text
  let (fraction, afterFraction) ← fraction? afterWhole
  let (exponent, after) ← exponent? afterFraction
  let value ←
    if after.length = afterWhole.length then integer? negative (Text.number 10 whole)
    else float? negative (whole ++ fraction) (exponent - fraction.length)
  return (value, after)

def number? (text : List Char) : Option (Toml × List Char) :=
  match text with
  | '0' :: 'x' :: rest => based? 16 (fun c => (Text.hexValue? c).isSome) rest
  | '0' :: 'o' :: rest => based? 8 (fun c => '0' ≤ c && c ≤ '7') rest
  | '0' :: 'b' :: rest => based? 2 (fun c => c = '0' || c = '1') rest
  | text =>
    let (negative, body) := sign text
    match body with
    | 'i' :: 'n' :: 'f' :: rest =>
      let size : Float := 1.0 / 0.0
      some (.float (if negative then -size else size).toBits, rest)
    | 'n' :: 'a' :: 'n' :: rest =>
      some (.float (if negative then 0xfff8000000000000 else 0x7ff8000000000000), rest)
    | body => decimal? negative body

end PathRouting.Toml
