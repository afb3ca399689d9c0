import PathRouting.CharSet
import PathRouting.Text

/-! Code point ranges as text: `41-5A 5F` is the range from U+0041 to U+005A and
the single code point U+005F, both numbers hexadecimal. -/

namespace PathRouting.Unicode

/-- The parts of a text between single separators. -/
def splitAt (separator : Char) : List Char → List (List Char)
  | [] => [[]]
  | c :: rest =>
    if c = separator then [] :: splitAt separator rest
    else
      match splitAt separator rest with
      | [] => [[c]]
      | part :: later => (c :: part) :: later

def decodeRange? (text : List Char) : Option (Nat × Nat) :=
  match splitAt '-' text with
  | [code] => (Text.hexNumber? code).map fun n => (n, n)
  | [low, high] => do return (← Text.hexNumber? low, ← Text.hexNumber? high)
  | _ => none

/-- Reads rows of ranges in ascending order, separated by blanks. -/
def decode (rows : List String) : CharSet :=
  ⟨rows.flatMap fun row => (splitAt ' ' row.toList).filterMap decodeRange?⟩

end PathRouting.Unicode
