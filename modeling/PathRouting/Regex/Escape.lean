/-! Quoting of literal text: every character with a meaning of its own gets a
backslash. -/

namespace PathRouting.Regex

/-- The characters with a meaning of their own, in or outside of a class. -/
def isMeta (c : Char) : Bool :=
  c ∈ ['\\', '.', '+', '*', '?', '(', ')', '|', '[', ']', '{', '}', '^', '$', '#', '&', '-', '~']

/-- The expression text that matches exactly the given text. -/
def escapeChars (text : List Char) : List Char :=
  text.flatMap fun c => if isMeta c then ['\\', c] else [c]

def escape (text : String) : String := String.ofList (escapeChars text.toList)

end PathRouting.Regex
