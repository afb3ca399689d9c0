/-! The units of a route: literal text and named parameters. -/

namespace PathRouting

/-- A unit of a route. -/
inductive Token where
  /-- Text that stands for itself. -/
  | literal (text : String)
  /-- A named part of the path, with the pattern that it has to match. -/
  | parameter (name pattern : String)
  deriving DecidableEq, Repr, Inhabited

namespace Token

/-- The template text of a token. -/
def describe : Token → String
  | literal text => text
  | parameter name pattern => "\x7b" ++ name ++ ":" ++ pattern ++ "\x7d"

def describeAll (tokens : List Token) : String := String.join (tokens.map describe)

/-- The name that a token declares. -/
def name? : Token → Option String
  | literal _ => none
  | parameter name _ => some name

end Token

end PathRouting
