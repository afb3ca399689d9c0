import PathRouting.Error
import PathRouting.OrderedMap
import PathRouting.Regex
import PathRouting.Token

/-! Matchers for routes with parameters. Literal text is quoted, every parameter
becomes a named group around its pattern, and the whole is anchored at both ends. -/

namespace PathRouting

/-- Values by parameter name, in group order. -/
abbrev Params := OrderedMap String String

/-- An expression that decides whether a path belongs to a route. -/
structure Matcher where
  regex : Regex
  names : List String

namespace Matcher

/-- The text of the expression; routes are stored under it. -/
def source (matcher : Matcher) : String := matcher.regex.source

/-- The expression text of one token. -/
def tokenSource : Token → String
  | .literal text => Regex.escape text
  | .parameter name pattern => "(?P<" ++ name ++ ">" ++ pattern ++ ")"

/-- The expression text of a route. -/
def sourceOf (tokens : List Token) : String :=
  "^" ++ String.join (tokens.map tokenSource) ++ "$"

/-- The first name in a list that occurs among those before it. -/
def firstRepeated? (seen : List String) : List String → Option String
  | [] => none
  | name :: rest => if name ∈ seen then some name else firstRepeated? (name :: seen) rest

/-- Reads a matcher from its text. All named groups count as its names. -/
def ofSource (source : String) : Except RouteError Matcher :=
  match Regex.read? source with
  | none => .error (.invalidRegex source)
  | some regex => .ok ⟨regex, regex.namedGroups.map Prod.snd⟩

/-- The matcher of a route. A repeated name is reported before the expression is read. -/
def ofTokens (tokens : List Token) : Except RouteError Matcher :=
  let names := tokens.filterMap Token.name?
  match firstRepeated? [] names with
  | some name => .error (.duplicateVariable name (Token.describeAll tokens))
  | none => (ofSource (sourceOf tokens)).map fun matcher => { matcher with names }

def accepts (matcher : Matcher) (path : String) : Bool := matcher.regex.isMatch path

/-- The values of all named groups that took part in the match. -/
def captures? (matcher : Matcher) (path : String) : Option Params :=
  (matcher.regex.captures? path).map OrderedMap.ofList

end Matcher

end PathRouting
