/-! Reasons for refusing a registration. -/

namespace PathRouting

/-- What is wrong with the optional groups of a template. -/
inductive BracketFault where
  /-- A closing bracket stands before the end of the template. -/
  | misplaced
  /-- There are more opening brackets than closing ones, or fewer. -/
  | unbalanced
  | emptyGroup
  deriving DecidableEq, Repr

def BracketFault.message : BracketFault → String
  | misplaced => "Optional segments can only occur at the end of a route"
  | unbalanced => "Number of opening '[' and closing ']' does not match"
  | emptyGroup => "Empty optional part"

/-- Why a route was not registered. -/
inductive RouteError where
  /-- The template has misplaced or unbalanced optional groups. -/
  | badPattern (fault : BracketFault) (route : String)
  /-- A name is used twice in one expansion of the template. -/
  | duplicateVariable (name route : String)
  /-- The expression assembled for a route cannot be read. -/
  | invalidRegex (source : String)
  /-- The table has been built already. -/
  | registrationClosed
  deriving DecidableEq, Repr

def RouteError.message : RouteError → String
  | badPattern fault route => fault.message ++ ", route = " ++ route
  | duplicateVariable name route =>
    "Cannot use the same placeholder \"" ++ name ++ "\" twice, route = " ++ route
  | invalidRegex source => "Invalid route regex \"" ++ source ++ "\""
  | registrationClosed => "Route table already finalized, registration is closed"

end PathRouting
