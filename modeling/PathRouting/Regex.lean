import PathRouting.Regex.Reader
import PathRouting.Regex.Search

/-! Regular expressions: read from text, then matched against paths. A match may
lie anywhere in the path unless the expression is anchored. -/

namespace PathRouting

/-- An expression together with its text and its program. -/
structure Regex where
  source : String
  expr : Regex.Expr
  program : Regex.Program
  program_eq : program = expr.program := by rfl

namespace Regex

def read? (source : String) : Option Regex :=
  (Expr.read? source.toList).map fun expr => { source, expr, program := expr.program }

/-- The names of the groups in order, with their numbers. -/
def namedGroups (regex : Regex) : List (Nat × String) :=
  regex.expr.groups.filterMap fun (index, name) => name.map fun name => (index, name)

def isMatch (regex : Regex) (text : String) : Bool := (regex.program.find? text.toList).isSome

/-- The named groups that took part in the preferred match, in order, with the text
that each matched. -/
def captures? (regex : Regex) (text : String) : Option (List (String × String)) :=
  (regex.program.find? text.toList).map fun marks =>
    regex.namedGroups.filterMap fun (index, name) =>
      (marks.text? index text.toList).map fun value => (name, String.ofList value)

end Regex

end PathRouting
