/-! The switches of an expression, such as `(?i)` or `(?s-u:…)`. -/

namespace PathRouting.Regex

/-- The switches in effect at some place of an expression. -/
structure Flags where
  /-- `i`: letters match without regard to case. -/
  ignoreCase : Bool := false
  /-- `m`: `^` and `$` match at lines. -/
  multiLine : Bool := false
  /-- `s`: `.` matches a line feed too. -/
  dotAll : Bool := false
  /-- `U`: repetitions are lazy unless a `?` follows. -/
  swapGreed : Bool := false
  /-- `u`: classes are those of Unicode. -/
  unicode : Bool := true
  /-- `R`: a carriage return ends a line too. -/
  crlf : Bool := false
  /-- `x`: white space and comments are skipped. -/
  verbose : Bool := false
  deriving DecidableEq, Repr, Inhabited

/-- Sets the switch with the given letter. -/
def Flags.set? (flags : Flags) (letter : Char) (on : Bool) : Option Flags :=
  match letter with
  | 'i' => some { flags with ignoreCase := on }
  | 'm' => some { flags with multiLine := on }
  | 's' => some { flags with dotAll := on }
  | 'U' => some { flags with swapGreed := on }
  | 'u' => some { flags with unicode := on }
  | 'R' => some { flags with crlf := on }
  | 'x' => some { flags with verbose := on }
  | _ => none

/-- How a row of switches ends. -/
inductive FlagEnd where
  /-- `)`: the switches hold for the rest of the group. -/
  | closed
  /-- `:`: the switches hold for a group of their own. -/
  | opened
  deriving DecidableEq, Repr

/-- Reads switches up to `:` or `)`: the new switches, whether any was written,
the end, and the text after it. Letters after a `-` switch off. No letter may occur
twice, nor may the `-`, and a `-` has to be followed by a letter. -/
def Flags.read? (flags : Flags) (on : Bool) (dangling : Bool) (used : List Char) :
    List Char → Option (Flags × Bool × FlagEnd × List Char)
  | [] => none
  | ')' :: rest => if dangling then none else some (flags, !used.isEmpty, .closed, rest)
  | ':' :: rest => if dangling then none else some (flags, !used.isEmpty, .opened, rest)
  | '-' :: rest => if used.contains '-' then none else flags.read? false true ('-' :: used) rest
  | letter :: rest =>
    if used.contains letter then none
    else
      match flags.set? letter on with
      | some flags => flags.read? on false (letter :: used) rest
      | none => none

end PathRouting.Regex
