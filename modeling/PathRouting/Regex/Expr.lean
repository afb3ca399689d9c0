import PathRouting.CharSet
import PathRouting.Unicode.WordClass

/-! Regular expressions as trees. The constructors below keep a tree in a simple
form: no empty parts inside a row, neighbouring literals joined, branches of a
choice side by side, and what all branches begin with written once in front of
them. That form also settles which of several matches is preferred. -/

namespace PathRouting.Regex

inductive Look where
  | textStart
  | textEnd
  /-- The start of a line; with `crlf` carriage returns end lines too. -/
  | lineStart (crlf : Bool)
  | lineEnd (crlf : Bool)
  /-- A change between word and other characters; with `ascii` words are ASCII. -/
  | wordBoundary (ascii : Bool)
  | notWordBoundary (ascii : Bool)
  | wordStart (ascii : Bool)
  | wordEnd (ascii : Bool)
  /-- No word character before the place. -/
  | wordStartHalf (ascii : Bool)
  /-- No word character after the place. -/
  | wordEndHalf (ascii : Bool)
  deriving DecidableEq, Repr

/-- The word characters of ASCII. -/
def asciiWord : CharSet := ⟨[(0x30, 0x39), (0x41, 0x5a), (0x5f, 0x5f), (0x61, 0x7a)]⟩

def isWord (ascii : Bool) : Option Char → Bool
  | none => false
  | some c => (if ascii then asciiWord else Unicode.word).contains c

/-- Whether the condition holds between two characters; `none` is an end of the text. -/
def Look.holds (look : Look) (before after : Option Char) : Bool :=
  match look with
  | textStart => before.isNone
  | textEnd => after.isNone
  | lineStart false => before = none || before = some '\n'
  | lineStart true =>
    before = none || before = some '\n' || (before = some '\r' && after ≠ some '\n')
  | lineEnd false => after = none || after = some '\n'
  | lineEnd true =>
    after = none || after = some '\r' || (after = some '\n' && before ≠ some '\r')
  | wordBoundary ascii => isWord ascii before != isWord ascii after
  | notWordBoundary ascii => isWord ascii before == isWord ascii after
  | wordStart ascii => !isWord ascii before && isWord ascii after
  | wordEnd ascii => isWord ascii before && !isWord ascii after
  | wordStartHalf ascii => !isWord ascii before
  | wordEndHalf ascii => !isWord ascii after

/-- A regular expression. -/
inductive Expr where
  | empty
  | literal (chars : List Char)
  | one (set : CharSet)
  | look (condition : Look)
  /-- Records what the body matches, under a number and perhaps a name. -/
  | group (index : Nat) (name : Option String) (body : Expr)
  /-- Matches the body at least `least` and at most `most` times; a lazy repetition
  prefers fewer rounds. -/
  | repeated (least : Nat) (most : Option Nat) (isLazy : Bool) (body : Expr)
  | seq (first second : Expr)
  /-- Matches either part and prefers the first. -/
  | alt (first second : Expr)
  deriving DecidableEq, Repr, Inhabited

namespace Expr

/-- The parts of a row. -/
def items : Expr → List Expr
  | empty => []
  | seq first second => items first ++ items second
  | expr => [expr]

/-- The row of the given parts. -/
def ofItems : List Expr → Expr
  | [] => empty
  | [part] => part
  | part :: rest => seq part (ofItems rest)

/-- Joins literals that stand side by side. -/
def joinLiterals : List Expr → List Expr
  | [] => []
  | part :: rest =>
    match part, joinLiterals rest with
    | literal chars, literal more :: later => literal (chars ++ more) :: later
    | part, later => part :: later

def concat (parts : List Expr) : Expr := ofItems (joinLiterals (parts.flatMap items))

/-- The branches of a choice. -/
def branches : Expr → List Expr
  | alt first second => branches first ++ branches second
  | expr => [expr]

/-- The choice between the given branches. -/
def ofBranches : List Expr → Expr
  | [] => one CharSet.empty
  | [branch] => branch
  | branch :: rest => alt branch (ofBranches rest)

/-- One character of the set; a set of one character is a literal. -/
def ofSet (set : CharSet) : Expr :=
  match set.only? with
  | some c => literal [c]
  | none => one set

/-- The set of an expression that matches one character. -/
def set? : Expr → Option CharSet
  | literal [c] => some (CharSet.singleton c)
  | one set => some set
  | _ => none

/-- A choice, as one set if every branch is a single character. -/
def choice (branches : List Expr) : Expr :=
  match branches with
  | [] | [_] => ofBranches branches
  | _ =>
    match branches.mapM set? with
    | some sets => ofSet (sets.foldl CharSet.union CharSet.empty)
    | none => ofBranches branches

/-- The longest row that both rows begin with. -/
def commonStart : List Expr → List Expr → List Expr
  | a :: first, b :: second => if a = b then a :: commonStart first second else []
  | _, _ => []

def isRow : Expr → Bool
  | seq _ _ => true
  | _ => false

/-- The choice between the given expressions. Rows that all begin alike share
that beginning. -/
def alternate (parts : List Expr) : Expr :=
  let all := parts.flatMap branches
  match all with
  | [] | [_] => ofBranches all
  | first :: rest =>
    match all.mapM set? with
    | some sets => ofSet (sets.foldl CharSet.union CharSet.empty)
    | none =>
      let start := if all.all isRow then
          rest.foldl (fun start branch => commonStart start branch.items) first.items
        else []
      if start.isEmpty then ofBranches all
      else
        let remaining := all.map fun branch => ofItems (branch.items.drop start.length)
        concat (start ++ [choice (remaining.flatMap branches)])

/-- Whether an expression matches no text but the empty one. -/
def isWidthless : Expr → Bool
  | empty | look _ => true
  | literal chars => chars.isEmpty
  | one _ => false
  | group _ _ body => body.isWidthless
  | repeated _ most _ body => most = some 0 || body.isWidthless
  | seq first second => first.isWidthless && second.isWidthless
  | alt first second => first.isWidthless && second.isWidthless

/-- Whether an expression matches no empty text. -/
def consumes : Expr → Bool
  | empty | look _ => false
  | literal chars => !chars.isEmpty
  | one _ => true
  | group _ _ body => body.consumes
  | repeated least _ _ body => 0 < least && body.consumes
  | seq first second => first.consumes || second.consumes
  | alt first second => first.consumes && second.consumes

/-- A repetition. No round is the empty expression, exactly one round is the body,
and repeating what has no width is of no use. -/
def repeating (least : Nat) (most : Option Nat) (isLazy : Bool) (body : Expr) : Expr :=
  let least := if body.isWidthless then min least 1 else least
  let most := if body.isWidthless then some (min (most.getD 1) 1) else most
  if most = some 0 then empty
  else if least = 1 ∧ most = some 1 then body
  else repeated least most isLazy body

/-- The groups in order of appearance: number and name. -/
def groups : Expr → List (Nat × Option String)
  | group index name body => (index, name) :: body.groups
  | repeated _ _ _ body => body.groups
  | seq first second => first.groups ++ second.groups
  | alt first second => first.groups ++ second.groups
  | _ => []

end Expr

end PathRouting.Regex
