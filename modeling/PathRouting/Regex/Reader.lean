import PathRouting.Regex.Class

/-! Reading expressions. The reader goes through the text once and keeps the groups
that are still open on a stack, with the switches to return to at their ends. -/

namespace PathRouting.Regex

/-- A part of the branch that is being read: an expression, or switches, which
cannot be repeated. -/
inductive Part where
  | matching (expr : Expr)
  | switches
  deriving DecidableEq, Repr

/-- The expression of a part; switches match the empty text. -/
def Part.toExpr : Part → Expr
  | matching expr => expr
  | switches => .empty

/-- What is being read between an opening parenthesis and its closing one. -/
structure Level where
  /-- The branches that are complete, latest first. -/
  branches : List Expr := []
  /-- The parts of the present branch, latest first. -/
  parts : List Part := []
  flags : Flags := {}
  deriving Repr

/-- What kind of group a parenthesis opened. -/
inductive GroupKind where
  | plain
  | capture (index : Nat) (name : Option String)
  deriving DecidableEq, Repr

structure ReadState where
  level : Level := {}
  /-- The open groups, innermost first, each with the level around it. -/
  outer : List (Level × GroupKind) := []
  /-- The names that are taken. -/
  names : List String := []
  /-- The number of the next group. -/
  nextIndex : Nat := 1
  deriving Repr

namespace Level

def push (level : Level) (part : Part) : Level := { level with parts := part :: level.parts }

/-- Completes the present branch. -/
def finishBranch (level : Level) : Level :=
  { level with
    branches := Expr.concat (level.parts.reverse.map Part.toExpr) :: level.branches
    parts := [] }

/-- The expression of a level that ends here. -/
def toExpr (level : Level) : Expr := Expr.alternate level.finishBranch.branches.reverse

/-- Repeats the last part. There has to be one, and it has to be an expression. -/
def repeatLast (level : Level) (least : Nat) (most : Option Nat) (isLazy : Bool) : Option Level :=
  match level.parts with
  | .matching expr :: rest =>
    some { level with
      parts :=
        .matching (Expr.repeating least most (isLazy != level.flags.swapGreed) expr) :: rest }
  | _ => none

end Level

/-- The group that a parenthesis of the given kind makes of its content. -/
def GroupKind.wrap : GroupKind → Expr → Expr
  | plain, body => body
  | capture index name, body => .group index name body

/-- Whether a character may stand in the name of a group. -/
def isGroupNameChar (first : Bool) (c : Char) : Bool :=
  if first then c = '_' || Unicode.isAlphabetic c
  else c = '_' || c = '.' || c = '[' || c = ']' || Unicode.isAlphanumeric c

/-- Reads the name of a group up to its closing bracket. -/
def readGroupName (text : List Char) : Option (String × List Char) :=
  let name := text.takeWhile (· ≠ '>')
  match text.dropWhile (· ≠ '>') with
  | '>' :: after =>
    match name with
    | [] => none
    | first :: rest =>
      if isGroupNameChar true first && rest.all (isGroupNameChar false) then
        some (String.ofList name, after)
      else none
  | _ => none

namespace ReadState

def openGroup (state : ReadState) (kind : GroupKind) (flags : Flags) : ReadState :=
  { state with level := { flags := flags }, outer := (state.level, kind) :: state.outer }

/-- Opens a group that records what it matches. A name may be used only once. -/
def openCapture (state : ReadState) (name : Option String) : Option ReadState :=
  match name with
  | some name =>
    if name ∈ state.names then none
    else
      some { state.openGroup (.capture state.nextIndex (some name)) state.level.flags with
        names := name :: state.names
        nextIndex := state.nextIndex + 1 }
  | none =>
    some { state.openGroup (.capture state.nextIndex none) state.level.flags with
      nextIndex := state.nextIndex + 1 }

def closeGroup (state : ReadState) : Option ReadState :=
  match state.outer with
  | [] => none
  | (level, kind) :: outer =>
    let level := level.push (.matching (kind.wrap state.level.toExpr))
    some { state with level, outer }

def push (state : ReadState) (expr : Expr) : ReadState :=
  { state with level := state.level.push (.matching expr) }

end ReadState

/-- Reads what follows an opening parenthesis. Conditions on the text ahead or behind
are refused. -/
def readGroupStart (state : ReadState) (text : List Char) : Option (ReadState × List Char) :=
  match state.level.flags.skip text with
  | '?' :: 'P' :: '<' :: rest => do
    let (name, after) ← readGroupName rest
    return (← state.openCapture (some name), after)
  | '?' :: '<' :: rest =>
    if rest.head? = some '=' ∨ rest.head? = some '!' then none
    else do
      let (name, after) ← readGroupName rest
      return (← state.openCapture (some name), after)
  | '?' :: rest => do
    let (flags, any, ending, after) ← state.level.flags.read? true false [] rest
    match ending with
    | .closed =>
      if any then
        return ({ state with level := { state.level with flags := flags }.push .switches }, after)
      else none
    | .opened => return (state.openGroup .plain flags, after)
  | text => (state.openCapture none).map fun state => (state, text)

/-- Reads decimal digits, with skipped space between them. -/
def readDigits (flags : Flags) : Nat → List Char → List Char × List Char
  | 0, text => ([], text)
  | _, [] => ([], [])
  | fuel + 1, c :: rest =>
    if Text.isDigit c then
      let found := readDigits flags fuel (flags.skip rest)
      (c :: found.1, found.2)
    else ([], c :: rest)

/-- Reads a number in the braces of a repetition, with white space around it. The
number has to fit 32 bits. -/
def readCount (flags : Flags) (text : List Char) : Option Nat × List Char :=
  let found := readDigits flags text.length (text.dropWhile Text.isWhiteSpace)
  let rest := flags.skip (found.2.dropWhile Text.isWhiteSpace)
  let value := Text.number 10 found.1
  (if found.1.isEmpty || 0x100000000 ≤ value then none else some value, rest)

/-- Reads the braces of a repetition after the opening one: `{n}`, `{n,}` or `{n,m}`. -/
def readBraces (flags : Flags) (text : List Char) : Option (Nat × Option Nat × List Char) := do
  let (least, rest) := readCount flags (flags.skip text)
  let least ← least
  match rest with
  | '}' :: after => return (least, some least, after)
  | ',' :: rest =>
    match flags.skip rest with
    | '}' :: after => return (least, none, after)
    | rest =>
      let (most, rest) := readCount flags rest
      let most ← most
      match rest with
      | '}' :: after => if least ≤ most then return (least, some most, after) else none
      | _ => none
  | _ => none

/-- Takes the `?` that makes a repetition lazy. -/
def readLazy (text : List Char) : Bool × List Char :=
  match text with
  | '?' :: rest => (true, rest)
  | text => (false, text)

/-- The expression for a character under the switches in effect. Without Unicode a
byte beyond ASCII is no character and is refused. -/
def charExpr? (flags : Flags) (c : Char) (byte : Bool) : Option Expr :=
  if flags.unicode then
    if flags.ignoreCase then
      some (Expr.ofSet (CharSet.ofRanges ((Unicode.sameCase c).map fun code => (code, code))))
    else some (.literal [c])
  else if byte && 128 ≤ c.toNat then none
  else if flags.ignoreCase && Text.isLetter c then
    some (Expr.ofSet (Unicode.closeAsciiCase (CharSet.singleton c)))
  else some (.literal [c])

def Atom.expr? (flags : Flags) : Atom → Option Expr
  | char c byte => charExpr? flags c byte
  | set found => some (Expr.ofSet found)
  | look condition => some (.look condition)

/-- The set of `.`: all characters but the ends of lines. Without Unicode it would
match bytes and is refused. -/
def dot? (flags : Flags) : Option CharSet :=
  if !flags.unicode then none
  else if flags.dotAll then some CharSet.full
  else if flags.crlf then some (CharSet.ofRanges [(0x0a, 0x0a), (0x0d, 0x0d)]).complement
  else some (CharSet.singleton '\n').complement

/-- Reads one step: a character with a meaning of its own, or an atom. -/
def readStep (state : ReadState) : List Char → Option (ReadState × List Char)
  | [] => none
  | c :: rest =>
    let flags := state.level.flags
    match c with
    | '(' => readGroupStart state rest
    | ')' => state.closeGroup.map fun state => (state, rest)
    | '|' => some ({ state with level := state.level.finishBranch }, rest)
    | '[' => do
      let (set, after) ← readClass flags rest
      return (state.push (Expr.ofSet set), after)
    | '?' | '*' | '+' => do
      let (isLazy, after) := readLazy rest
      let level ← state.level.repeatLast (if c = '+' then 1 else 0)
        (if c = '?' then some 1 else none) isLazy
      return ({ state with level := level }, after)
    | '{' => do
      let (least, most, after) ← readBraces flags rest
      let (isLazy, after) := readLazy (flags.skip after)
      let level ← state.level.repeatLast least most isLazy
      return ({ state with level := level }, after)
    | '\\' => do
      let (atom, after) ← readEscape flags rest
      return (state.push (← atom.expr? flags), after)
    | '.' => (dot? flags).map fun set => (state.push (Expr.ofSet set), rest)
    | '^' =>
      let look := if flags.multiLine then Look.lineStart flags.crlf else .textStart
      some (state.push (.look look), rest)
    | '$' =>
      let look := if flags.multiLine then Look.lineEnd flags.crlf else .textEnd
      some (state.push (.look look), rest)
    | c => (charExpr? flags c false).map fun expr => (state.push expr, rest)

/-- Reads the text to its end, in at most `fuel` steps. -/
def readAll : Nat → ReadState → List Char → Option Expr
  | 0, _, _ => none
  | fuel + 1, state, text =>
    match state.level.flags.skip text with
    | [] => if state.outer.isEmpty then some state.level.toExpr else none
    | text =>
      match readStep state text with
      | none => none
      | some (state, rest) => readAll fuel state rest

/-- The expression that a text stands for. -/
def Expr.read? (text : List Char) : Option Expr := readAll (text.length + 1) {} text

end PathRouting.Regex
