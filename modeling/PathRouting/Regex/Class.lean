import PathRouting.Regex.Atom

/-! Bracketed classes: characters, ranges, named classes, nested classes, and the
set operations `&&`, `--` and `~~`, which bind from left to right and weaker than
standing side by side. -/

namespace PathRouting.Regex

/-- The set operations of a class. -/
inductive SetOperation where
  | intersection
  | difference
  | symmetricDifference
  deriving DecidableEq, Repr

def SetOperation.apply : SetOperation → CharSet → CharSet → CharSet
  | intersection => CharSet.inter
  | difference => CharSet.diff
  | symmetricDifference => CharSet.symmDiff

/-- The class with the given name between `[:` and `:]`. -/
def asciiClass? (name : String) : Option CharSet :=
  match name with
  | "alnum" => some ⟨[(0x30, 0x39), (0x41, 0x5a), (0x61, 0x7a)]⟩
  | "alpha" => some ⟨[(0x41, 0x5a), (0x61, 0x7a)]⟩
  | "ascii" => some ⟨[(0x00, 0x7f)]⟩
  | "blank" => some ⟨[(0x09, 0x09), (0x20, 0x20)]⟩
  | "cntrl" => some ⟨[(0x00, 0x1f), (0x7f, 0x7f)]⟩
  | "digit" => some ⟨[(0x30, 0x39)]⟩
  | "graph" => some ⟨[(0x21, 0x7e)]⟩
  | "lower" => some ⟨[(0x61, 0x7a)]⟩
  | "print" => some ⟨[(0x20, 0x7e)]⟩
  | "punct" => some ⟨[(0x21, 0x2f), (0x3a, 0x40), (0x5b, 0x60), (0x7b, 0x7e)]⟩
  | "space" => some ⟨[(0x09, 0x0d), (0x20, 0x20)]⟩
  | "upper" => some ⟨[(0x41, 0x5a)]⟩
  | "word" => some asciiWord
  | "xdigit" => some ⟨[(0x30, 0x39), (0x41, 0x46), (0x61, 0x66)]⟩
  | _ => none

/-- Reads a class such as `[:alpha:]` or `[:^alpha:]`, after its opening bracket: the
class, whether it is negated, and the text after it. -/
def readAsciiClass (text : List Char) : Option (CharSet × Bool × List Char) :=
  match text with
  | ':' :: rest =>
    let (negated, rest) :=
      match rest with
      | '^' :: rest => (true, rest)
      | rest => (false, rest)
    let name := rest.takeWhile (· ≠ ':')
    match rest.dropWhile (· ≠ ':') with
    | ':' :: ']' :: after =>
      (asciiClass? (String.ofList name)).map fun set => (set, negated, after)
    | _ => none
  | _ => none

/-- The set of one character of a class. Where classes are those of ASCII only ASCII
characters may stand in them. -/
def Flags.classChar? (flags : Flags) (c : Char) : Option CharSet :=
  if !flags.unicode && 128 ≤ c.toNat then none else some (CharSet.singleton c)

def readClassAtom (flags : Flags) : List Char → Option (Atom × List Char)
  | [] => none
  | '\\' :: rest =>
    match readEscape flags rest with
    | some (.look _, _) => none
    | found => found
  | c :: rest => some (.char c false, rest)

/-- The first character after the one at the head that would be read next. Within a
comment the first character counts that is no white space. -/
def peek (flags : Flags) : List Char → Option Char
  | [] => none
  | _ :: rest =>
    if flags.verbose then
      let next := rest.dropWhile Text.isWhiteSpace
      match next with
      | '#' :: comment => (comment.dropWhile Text.isWhiteSpace).head? <|> rest.head?
      | c :: _ => some c
      | [] => rest.head?
    else rest.head?

def readClassItem (flags : Flags) (text : List Char) : Option (CharSet × List Char) := do
  let (first, rest) ← readClassAtom flags text
  let rest := flags.skip rest
  if rest.isEmpty then none
  if rest.head? ≠ some '-' ∨ peek flags rest = some ']' ∨ peek flags rest = some '-' then
    match first with
    | .char c _ => return (← flags.classChar? c, rest)
    | .set set => return (set, rest)
    | .look _ => none
  else
    let (last, after) ← readClassAtom flags (flags.skip (rest.drop 1))
    match first, last with
    | .char low _, .char high _ =>
      if high < low then none
      let _ ← flags.classChar? low
      let _ ← flags.classChar? high
      return (CharSet.interval low high, after)
    | _, _ => none

/-- Reads hyphens that stand for themselves at the start of a class. -/
def readHyphens (flags : Flags) (set : CharSet) : Nat → List Char → CharSet × List Char
  | 0, text => (set, text)
  | fuel + 1, text =>
    match text with
    | '-' :: rest => readHyphens flags (set.insert 0x2d 0x2d) fuel (flags.skip rest)
    | text => (set, text)

/-- Reads the start of a class after its opening bracket: whether the class is
negated, and the hyphens and the closing bracket that stand for themselves. -/
def readClassStart (flags : Flags) (text : List Char) : Option (Bool × CharSet × List Char) :=
  let text := flags.skip text
  let (negated, text) :=
    match text with
    | '^' :: rest => (true, flags.skip rest)
    | text => (false, text)
  let (set, text) := readHyphens flags CharSet.empty text.length text
  match text with
  | [] => none
  | ']' :: rest =>
    if set.ranges.isEmpty then some (negated, CharSet.singleton ']', flags.skip rest)
    else some (negated, set, text)
  | text => some (negated, set, text)

/-- Applies the operation that waits for its second set. -/
def settle (flags : Flags) (pending : Option (SetOperation × CharSet)) (set : CharSet) : CharSet :=
  match pending with
  | none => set
  | some (operation, first) => operation.apply (flags.fold first) (flags.fold set)

/-- Reads the operation at the head of the text. -/
def readOperation : List Char → Option (SetOperation × List Char)
  | '&' :: '&' :: rest => some (.intersection, rest)
  | '-' :: '-' :: rest => some (.difference, rest)
  | '~' :: '~' :: rest => some (.symmetricDifference, rest)
  | _ => none

/-- Reads a class from within, up to its closing bracket: `pending` is the operation
that waits for its second set, and `set` what stands side by side so far. -/
def readClassBody (flags : Flags) :
    Nat → Option (SetOperation × CharSet) → CharSet → List Char → Option (CharSet × List Char)
  | 0, _, _, _ => none
  | fuel + 1, pending, set, text =>
    match flags.skip text with
    | [] => none
    | ']' :: rest => some (settle flags pending set, rest)
    | '[' :: rest =>
      match readAsciiClass rest with
      | some (named, negated, after) =>
        match flags.class? negated named with
        | some named => readClassBody flags fuel pending (set.union named) after
        | none => none
      | none =>
        match readClassStart flags rest with
        | none => none
        | some (negated, start, inner) =>
          match readClassBody flags fuel none start inner with
          | none => none
          | some (nested, after) =>
            match flags.class? negated nested with
            | some nested => readClassBody flags fuel pending (set.union nested) after
            | none => none
    | text =>
      match readOperation text with
      | some (operation, rest) =>
        readClassBody flags fuel (some (operation, settle flags pending set)) CharSet.empty rest
      | none =>
        match readClassItem flags text with
        | some (item, after) => readClassBody flags fuel pending (set.union item) after
        | none => none

def readClass (flags : Flags) (text : List Char) : Option (CharSet × List Char) :=
  match readClassStart flags text with
  | none => none
  | some (negated, start, inner) =>
    match readClassBody flags (inner.length + 1) none start inner with
    | none => none
    | some (set, after) => (flags.class? negated set).map fun set => (set, after)

end PathRouting.Regex
