import PathRouting.Regex.Escape
import PathRouting.Regex.Expr
import PathRouting.Regex.Flags
import PathRouting.Unicode

/-! The smallest parts of an expression: characters, escapes, classes that have a
name, and conditions. -/

namespace PathRouting.Regex

/-- White space and comments are skipped where the switch `x` is on. A comment runs
from `#` to the end of its line. -/
def skipSpace (comment : Bool) : List Char → List Char
  | [] => []
  | c :: rest =>
    if comment then skipSpace (c ≠ '\n') rest
    else if Text.isWhiteSpace c then skipSpace false rest
    else if c = '#' then skipSpace true rest
    else c :: rest

/-- The text after white space and comments, if they are to be skipped. -/
def Flags.skip (flags : Flags) (text : List Char) : List Char :=
  if flags.verbose then skipSpace false text else text

/-- A part of an expression that can also stand in a class, or a condition. -/
inductive Atom where
  /-- A character. With `byte` it is written as two hexadecimal digits. -/
  | char (c : Char) (byte : Bool)
  | set (set : CharSet)
  | look (condition : Look)
  deriving DecidableEq, Repr

def readHexDigits (flags : Flags) : Nat → List Char → Option (List Char × List Char)
  | 0, text => some ([], text)
  | count + 1, text =>
    match text with
    | c :: rest =>
      if (Text.hexValue? c).isSome then
        let rest := if count = 0 then rest else flags.skip rest
        (readHexDigits flags count rest).map fun found => (c :: found.1, found.2)
      else none
    | [] => none

/-- Reads the text up to the closing brace, at most `fuel` characters of it. -/
def readBracedWithin (flags : Flags) : Nat → List Char → Option (List Char × List Char)
  | 0, _ => none
  | fuel + 1, text =>
    match flags.skip text with
    | [] => none
    | '}' :: rest => some ([], rest)
    | c :: rest => (readBracedWithin flags fuel rest).map fun found => (c :: found.1, found.2)

def readBraced (flags : Flags) (text : List Char) : Option (List Char × List Char) :=
  readBracedWithin flags (text.length + 1) text

/-- Reads the code point after `\x`, `\u` or `\U`: in braces, or with a fixed number
of digits. -/
def readCode (flags : Flags) (digits : Nat) (text : List Char) : Option (Char × Bool × List Char) :=
  match flags.skip text with
  | '{' :: rest => do
    let (code, after) ← readBraced flags rest
    if code.isEmpty then none
    let c ← Text.charOfCode? (← Text.hexNumber? code)
    return (c, false, after)
  | text => do
    let (code, after) ← readHexDigits flags digits text
    let c ← Text.charOfCode? (← Text.hexNumber? code)
    return (c, digits = 2, after)

/-- The two sides of a text around the first place where `mark` stands. -/
def splitAround? (mark : List Char) : List Char → Option (List Char × List Char)
  | [] => none
  | c :: rest =>
    if mark.isPrefixOf (c :: rest) then some ([], (c :: rest).drop mark.length)
    else (splitAround? mark rest).map fun found => (c :: found.1, found.2)

/-- The class of a property as written between braces, and whether it is turned
into its complement by `!=`. -/
def propertyClass? (text : List Char) : Option (CharSet × Bool) :=
  let byValue (sides : List Char × List Char) : Option CharSet :=
    Unicode.byValue? (String.ofList sides.1) (String.ofList sides.2)
  match splitAround? ['!', '='] text with
  | some sides => (byValue sides).map fun set => (set, true)
  | none =>
    match splitAround? [':'] text <|> splitAround? ['='] text with
    | some sides => (byValue sides).map fun set => (set, false)
    | none => (Unicode.byName? (String.ofList text)).map fun set => (set, false)

/-- Closes a class under case if letters match without regard to case. -/
def Flags.fold (flags : Flags) (set : CharSet) : CharSet :=
  if flags.ignoreCase then
    if flags.unicode then Unicode.closeCase set else Unicode.closeAsciiCase set
  else set

/-- A class as it is written, or its complement. Where classes are those of ASCII a
complement would reach beyond characters and is refused. -/
def Flags.class? (flags : Flags) (negated : Bool) (set : CharSet) : Option CharSet :=
  if negated then
    if flags.unicode then some (flags.fold set).complement else none
  else some (flags.fold set)

/-- Reads a class by property after `\p` or `\P`. -/
def readProperty (flags : Flags) (negated : Bool) (text : List Char) : Option (Atom × List Char) :=
  if !flags.unicode then none
  else
    match flags.skip text with
    | [] => none
    | '{' :: rest => do
      let (name, after) ← readBraced flags rest
      let (set, other) ← propertyClass? name
      let set ← flags.class? (negated != other) set
      return (.set set, after)
    | c :: rest => do
      if c = '\\' then none
      let set ← flags.class? negated (← Unicode.byName? (String.ofList [c]))
      return (.set set, flags.skip rest)

/-- The class of `\d`, `\s` or `\w`. -/
def perlClass (unicode : Bool) (letter : Char) : CharSet :=
  match letter, unicode with
  | 'd', true => Unicode.decimalDigit
  | 'd', false => ⟨[(0x30, 0x39)]⟩
  | 's', true => Unicode.whiteSpace
  | 's', false => ⟨[(0x09, 0x0d), (0x20, 0x20)]⟩
  | _, true => Unicode.word
  | _, false => asciiWord

/-- The class of `\d`, `\s`, `\w` or of its complement. -/
def perlClass? (flags : Flags) (letter : Char) : Option CharSet :=
  let set := perlClass flags.unicode letter.toLower
  if letter.isUpper then if flags.unicode then some set.complement else none else some set

def isBoundaryChar (c : Char) : Bool := Text.isLetter c || c = '-'

/-- The name of a condition at the head of the text, and the text after it. -/
def boundaryName (flags : Flags) : Nat → List Char → List Char × List Char
  | 0, text => ([], text)
  | _, [] => ([], [])
  | fuel + 1, c :: rest =>
    if isBoundaryChar c then
      let found := boundaryName flags fuel (flags.skip rest)
      (c :: found.1, found.2)
    else ([], c :: rest)

def boundary? (ascii : Bool) (name : String) : Option Look :=
  match name with
  | "start" => some (.wordStart ascii)
  | "end" => some (.wordEnd ascii)
  | "start-half" => some (.wordStartHalf ascii)
  | "end-half" => some (.wordEndHalf ascii)
  | _ => none

/-- Reads what may follow `\b`: the name of a condition in braces. Braces that do not
begin with a letter or hyphen hold no name, and are left for a repetition. -/
def readBoundary (flags : Flags) (text : List Char) : Option (Look × List Char) :=
  let ascii := !flags.unicode
  match text with
  | '{' :: rest =>
    match flags.skip rest with
    | [] => none
    | c :: after =>
      if isBoundaryChar c then
        match boundaryName flags (after.length + 2) (c :: after) with
        | (name, '}' :: last) => (boundary? ascii (String.ofList name)).map fun look => (look, last)
        | _ => none
      else some (.wordBoundary ascii, text)
  | _ => some (.wordBoundary ascii, text)

/-- Whether a character may be escaped although it has no meaning of its own: any
ASCII character but letters, digits and angle brackets. -/
def isEscapable (c : Char) : Bool :=
  c.toNat < 128 && !(Text.isLetter c || Text.isDigit c || c = '<' || c = '>')

/-- Reads an escape after its backslash. Back-references are refused, and so are
letters without a meaning. -/
def readEscape (flags : Flags) : List Char → Option (Atom × List Char)
  | [] => none
  | c :: rest =>
    let ascii := !flags.unicode
    if Text.isDigit c then none
    else if c = 'x' ∨ c = 'u' ∨ c = 'U' then
      (readCode flags (if c = 'x' then 2 else if c = 'u' then 4 else 8) rest).map
        fun (c, byte, after) => (.char c byte, after)
    else if c = 'p' ∨ c = 'P' then readProperty flags (c = 'P') rest
    else if c ∈ ['d', 's', 'w', 'D', 'S', 'W'] then
      (perlClass? flags c).map fun set => (.set set, rest)
    else if isMeta c || isEscapable c then some (.char c false, rest)
    else
      match c with
      | 'a' => some (.char '\x07' false, rest)
      | 'f' => some (.char '\x0c' false, rest)
      | 't' => some (.char '\t' false, rest)
      | 'n' => some (.char '\n' false, rest)
      | 'r' => some (.char '\r' false, rest)
      | 'v' => some (.char '\x0b' false, rest)
      | 'A' => some (.look .textStart, rest)
      | 'z' => some (.look .textEnd, rest)
      | 'b' => (readBoundary flags rest).map fun (found, after) => (.look found, after)
      | 'B' => some (.look (.notWordBoundary ascii), rest)
      | '<' => some (.look (.wordStart ascii), rest)
      | '>' => some (.look (.wordEnd ascii), rest)
      | _ => none

end PathRouting.Regex
