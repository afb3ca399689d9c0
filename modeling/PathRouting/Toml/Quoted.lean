import PathRouting.Text

/-! The four kinds of TOML strings. Between double quotes a backslash begins an
escape; between single quotes every character stands for itself. A string in three
quotes may span lines: a line break right after the opening quotes is left out,
and up to two quotes may stand next to the closing ones. -/

namespace PathRouting.Toml

/-- Whether a character may stand in a string or comment: no control character
other than the tab. -/
def isPrintable (c : Char) : Bool := c = '\t' || (32 ≤ c.toNat && c.toNat ≠ 127)

def isBlank (c : Char) : Bool := c = ' ' || c = '\t'

def skipBlank (text : List Char) : List Char := text.dropWhile isBlank

/-- The text after a line break, if it begins with one. -/
def lineBreak? : List Char → Option (List Char)
  | '\n' :: rest => some rest
  | '\r' :: '\n' :: rest => some rest
  | _ => none

/-- The character of a code point that is written in hexadecimal digits. -/
def codePoint? (digits : List Char) : Option Char :=
  (Text.hexNumber? digits).bind Text.charOfCode?

/-- The character of an escape with one letter. -/
def escaped? (c : Char) : Option Char :=
  match c with
  | 'b' => some '\x08'
  | 't' => some '\t'
  | 'n' => some '\n'
  | 'f' => some '\x0c'
  | 'r' => some '\r'
  | '"' => some '"'
  | '\\' => some '\\'
  | _ => none

def withHead (c : Char) : Option (List Char × List Char) → Option (List Char × List Char) :=
  Option.map fun found => (c :: found.1, found.2)

/-- The contents of a string up to its double quote, and the text after it. -/
def readBasic : List Char → Option (List Char × List Char)
  | [] => none
  | '"' :: rest => some ([], rest)
  | '\\' :: 'u' :: a :: b :: c :: d :: rest =>
    (codePoint? [a, b, c, d]).bind fun value => withHead value (readBasic rest)
  | '\\' :: 'U' :: a :: b :: c :: d :: e :: f :: g :: h :: rest =>
    (codePoint? [a, b, c, d, e, f, g, h]).bind fun value => withHead value (readBasic rest)
  | '\\' :: c :: rest => (escaped? c).bind fun value => withHead value (readBasic rest)
  | c :: rest => if isPrintable c && c ≠ '\\' then withHead c (readBasic rest) else none

/-- The contents of a string up to its single quote, and the text after it. -/
def readLiteral : List Char → Option (List Char × List Char)
  | [] => none
  | '\'' :: rest => some ([], rest)
  | c :: rest => if isPrintable c then withHead c (readLiteral rest) else none

/-- Where a reader is in a string of several lines. -/
inductive LinePlace where
  | inside
  /-- Behind a backslash that ends its line. -/
  | lineEnd
  /-- Behind such a line, where blanks and line breaks do not count. -/
  | margin
  deriving DecidableEq

/-- The contents of a string up to its three double quotes, and the text after it. -/
def readBasicLines : LinePlace → List Char → Option (List Char × List Char)
  | _, [] => none
  | .lineEnd, '\n' :: rest => readBasicLines .margin rest
  | .lineEnd, '\r' :: '\n' :: rest => readBasicLines .margin rest
  | .lineEnd, c :: rest => if isBlank c then readBasicLines .lineEnd rest else none
  | .margin, '\n' :: rest => readBasicLines .margin rest
  | .margin, '\r' :: '\n' :: rest => readBasicLines .margin rest
  | .margin, ' ' :: rest => readBasicLines .margin rest
  | .margin, '\t' :: rest => readBasicLines .margin rest
  | _, '"' :: '"' :: '"' :: '"' :: '"' :: rest => some (['"', '"'], rest)
  | _, '"' :: '"' :: '"' :: '"' :: rest => some (['"'], rest)
  | _, '"' :: '"' :: '"' :: rest => some ([], rest)
  | _, '\n' :: rest => withHead '\n' (readBasicLines .inside rest)
  | _, '\r' :: '\n' :: rest => withHead '\n' (readBasicLines .inside rest)
  | _, '\\' :: 'u' :: a :: b :: c :: d :: rest =>
    (codePoint? [a, b, c, d]).bind fun value => withHead value (readBasicLines .inside rest)
  | _, '\\' :: 'U' :: a :: b :: c :: d :: e :: f :: g :: h :: rest =>
    (codePoint? [a, b, c, d, e, f, g, h]).bind fun value =>
      withHead value (readBasicLines .inside rest)
  | _, '\\' :: c :: rest =>
    match escaped? c with
    | some value => withHead value (readBasicLines .inside rest)
    | none => readBasicLines .lineEnd (c :: rest)
  | _, c :: rest =>
    if isPrintable c && c ≠ '\\' then withHead c (readBasicLines .inside rest) else none

/-- The contents of a string up to its three single quotes, and the text after it. -/
def readLiteralLines : List Char → Option (List Char × List Char)
  | [] => none
  | '\'' :: '\'' :: '\'' :: '\'' :: '\'' :: rest => some (['\'', '\''], rest)
  | '\'' :: '\'' :: '\'' :: '\'' :: rest => some (['\''], rest)
  | '\'' :: '\'' :: '\'' :: rest => some ([], rest)
  | '\n' :: rest => withHead '\n' (readLiteralLines rest)
  | '\r' :: '\n' :: rest => withHead '\n' (readLiteralLines rest)
  | c :: rest => if isPrintable c then withHead c (readLiteralLines rest) else none

/-- A string on one line, as it may also be a key. -/
def lineString? : List Char → Option (String × List Char)
  | '"' :: rest => (readBasic rest).map fun found => (String.ofList found.1, found.2)
  | '\'' :: rest => (readLiteral rest).map fun found => (String.ofList found.1, found.2)
  | _ => none

def string? (text : List Char) : Option (String × List Char) :=
  match text with
  | '"' :: '"' :: '"' :: rest =>
    (readBasicLines .inside ((lineBreak? rest).getD rest)).map fun found =>
      (String.ofList found.1, found.2)
  | '\'' :: '\'' :: '\'' :: rest =>
    (readLiteralLines ((lineBreak? rest).getD rest)).map fun found =>
      (String.ofList found.1, found.2)
  | text => lineString? text

end PathRouting.Toml
