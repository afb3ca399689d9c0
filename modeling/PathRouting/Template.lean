import PathRouting.AliasTable
import PathRouting.Error
import PathRouting.Placeholder
import PathRouting.Token

/-! Route templates. A template is a route followed by optional groups,
`/user/{id}[/{tab}]`; it stands for the routes with none, one, … all of its
groups. Brackets inside placeholders belong to the placeholder. A single route is
a row of literal text and placeholders. -/

namespace PathRouting.Template

/-- A stretch of a route: ordinary text, or a placeholder with its written form. -/
inductive Piece where
  | text (chars : List Char)
  | slot (written : List Char) (found : Placeholder)
  deriving DecidableEq, Repr

/-- Puts a character in front, joining it with text that follows. -/
def consText (c : Char) : List Piece → List Piece
  | .text chars :: rest => .text (c :: chars) :: rest
  | rest => .text [c] :: rest

/-- Cuts a route into text and placeholders, from left to right. -/
def pieces : List Char → List Piece
  | [] => []
  | c :: rest =>
    match scanned : Placeholder.scan? (c :: rest) with
    | some (found, after) =>
      .slot ((c :: rest).take (rest.length + 1 - after.length)) found :: pieces after
    | none => consText c (pieces rest)
termination_by text => text.length
decreasing_by
  · exact Placeholder.length_scan? scanned
  · simp

def Piece.token (aliases : AliasTable) : Piece → Token
  | text chars => .literal (String.ofList chars)
  | slot _ found => .parameter found.name (aliases.resolve found.pattern)

/-- The tokens of a route without optional groups. The empty route is one empty literal. -/
def tokens (aliases : AliasTable) (route : List Char) : List Token :=
  match pieces route with
  | [] => [.literal ""]
  | found => found.map (Piece.token aliases)

/-- Puts a character in front of the first segment. -/
def consSegment (c : Char) : List (List Char) → List (List Char)
  | [] => [[c]]
  | segment :: rest => (c :: segment) :: rest

/-- Cuts text at every `delimiter` and continues with the segments of what follows. -/
def splitText (delimiter : Char) (later : List (List Char)) : List Char → List (List Char)
  | [] => later
  | c :: rest =>
    if c = delimiter then [] :: splitText delimiter later rest
    else consSegment c (splitText delimiter later rest)

/-- The segments between the delimiters that stand outside placeholders. -/
def splitPieces (delimiter : Char) : List Piece → List (List Char)
  | [] => [[]]
  | .text chars :: rest => splitText delimiter (splitPieces delimiter rest) chars
  | .slot written _ :: rest => written.foldr consSegment (splitPieces delimiter rest)

/-- The segments of a route between the delimiters outside its placeholders. -/
def splitOutside (delimiter : Char) (route : List Char) : List (List Char) :=
  splitPieces delimiter (pieces route)

/-- The text without the closing brackets at its end. -/
def withoutClosing (template : List Char) : List Char :=
  (template.reverse.dropWhile (· = ']')).reverse

/-- The routes that begin with `before` and take in one more segment each time;
no segment may be empty. -/
def expansions? (before : List Char) : List (List Char) → Option (List (List Char))
  | [] => some []
  | segment :: rest =>
    if segment.isEmpty then none
    else (expansions? (before ++ segment) rest).map ((before ++ segment) :: ·)

/-- The routes that a template stands for, shortest first, as text. -/
def routes (template : String) : Except RouteError (List (List Char)) :=
  let body := withoutClosing template.toList
  if 1 < (splitOutside ']' body).length then .error (.badPattern .misplaced template)
  else
    match splitOutside '[' body with
    | [] => .error (.badPattern .unbalanced template)
    | first :: rest =>
      if rest.length ≠ template.toList.length - body.length then
        .error (.badPattern .unbalanced template)
      else
        match expansions? first rest with
        | none => .error (.badPattern .emptyGroup template)
        | some longer => .ok (first :: longer)

/-- The token sequences that a template stands for, shortest first. -/
def parse (aliases : AliasTable) (template : String) : Except RouteError (List (List Token)) :=
  (routes template).map fun found => found.map (tokens aliases)

end PathRouting.Template
