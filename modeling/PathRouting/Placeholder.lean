import PathRouting.Text

/-! Placeholders of a route: `{name}` or `{name:pattern}`. The pattern is any text
with balanced braces; blanks may surround the name. An opening brace that starts
no placeholder is ordinary text. -/

namespace PathRouting

/-- A placeholder as written. -/
structure Placeholder where
  name : String
  /-- The trimmed text after the colon, if there is a colon. -/
  pattern : Option String
  deriving DecidableEq, Repr

namespace Placeholder

def startsName (c : Char) : Bool := Text.isLetter c || c = '_'

def continuesName (c : Char) : Bool := Text.isLetter c || Text.isDigit c || c = '_' || c = '-'

/-- Splits the text at the closing brace that balances `depth` open ones and the
one before them: the text up to it, and the text after it. -/
def closing? : Nat → List Char → Option (List Char × List Char)
  | _, [] => none
  | depth, c :: rest =>
    if c = '{' then (closing? (depth + 1) rest).map fun found => (c :: found.1, found.2)
    else if c = '}' then
      match depth with
      | 0 => some ([], rest)
      | depth + 1 => (closing? depth rest).map fun found => (c :: found.1, found.2)
    else (closing? depth rest).map fun found => (c :: found.1, found.2)

/-- What follows the name: the end of the placeholder, or a pattern. -/
def scanTail? (name : List Char) : List Char → Option (Placeholder × List Char)
  | '}' :: rest => some (⟨String.ofList name, none⟩, rest)
  | ':' :: rest =>
    (closing? 0 rest).map fun found =>
      (⟨String.ofList name, some (String.ofList (Text.trim found.1))⟩, found.2)
  | _ => none

def scanBody? (text : List Char) : Option (Placeholder × List Char) :=
  match text.dropWhile Text.isBlank with
  | [] => none
  | c :: rest =>
    if startsName c then
      scanTail? (c :: rest.takeWhile continuesName)
        ((rest.dropWhile continuesName).dropWhile Text.isBlank)
    else none

/-- Reads a placeholder at the head of the text: the placeholder and what follows it. -/
def scan? : List Char → Option (Placeholder × List Char)
  | '{' :: rest => scanBody? rest
  | _ => none

theorem length_closing? {depth : Nat} {text inner rest : List Char}
    (found : closing? depth text = some (inner, rest)) :
    inner.length + rest.length + 1 = text.length := by
  induction text generalizing depth inner with
  | nil => simp [closing?] at found
  | cons c text ih =>
    have step : ∀ {depth}, (closing? depth text).map (fun found => (c :: found.1, found.2)) =
        some (inner, rest) → inner.length + rest.length + 1 = (c :: text).length := by
      intro depth found
      obtain ⟨⟨later, after⟩, scanned, equal⟩ := Option.map_eq_some_iff.1 found
      obtain ⟨rfl, rfl⟩ := Prod.mk.inj equal
      have := ih scanned
      simp only [List.length_cons] at *
      omega
    unfold closing? at found
    split at found
    · exact step found
    · split at found
      · cases depth with
        | zero =>
          obtain ⟨rfl, rfl⟩ := Prod.mk.inj (Option.some.inj found)
          simp
        | succ depth => exact step found
      · exact step found

/-- A placeholder takes up at least one character. -/
theorem length_scan? {text rest : List Char} {found : Placeholder}
    (scanned : scan? text = some (found, rest)) : rest.length < text.length := by
  unfold scan? at scanned
  split at scanned
  case h_2 => simp at scanned
  case h_1 text =>
    unfold scanBody? at scanned
    have shorter := (List.dropWhile_sublist Text.isBlank (l := text)).length_le
    split at scanned
    case h_1 => simp at scanned
    case h_2 c after equal =>
      rw [equal] at shorter
      split at scanned
      case isFalse => simp at scanned
      have first := (List.dropWhile_sublist continuesName (l := after)).length_le
      have second :=
        (List.dropWhile_sublist Text.isBlank (l := after.dropWhile continuesName)).length_le
      simp only [List.length_cons] at shorter ⊢
      unfold scanTail? at scanned
      split at scanned
      case h_1 tail closed =>
        rw [closed] at second
        obtain ⟨rfl, rfl⟩ := Prod.mk.inj (Option.some.inj scanned)
        simp only [List.length_cons] at second
        omega
      case h_2 tail opened =>
        rw [opened] at second
        obtain ⟨⟨inner, last⟩, closed, equal⟩ := Option.map_eq_some_iff.1 scanned
        obtain ⟨rfl, rfl⟩ := Prod.mk.inj equal
        have := length_closing? closed
        simp only [List.length_cons] at *
        omega
      case h_3 => simp at scanned

end Placeholder

end PathRouting
