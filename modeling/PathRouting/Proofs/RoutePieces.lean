import PathRouting.Proofs.PlaceholderGrammar
import PathRouting.Template

/-! The pieces of a route. Cutting a route takes off a placeholder where one is written and
a character of text elsewhere; nothing is lost on the way. -/

namespace PathRouting.Template

open Placeholder

/-- A piece as it stands in the route. -/
def Piece.chars : Piece → List Char
  | text chars => chars
  | slot written _ => written

@[simp] theorem pieces_nil : pieces [] = [] := by
  rw [pieces]

theorem pieces_placeholder {written : List Char} {found : Placeholder}
    (writes : Writes written found) (after : List Char) :
    pieces (written ++ after) = .slot written found :: pieces after := by
  have scanned : scan? (written ++ after) = some (found, after) :=
    scan?_eq_some_iff.mpr ⟨written, writes, rfl⟩
  obtain ⟨inner, rfl⟩ := writes.head
  rw [List.cons_append] at scanned ⊢
  rw [pieces]
  split
  next other later again =>
    cases again.symm.trans scanned
    have size : (inner ++ after).length + 1 - after.length = ('{' :: inner).length := by
      rw [List.length_append, List.length_cons]
      omega
    rw [size, ← List.cons_append, List.take_left]
  next nothing => cases nothing.symm.trans scanned

theorem pieces_char {c : Char} {rest : List Char} (nothing : scan? (c :: rest) = none) :
    pieces (c :: rest) = consText c (pieces rest) := by
  rw [pieces]
  split
  next scanned => cases nothing.symm.trans scanned
  next => rfl

/-- What is kept by every placeholder and every character in front of a route holds of all
routes. -/
theorem pieces_induction {motive : List Char → Prop} (nil : motive [])
    (placeholder : ∀ written found after, Writes written found → motive after →
      motive (written ++ after))
    (char : ∀ c rest, scan? (c :: rest) = none → motive rest → motive (c :: rest))
    (text : List Char) : motive text := by
  fun_induction pieces text with
  | case1 => exact nil
  | case2 c rest found after scanned ih =>
    obtain ⟨written, writes, whole⟩ := scan?_eq_some_iff.mp scanned
    rw [whole]
    exact placeholder written found after writes ih
  | case3 c rest nothing ih => exact char c rest nothing ih

private theorem mem_consText {c : Char} {written : List Char} {found : Placeholder} {pieces : List Piece}
    (member : .slot written found ∈ consText c pieces) : .slot written found ∈ pieces := by
  unfold consText at member
  split at member
  next =>
    rcases List.mem_cons.mp member with equal | later
    · cases equal
    · exact List.mem_cons_of_mem _ later
  next =>
    rcases List.mem_cons.mp member with equal | later
    · cases equal
    · exact later

private theorem chars_consText (c : Char) (found : List Piece) :
    (consText c found).flatMap Piece.chars = c :: found.flatMap Piece.chars := by
  unfold consText
  split <;> rfl

theorem writes_of_slot {route written : List Char} {found : Placeholder}
    (member : .slot written found ∈ pieces route) : Writes written found := by
  induction route using pieces_induction with
  | nil => simp at member
  | placeholder other placeholder after writes ih =>
    rw [pieces_placeholder writes] at member
    rcases List.mem_cons.mp member with equal | later
    · cases equal
      exact writes
    · exact ih later
  | char c rest nothing ih =>
    rw [pieces_char nothing] at member
    exact ih (mem_consText member)

/-- Cutting a route loses nothing. -/
theorem chars_pieces (text : List Char) : (pieces text).flatMap Piece.chars = text := by
  induction text using pieces_induction with
  | nil => rw [pieces_nil]; rfl
  | placeholder written found after writes ih =>
    rw [pieces_placeholder writes, List.flatMap_cons, ih]
    rfl
  | char c rest nothing ih => rw [pieces_char nothing, chars_consText, ih]

theorem text_pieces_ne_nil {text chars : List Char} (member : .text chars ∈ pieces text) :
    chars ≠ [] := by
  induction text using pieces_induction generalizing chars with
  | nil => simp at member
  | placeholder written found after writes ih =>
    rw [pieces_placeholder writes] at member
    rcases List.mem_cons.mp member with equal | later
    · cases equal
    · exact ih later
  | char c rest nothing ih =>
    rw [pieces_char nothing] at member
    unfold consText at member
    split at member
    next first more same =>
      rcases List.mem_cons.mp member with equal | later
      · cases equal
        simp
      · exact ih (same ▸ List.mem_cons_of_mem _ later)
    next =>
      rcases List.mem_cons.mp member with equal | later
      · cases equal
        simp
      · exact ih later

theorem pieces_ne_nil {route : List Char} (some : route ≠ []) : pieces route ≠ [] := by
  intro none
  have whole := chars_pieces route
  rw [none] at whole
  exact some whole.symm

variable (aliases : AliasTable)

theorem tokens_nil : tokens aliases [] = [.literal ""] := by
  rw [tokens, pieces_nil]

theorem tokens_of_ne_nil {route : List Char} (some : route ≠ []) :
    tokens aliases route = (pieces route).map (Piece.token aliases) := by
  rw [tokens]
  split
  next none => exact absurd none (pieces_ne_nil some)
  next => rfl

theorem describeAll_tokens (route : List Char) :
    Token.describeAll (tokens aliases route) =
      Token.describeAll ((pieces route).map (Piece.token aliases)) := by
  rw [tokens]
  split
  next empty => rw [empty]; rfl
  next => rfl

def described (found : List Piece) : List Char :=
  (Token.describeAll (found.map (Piece.token aliases))).toList

theorem described_cons (piece : Piece) (found : List Piece) :
    described aliases (piece :: found) =
      (piece.token aliases).describe.toList ++ described aliases found := by
  simp [described, Token.describeAll]

end PathRouting.Template
