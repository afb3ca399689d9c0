import Mathlib.Data.List.Chain
import PathRouting.Proofs.RoutePieces

/-! The tokens of a route. Cutting a route into tokens is a partition: the slices that
the tokens stand for are the route, one after the other, and no placeholder is left
inside of a text. -/

namespace PathRouting

open Placeholder

/-- A token stands for a slice of a route: a literal for its own text, a parameter for the
written form of a placeholder, with the pattern that the aliases give it. -/
inductive Token.Spells (aliases : AliasTable) : Token → List Char → Prop where
  | literal (text : String) : Spells aliases (.literal text) text.toList
  | parameter {written : List Char} {found : Placeholder} (writes : Writes written found) :
      Spells aliases (.parameter found.name (aliases.resolve found.pattern)) written

def Token.isLiteral : Token → Bool
  | literal _ => true
  | parameter .. => false

namespace Placeholder

private theorem scan?_append {text rest : List Char} {found : Placeholder}
    (scanned : scan? text = some (found, rest)) (more : List Char) :
    scan? (text ++ more) = some (found, rest ++ more) := by
  obtain ⟨written, writes, rfl⟩ := scan?_eq_some_iff.mp scanned
  exact scan?_eq_some_iff.mpr ⟨written, writes, List.append_assoc ..⟩

private theorem scan?_of_append_eq_none {text more : List Char} (nothing : scan? (text ++ more) = none) :
    scan? text = none := by
  cases scanned : scan? text with
  | none => rfl
  | some result => cases nothing.symm.trans (scan?_append scanned more)

end Placeholder

namespace Template

def Piece.isText : Piece → Bool
  | text _ => true
  | slot .. => false

/-- No piece is a text next to another text. -/
def Alternates (found : List Piece) : Prop :=
  found.IsChain fun first second => ¬ (first.isText = true ∧ second.isText = true)

private theorem alternates_slot {written : List Char} {found : Placeholder} {later : List Piece}
    (alternates : Alternates later) : Alternates (.slot written found :: later) :=
  List.isChain_cons.mpr ⟨fun _ _ both => Bool.false_ne_true both.1, alternates⟩

private theorem alternates_consText {found : List Piece} (alternates : Alternates found) (c : Char) :
    Alternates (consText c found) := by
  unfold consText
  split
  next chars later =>
    obtain ⟨apart, later⟩ := List.isChain_cons.mp alternates
    exact List.isChain_cons.mpr ⟨apart, later⟩
  next noText =>
    refine List.isChain_cons.mpr ⟨fun second first both => ?_, alternates⟩
    cases found with
    | nil => cases first
    | cons piece later =>
      cases first
      cases second with
      | text chars => exact noText chars later rfl
      | slot written placeholder => cases both.2

theorem alternates_pieces (route : List Char) : Alternates (pieces route) := by
  induction route using pieces_induction with
  | nil =>
    rw [pieces_nil]
    exact List.isChain_nil
  | placeholder written found after writes ih =>
    rw [pieces_placeholder writes]
    exact alternates_slot ih
  | char c rest nothing ih =>
    rw [pieces_char nothing]
    exact alternates_consText ih c

def IsPlain (text : List Char) : Prop := ∀ rest, rest <:+ text → scan? rest = none

private theorem isPlain_nil : IsPlain [] := by
  intro rest ends
  rw [List.suffix_nil.mp ends]
  rfl

private theorem isPlain_cons {c : Char} {text : List Char} (nothing : scan? (c :: text) = none)
    (plain : IsPlain text) : IsPlain (c :: text) := by
  intro rest ends
  rcases List.suffix_cons_iff.mp ends with rfl | later
  · exact nothing
  · exact plain rest later

theorem IsPlain.no_placeholder {text : List Char} (plain : IsPlain text) {written : List Char}
    {found : Placeholder} (writes : Writes written found) : ¬ written <:+: text := by
  rintro ⟨before, after, rfl⟩
  have scanned : scan? (written ++ after) = some (found, after) :=
    scan?_eq_some_iff.mpr ⟨written, writes, rfl⟩
  cases (plain _ ⟨before, (List.append_assoc ..).symm⟩).symm.trans scanned

private theorem pieces_of_isPlain {text : List Char} (plain : IsPlain text) (some : text ≠ []) :
    pieces text = [.text text] := by
  induction text with
  | nil => exact absurd rfl some
  | cons c text ih =>
    rw [pieces_char (plain _ (List.suffix_refl _))]
    cases text with
    | nil => rw [pieces_nil]; rfl
    | cons d text =>
      rw [ih (fun rest ends => plain rest (ends.trans (List.suffix_cons ..))) (by simp)]
      rfl

/-- No placeholder begins in a text of a route, also if the text stands alone: what
follows it in the route can only complete a placeholder, not take one away. -/
theorem isPlain_of_text {route chars : List Char} (member : .text chars ∈ pieces route) :
    IsPlain chars := by
  induction route using pieces_induction generalizing chars with
  | nil => simp at member
  | placeholder written found after writes ih =>
    rw [pieces_placeholder writes] at member
    rcases List.mem_cons.mp member with equal | later
    · cases equal
    · exact ih later
  | char c rest nothing ih =>
    have whole := chars_pieces rest
    rw [pieces_char nothing] at member
    unfold consText at member
    split at member
    next first later equal =>
      rcases List.mem_cons.mp member with same | later
      · cases same
        rw [equal, List.flatMap_cons, Piece.chars] at whole
        rw [← whole, ← List.cons_append] at nothing
        exact isPlain_cons (scan?_of_append_eq_none nothing) (ih (equal ▸ List.mem_cons_self))
      · exact ih (equal ▸ List.mem_cons_of_mem _ later)
    next =>
      rcases List.mem_cons.mp member with same | later
      · cases same
        rw [← List.singleton_append] at nothing
        exact isPlain_cons (scan?_of_append_eq_none nothing) isPlain_nil
      · exact ih later

variable (aliases : AliasTable)

private theorem token_isLiteral (piece : Piece) : (piece.token aliases).isLiteral = piece.isText := by
  cases piece <;> rfl

private theorem literal_mem_tokens {route : List Char} (some : route ≠ []) {text : String}
    (member : .literal text ∈ tokens aliases route) : .text text.toList ∈ pieces route := by
  rw [tokens_of_ne_nil aliases some] at member
  obtain ⟨piece, inside, equal⟩ := List.mem_map.mp member
  cases piece with
  | text chars =>
    cases equal
    rwa [String.toList_ofList]
  | slot written found => cases equal

private theorem spells_pieces {found : List Piece}
    (writes : ∀ written placeholder, .slot written placeholder ∈ found → Writes written placeholder) :
    List.Forall₂ (Token.Spells aliases) (found.map (Piece.token aliases)) (found.map Piece.chars) := by
  rw [List.forall₂_map_left_iff, List.forall₂_map_right_iff, List.forall₂_same]
  rintro (chars | ⟨written, placeholder⟩) member
  · have spells : Token.Spells aliases _ _ := .literal (String.ofList chars)
    rwa [String.toList_ofList] at spells
  · exact .parameter (writes written placeholder member)

/-- The tokens of a route stand for consecutive slices of it that make up the route. There
is at least one token, no literal is empty unless the route is, no two literals stand side
by side, and no literal holds a placeholder: it is one literal again when it is cut alone. -/
theorem tokens_partition (route : List Char) :
    (∃ slices : List (List Char), slices.flatten = route ∧
      List.Forall₂ (Token.Spells aliases) (tokens aliases route) slices) ∧
    tokens aliases route ≠ [] ∧
    (∀ text, .literal text ∈ tokens aliases route → text ≠ "" ∨ route = []) ∧
    (tokens aliases route).IsChain
      (fun first second => ¬ (first.isLiteral = true ∧ second.isLiteral = true)) ∧
    ∀ text, .literal text ∈ tokens aliases route →
      tokens aliases text.toList = [.literal text] ∧
      ∀ written found, Writes written found → ¬ written <:+: text.toList := by
  by_cases empty : route = []
  · subst empty
    rw [tokens_nil]
    refine ⟨⟨[[]], rfl, .cons (.literal "") .nil⟩, by simp, fun _ _ => .inr rfl,
      List.isChain_singleton _, ?_⟩
    intro text member
    cases List.mem_singleton.mp member
    exact ⟨tokens_nil aliases, fun written found writes => isPlain_nil.no_placeholder writes⟩
  · have texts : ∀ text, .literal text ∈ tokens aliases route → .text text.toList ∈ pieces route :=
      fun text => literal_mem_tokens aliases empty
    have chain : (tokens aliases route).IsChain
        (fun first second => ¬ (first.isLiteral = true ∧ second.isLiteral = true)) := by
      rw [tokens_of_ne_nil aliases empty, List.isChain_map]
      simp only [token_isLiteral]
      exact alternates_pieces route
    refine ⟨⟨(pieces route).map Piece.chars, ?_, ?_⟩, ?_, fun text member => .inl ?_, chain,
      fun text member => ⟨?_, ?_⟩⟩
    · rw [← List.flatMap_def, chars_pieces]
    · rw [tokens_of_ne_nil aliases empty]
      exact spells_pieces aliases fun _ _ => writes_of_slot
    · rw [tokens_of_ne_nil aliases empty]
      exact fun none => pieces_ne_nil empty (List.map_eq_nil_iff.mp none)
    · rintro rfl
      exact text_pieces_ne_nil (texts _ member) rfl
    · have some := text_pieces_ne_nil (texts text member)
      rw [tokens_of_ne_nil aliases some, pieces_of_isPlain (isPlain_of_text (texts text member)) some,
        List.map_singleton, Piece.token, String.ofList_toList]
    · exact fun written found => (isPlain_of_text (texts text member)).no_placeholder

example : tokens .standard "/a/\x7b1\x7d/\x7b\x7b id : i \x7d\x7d".toList =
    [.literal "/a/\x7b1\x7d/\x7b", .parameter "id" "\\d+", .literal "\x7d"] := by decide +kernel

end Template

end PathRouting
