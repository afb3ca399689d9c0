import Mathlib.Data.List.DropRight
import PathRouting.Proofs.PlaceholderGrammar

/-! Text with balanced braces. The search for a closing brace passes over such text, the
written form of a placeholder is such text, and trimming does not change which braces
there are. -/

namespace PathRouting

namespace Text

private theorem trim_eq (text : List Char) :
    trim text = (text.dropWhile isWhiteSpace).rdropWhile isWhiteSpace := rfl

private theorem exists_eq_trim (text : List Char) :
    ∃ before after, text = before ++ (trim text ++ after) ∧
    (∀ c ∈ before, isWhiteSpace c = true) ∧ ∀ c ∈ after, isWhiteSpace c = true := by
  refine ⟨text.takeWhile isWhiteSpace, (text.dropWhile isWhiteSpace).rtakeWhile isWhiteSpace, ?_,
    fun c => List.mem_takeWhile_imp, fun c => List.mem_rtakeWhile_imp⟩
  rw [trim_eq, List.rdropWhile_append_rtakeWhile, List.takeWhile_append_dropWhile]

theorem trim_trim (text : List Char) : trim (trim text) = trim text := by
  have start : (trim text).dropWhile isWhiteSpace = trim text := by
    obtain ⟨after, whole⟩ := List.rdropWhile_prefix isWhiteSpace (l := text.dropWhile isWhiteSpace)
    rw [← trim_eq] at whole
    cases left : trim text with
    | nil => rfl
    | cons c rest =>
      rw [left] at whole
      have first := List.head?_dropWhile_not isWhiteSpace text
      rw [← whole] at first
      simpa using first
  rw [trim_eq (trim text), start]
  exact List.rdropWhile_idempotent ..

theorem trimmed_trimmed (text : String) : trimmed (trimmed text) = trimmed text := by
  rw [trimmed, trimmed, String.toList_ofList, trim_trim]

end Text

namespace Placeholder

/-- Balanced text in front changes nothing, as no brace of it is left open. -/
theorem balanced_append_iff {depth : Nat} {first second : List Char} (balanced : Balanced 0 first) :
    Balanced depth (first ++ second) ↔ Balanced depth second := by
  have even := balanced.total
  constructor
  · rintro ⟨total, within⟩
    rw [List.count_append, List.count_append] at total
    refine ⟨by omega, fun start begins => ?_⟩
    have bound := within (first ++ start) ((List.prefix_append_right_inj first).mpr begins)
    rw [List.count_append, List.count_append] at bound
    omega
  · rintro ⟨total, within⟩
    refine ⟨by rw [List.count_append, List.count_append]; omega, fun start begins => ?_⟩
    rcases List.prefix_or_prefix_of_prefix begins (List.prefix_append first second) with
      inside | ⟨later, rfl⟩
    · have bound := balanced.within start inside
      omega
    · have bound := within later ((List.prefix_append_right_inj first).mp begins)
      rw [List.count_append, List.count_append]
      omega

private theorem balanced_append_right_iff {depth : Nat} {first second : List Char}
    (balanced : Balanced 0 second) : Balanced depth (first ++ second) ↔ Balanced depth first := by
  have even := balanced.total
  constructor
  · rintro ⟨total, within⟩
    rw [List.count_append, List.count_append] at total
    exact ⟨by omega, fun start begins => within start (begins.trans (List.prefix_append first second))⟩
  · rintro ⟨total, within⟩
    refine ⟨by rw [List.count_append, List.count_append]; omega, fun start begins => ?_⟩
    rcases List.prefix_or_prefix_of_prefix begins (List.prefix_append first second) with
      inside | ⟨later, rfl⟩
    · exact within start inside
    · have bound := balanced.within later ((List.prefix_append_right_inj first).mp begins)
      rw [List.count_append, List.count_append]
      omega

private theorem balanced_of_no_braces {text : List Char} (opens : '{' ∉ text) (closes : '}' ∉ text) :
    Balanced 0 text := by
  refine ⟨by rw [List.count_eq_zero.mpr opens, List.count_eq_zero.mpr closes], fun start begins => ?_⟩
  rw [List.count_eq_zero.mpr fun inside => closes (begins.subset inside)]
  exact Nat.zero_le _

private theorem balanced_open_iff {depth : Nat} {text : List Char} :
    Balanced depth ('{' :: text) ↔ Balanced (depth + 1) text :=
  balanced_cons (by simp; omega)

private theorem balanced_close_iff {depth : Nat} {text : List Char} :
    Balanced (depth + 1) ('}' :: text) ↔ Balanced depth text :=
  balanced_cons (by simp; omega)

private theorem balanced_braces {inner : List Char} (balanced : Balanced 0 inner) :
    Balanced 0 ('{' :: (inner ++ ['}'])) := by
  rw [balanced_open_iff, balanced_append_iff balanced, balanced_close_iff]
  exact balanced_nil

/-- A brace is closed behind balanced text exactly if it is closed without that text. -/
theorem closing?_isSome_append {depth : Nat} {first : List Char} (balanced : Balanced 0 first)
    (second : List Char) :
    (closing? depth (first ++ second)).isSome = (closing? depth second).isSome := by
  rw [Bool.eq_iff_iff, Option.isSome_iff_exists, Option.isSome_iff_exists]
  constructor
  · rintro ⟨⟨inner, rest⟩, found⟩
    obtain ⟨whole, inside⟩ := closing?_eq_some_iff.mp found
    -- balanced text closes nothing that it has not opened, so the closing brace is behind it
    have behind : ¬ inner ++ ['}'] <+: first := by
      intro early
      have bound := balanced.within _ early
      have total := inside.total
      simp at bound
      omega
    have ends : inner ++ ['}'] <+: first ++ second := ⟨rest, by rw [whole]; simp⟩
    rcases List.prefix_or_prefix_of_prefix ends (List.prefix_append first second) with early | late
    · exact absurd early behind
    · rcases List.prefix_concat_iff.mp late with equal | ⟨between, rfl⟩
      · exact absurd ⟨[], by rw [List.append_nil, equal]⟩ behind
      · rw [List.append_assoc] at whole
        exact ⟨(between, rest), closing?_eq_some_iff.mpr
          ⟨List.append_cancel_left whole, (balanced_append_iff balanced).mp inside⟩⟩
  · rintro ⟨⟨inner, rest⟩, found⟩
    obtain ⟨rfl, inside⟩ := closing?_eq_some_iff.mp found
    exact ⟨(first ++ inner, rest), closing?_eq_some_iff.mpr
      ⟨(List.append_assoc ..).symm, (balanced_append_iff balanced).mpr inside⟩⟩

instance (depth : Nat) (text : List Char) : Decidable (Balanced depth text) :=
  decidable_of_iff (closing? depth (text ++ ['}']) = some (text, []))
    ⟨fun found => (closing?_eq_some_iff.mp found).2,
      fun balanced => closing?_eq_some_iff.mpr ⟨rfl, balanced⟩⟩

private theorem balanced_of_isWhiteSpace {text : List Char}
    (blank : ∀ c ∈ text, Text.isWhiteSpace c = true) :
    Balanced 0 text :=
  balanced_of_no_braces (fun inside => absurd (blank _ inside) (by decide))
    (fun inside => absurd (blank _ inside) (by decide))

private theorem balanced_of_isBlank {text : List Char} (blank : ∀ c ∈ text, Text.isBlank c = true) :
    Balanced 0 text :=
  balanced_of_isWhiteSpace fun c inside => Text.isWhiteSpace_of_isBlank (blank c inside)

theorem balanced_trim_iff (text : List Char) : Balanced 0 (Text.trim text) ↔ Balanced 0 text := by
  obtain ⟨before, after, whole, blankBefore, blankAfter⟩ := Text.exists_eq_trim text
  conv_rhs => rw [whole]
  rw [balanced_append_iff (balanced_of_isWhiteSpace blankBefore),
    balanced_append_right_iff (balanced_of_isWhiteSpace blankAfter)]

theorem IsName.balanced {name : List Char} (valid : IsName name) : Balanced 0 name :=
  balanced_of_no_braces (valid.not_mem (by decide) (by decide)) (valid.not_mem (by decide) (by decide))

/-- The braces of a placeholder are balanced. -/
theorem Writes.balanced {written : List Char} {found : Placeholder} (writes : Writes written found) :
    Balanced 0 written := by
  cases writes with
  | @named before name after blankBefore valid blankAfter =>
    have inner : Balanced 0 (before ++ (name ++ after)) := by
      rw [balanced_append_iff (balanced_of_isBlank blankBefore), balanced_append_iff valid.balanced]
      exact balanced_of_isBlank blankAfter
    simpa using balanced_braces inner
  | @patterned before name after pattern blankBefore valid blankAfter balanced =>
    have colon : Balanced 0 [':'] := balanced_of_no_braces (by decide) (by decide)
    have inner : Balanced 0 (before ++ (name ++ (after ++ ([':'] ++ pattern)))) := by
      rw [balanced_append_iff (balanced_of_isBlank blankBefore), balanced_append_iff valid.balanced,
        balanced_append_iff (balanced_of_isBlank blankAfter), balanced_append_iff colon]
      exact balanced
    simpa using balanced_braces inner

end Placeholder

end PathRouting
