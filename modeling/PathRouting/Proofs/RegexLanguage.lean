import PathRouting.Proofs.RegexCoverage
import PathRouting.Proofs.RegexCrossings

/-! The texts that an expression matches. As long as an expression has no conditions and no
groups, it does not matter what stands around a text, and a match records nothing while it
passes. A row between two anchors is then found in a text exactly if the text is made of
what its parts match. -/

namespace PathRouting.Regex

open Relation Program

/-- A match goes on over a text with the property, and records nothing. -/
def Spells (text : List Char) (property : List Char → Prop) (start stop : Point) : Prop :=
  ∃ word, property word ∧ word <+: text.drop start.1 ∧ stop = (start.1 + word.length, start.2)

variable {text : List Char}

theorem append_prefix_drop_iff {one two : List Char} {start : Nat} :
    one ++ two <+: text.drop start ↔
      one <+: text.drop start ∧ two <+: text.drop (start + one.length) := by
  constructor
  · rintro ⟨rest, whole⟩
    rw [List.append_assoc] at whole
    refine ⟨⟨two ++ rest, whole⟩, ?_⟩
    rw [← List.drop_drop, ← whole, List.drop_left]
    exact List.prefix_append two rest
  · rintro ⟨⟨rest, whole⟩, written⟩
    rw [← List.drop_drop, ← whole, List.drop_left] at written
    rw [← whole]
    exact (List.prefix_append_right_inj one).mpr written

private theorem spells_append (first second : List Char → Prop) :
    Comp (Spells text first) (Spells text second) =
      Spells text fun word => ∃ one two, first one ∧ second two ∧ word = one ++ two := by
  funext start stop
  apply propext
  constructor
  · rintro ⟨_, ⟨one, good, written, rfl⟩, two, fine, writtenToo, rfl⟩
    exact ⟨one ++ two, ⟨one, two, good, fine, rfl⟩, append_prefix_drop_iff.mpr ⟨written, writtenToo⟩,
      by rw [List.length_append, Nat.add_assoc]⟩
  · rintro ⟨_, ⟨one, two, good, fine, rfl⟩, whole, rfl⟩
    obtain ⟨written, writtenToo⟩ := append_prefix_drop_iff.mp whole
    exact ⟨_, ⟨one, good, written, rfl⟩, two, fine, writtenToo,
      by rw [List.length_append, Nat.add_assoc]⟩

private theorem spells_nothing : Spells text (· = []) = Eq := by
  funext start stop
  simp only [Spells, exists_eq_left, List.nil_prefix, true_and, List.length_nil, Nat.add_zero,
    eq_iff_iff]
  exact eq_comm

private theorem spells_rounds (property : List Char → Prop) (count : Nat) :
    Rounds (Spells text property) count =
      Spells text fun word => ∃ words : List (List Char), words.length = count ∧
        (∀ round ∈ words, property round) ∧ word = words.flatten := by
  induction count with
  | zero =>
    rw [Rounds, ← @spells_nothing text]
    congr 1
    funext word
    simp
  | succ count ih =>
    rw [Rounds, ih, spells_append]
    congr 1
    funext word
    apply propext
    constructor
    · rintro ⟨one, _, good, ⟨words, counted, each, rfl⟩, rfl⟩
      exact ⟨one :: words, by rw [List.length_cons, counted],
        List.forall_mem_cons.mpr ⟨good, each⟩, rfl⟩
    · rintro ⟨_ | ⟨one, words⟩, counted, each, rfl⟩
      · cases counted
      · obtain ⟨good, others⟩ := List.forall_mem_cons.mp each
        exact ⟨one, _, good, ⟨words, Nat.succ.inj counted, others, rfl⟩, rfl⟩

namespace Expr

/-- The texts of an expression, whatever stands around them. What a condition asks for does
not depend on a text alone. -/
def Matches : Expr → List Char → Prop
  | empty, word => word = []
  | literal chars, word => word = chars
  | one set, word => ∃ c, set.contains c = true ∧ word = [c]
  | look _, _ => False
  | group _ _ body, word => Matches body word
  | repeated least most _ body, word =>
    ∃ words : List (List Char), least ≤ words.length ∧
      (∀ limit ∈ most, words.length - least ≤ limit - least) ∧
      (∀ round ∈ words, Matches body round) ∧ word = words.flatten
  | seq first second, word =>
    ∃ one two, Matches first one ∧ Matches second two ∧ word = one ++ two
  | alt first second, word => Matches first word ∨ Matches second word

def isPlain : Expr → Bool
  | look _ => false
  | group .. => false
  | repeated _ _ _ body => body.isPlain
  | seq first second => first.isPlain && second.isPlain
  | alt first second => first.isPlain && second.isPlain
  | _ => true

private theorem crosses_literal (chars : List Char) :
    Crosses text (literal chars) = Spells text (· = chars) := by
  funext start stop
  simp [Crosses, Spells]

theorem crosses_plain {expr : Expr} (plain : expr.isPlain = true) :
    Crosses text expr = Spells text expr.Matches := by
  induction expr with
  | empty => exact spells_nothing.symm
  | literal chars => exact crosses_literal chars
  | one set =>
    funext start stop
    apply propext
    constructor
    · rintro ⟨⟨c, present, contained⟩, rfl⟩
      obtain ⟨bound, equal⟩ := List.getElem?_eq_some_iff.mp present
      refine ⟨[c], ⟨c, contained, rfl⟩, ?_, rfl⟩
      rw [List.drop_eq_getElem_cons bound, equal]
      exact ⟨_, rfl⟩
    · rintro ⟨_, ⟨c, contained, rfl⟩, ⟨rest, whole⟩, rfl⟩
      refine ⟨⟨c, ?_, contained⟩, rfl⟩
      rw [← Nat.add_zero start.1, ← List.getElem?_drop, ← whole]
      rfl
  | look condition => cases plain
  | group index name body => cases plain
  | repeated least most isLazy body ih =>
    funext start stop
    simp only [Crosses, ih plain, spells_rounds]
    apply propext
    constructor
    · rintro ⟨count, enough, few, _, ⟨words, rfl, each, rfl⟩, written, rfl⟩
      exact ⟨_, ⟨words, enough, few, each, rfl⟩, written, rfl⟩
    · rintro ⟨_, ⟨words, enough, few, each, rfl⟩, written, rfl⟩
      exact ⟨words.length, enough, few, _, ⟨words, rfl, each, rfl⟩, written, rfl⟩
  | seq first second firstIh secondIh =>
    obtain ⟨one, two⟩ := Bool.and_eq_true_iff.mp plain
    funext start stop
    rw [Crosses, firstIh one, secondIh two, spells_append]
    rfl
  | alt first second firstIh secondIh =>
    obtain ⟨one, two⟩ := Bool.and_eq_true_iff.mp plain
    funext start stop
    rw [Crosses, firstIh one, secondIh two]
    apply propext
    constructor
    · rintro (⟨word, good, rest⟩ | ⟨word, good, rest⟩)
      · exact ⟨word, .inl good, rest⟩
      · exact ⟨word, .inr good, rest⟩
    · rintro ⟨word, good | good, rest⟩
      · exact .inl ⟨word, good, rest⟩
      · exact .inr ⟨word, good, rest⟩

/-- Whether no text of the expression can contain the character. -/
def avoids (c : Char) : Expr → Bool
  | literal chars => !chars.contains c
  | one set => !set.contains c
  | group _ _ body => body.avoids c
  | repeated _ _ _ body => body.avoids c
  | seq first second => first.avoids c && second.avoids c
  | alt first second => first.avoids c && second.avoids c
  | _ => true

theorem Matches.avoids {expr : Expr} {c : Char} {word : List Char} (matched : expr.Matches word)
    (avoiding : expr.avoids c = true) : c ∉ word := by
  induction expr generalizing word with
  | empty =>
    cases matched
    exact List.not_mem_nil
  | literal chars =>
    cases matched
    simpa [Expr.avoids] using avoiding
  | one set =>
    obtain ⟨other, contained, rfl⟩ := matched
    intro member
    obtain rfl := List.mem_singleton.mp member
    simp [Expr.avoids, contained] at avoiding
  | look condition => cases matched
  | group index name body ih => exact ih matched avoiding
  | repeated least most isLazy body ih =>
    obtain ⟨words, _, _, each, rfl⟩ := matched
    intro member
    obtain ⟨round, inside, member⟩ := List.mem_flatten.mp member
    exact ih (each round inside) avoiding member
  | seq first second firstIh secondIh =>
    obtain ⟨one, two, matchedOne, matchedTwo, rfl⟩ := matched
    obtain ⟨avoidingOne, avoidingTwo⟩ := Bool.and_eq_true_iff.mp avoiding
    intro member
    rcases List.mem_append.mp member with inside | inside
    · exact firstIh matchedOne avoidingOne inside
    · exact secondIh matchedTwo avoidingTwo inside
  | alt first second firstIh secondIh =>
    obtain ⟨avoidingOne, avoidingTwo⟩ := Bool.and_eq_true_iff.mp avoiding
    rcases matched with matched | matched
    · exact firstIh matched avoidingOne
    · exact secondIh matched avoidingTwo

/-! ### Rows -/

def CrossesRow (text : List Char) : List Expr → Point → Point → Prop
  | [] => Eq
  | part :: rest => Comp (Crosses text part) (CrossesRow text rest)

theorem crossesRow_append (first second : List Expr) :
    CrossesRow text (first ++ second) = Comp (CrossesRow text first) (CrossesRow text second) := by
  induction first with
  | nil => rw [CrossesRow, List.nil_append, eq_comp]
  | cons part rest ih => rw [List.cons_append, CrossesRow, CrossesRow, ih, comp_assoc]

private theorem crossesRow_single (part : Expr) : CrossesRow text [part] = Crosses text part := by
  rw [CrossesRow, CrossesRow, comp_eq]

private theorem crossesRow_items (expr : Expr) : CrossesRow text expr.items = Crosses text expr := by
  induction expr with
  | empty => rfl
  | seq first second firstIh secondIh =>
    rw [items, crossesRow_append, firstIh, secondIh]
    rfl
  | _ => exact crossesRow_single _

private theorem crossesRow_flatMap_items (parts : List Expr) :
    CrossesRow text (parts.flatMap items) = CrossesRow text parts := by
  induction parts with
  | nil => rfl
  | cons part rest ih => rw [List.flatMap_cons, crossesRow_append, crossesRow_items, ih, CrossesRow]

private theorem crosses_ofItems (parts : List Expr) :
    Crosses text (ofItems parts) = CrossesRow text parts := by
  induction parts with
  | nil => rfl
  | cons part rest ih =>
    cases rest with
    | nil => exact (crossesRow_single part).symm
    | cons next later => rw [CrossesRow, ← ih]; rfl

private theorem crosses_literal_append (chars more : List Char) :
    Comp (Crosses text (literal chars)) (Crosses text (literal more)) =
      Crosses text (literal (chars ++ more)) := by
  rw [crosses_literal, crosses_literal, crosses_literal, spells_append]
  simp

private theorem crossesRow_joinLiterals (parts : List Expr) :
    CrossesRow text (joinLiterals parts) = CrossesRow text parts := by
  induction parts with
  | nil => rfl
  | cons part rest ih =>
    unfold joinLiterals
    split
    next chars more later joined =>
      rw [joined, CrossesRow] at ih
      rw [CrossesRow, CrossesRow, ← ih, ← comp_assoc, crosses_literal_append]
    next => rw [CrossesRow, CrossesRow, ih]

private theorem crosses_concat (parts : List Expr) :
    Crosses text (concat parts) = CrossesRow text parts := by
  rw [concat, crosses_ofItems, crossesRow_joinLiterals, crossesRow_flatMap_items]

theorem crossesRow_literals (chars : List Char) :
    CrossesRow text (chars.map fun c => literal [c]) = Spells text (· = chars) := by
  induction chars with
  | nil => exact spells_nothing.symm
  | cons c chars ih =>
    rw [List.map_cons, CrossesRow, ih, crosses_literal, spells_append]
    simp

def anchored (parts : List Expr) : Expr :=
  concat ([look .textStart] ++ parts ++ [look .textEnd])

private theorem crosses_textStart {start stop : Point} (inside : start.1 ≤ text.length) :
    Crosses text (look .textStart) start stop ↔ start.1 = 0 ∧ start = stop := by
  have first : (Look.textStart.holds (placeAt text start.1).before (placeAt text start.1).after) = true ↔
      start.1 = 0 := by
    by_cases begins : start.1 = 0
    · simp [Look.holds, placeAt, begins]
    · have bound : start.1 - 1 < text.length := by omega
      simp [Look.holds, placeAt, begins, bound]
  rw [Crosses, first]

private theorem crosses_textEnd {start stop : Point} :
    Crosses text (look .textEnd) start stop ↔ text.length ≤ start.1 ∧ start = stop := by
  simp [Crosses, Look.holds, placeAt]

/-- A row between anchors is passed from the start of the text to its end. -/
theorem accepted_anchored {parts : List Expr} {marks : Marks} :
    Accepted (anchored parts).program text marks ↔
      ∃ stop, text.length ≤ stop ∧ CrossesRow text parts (0, [(0, 0)]) (stop, marks) := by
  rw [accepted_iff, anchored, crosses_concat, List.append_assoc, crossesRow_append,
    crossesRow_append, crossesRow_single, crossesRow_single]
  constructor
  · rintro ⟨start, inside, stop, middle, first, later, passed, last⟩
    obtain ⟨rfl, rfl⟩ := (crosses_textStart inside).mp first
    obtain ⟨ended, rfl⟩ := crosses_textEnd.mp last
    exact ⟨stop, ended, passed⟩
  · rintro ⟨stop, ended, passed⟩
    exact ⟨0, Nat.zero_le _, stop, _, (crosses_textStart (Nat.zero_le _)).mpr ⟨rfl, rfl⟩, _, passed,
      crosses_textEnd.mpr ⟨ended, rfl⟩⟩

/-- A plain expression between anchors is found in its own texts only. -/
theorem find?_anchored {body : Expr} (plain : body.isPlain = true) :
    ((anchored [body]).program.find? text).isSome = true ↔ body.Matches text := by
  simp only [find?_isSome_iff, accepted_anchored, crossesRow_single, crosses_plain plain]
  constructor
  · rintro ⟨_, _, ended, word, matched, written, equal⟩
    cases equal
    rw [Nat.zero_add] at ended
    rw [List.drop_zero, List.prefix_iff_eq_take, List.take_of_length_le ended] at written
    exact written ▸ matched
  · intro matched
    exact ⟨_, _, by simp, text, matched, List.prefix_rfl, rfl⟩

end Expr

end PathRouting.Regex
