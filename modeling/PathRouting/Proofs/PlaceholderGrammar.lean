import Mathlib.Data.List.TakeWhile
import PathRouting.Placeholder

/-! The grammar of placeholders. Scanning finds a placeholder exactly where the text
begins with the written form of one, and then nothing that follows this form counts. -/

namespace PathRouting.Placeholder

/-- The text closes `depth` braces that it has not opened, and otherwise as many as it
opens; no part at its start closes more than that. -/
structure Balanced (depth : Nat) (text : List Char) : Prop where
  total : text.count '}' = text.count '{' + depth
  within : ∀ start, start <+: text → start.count '}' ≤ start.count '{' + depth

theorem balanced_nil : Balanced 0 [] :=
  ⟨rfl, fun _ start => by rw [List.prefix_nil.mp start]; exact Nat.le_refl _⟩

theorem balanced_cons {depth next : Nat} {c : Char} {text : List Char}
    (step : [c].count '}' + next = [c].count '{' + depth) :
    Balanced depth (c :: text) ↔ Balanced next text := by
  have closed : ∀ rest, (c :: rest).count '}' = [c].count '}' + rest.count '}' :=
    fun rest => @List.count_append _ _ _ [c] rest
  have opened : ∀ rest, (c :: rest).count '{' = [c].count '{' + rest.count '{' :=
    fun rest => @List.count_append _ _ _ [c] rest
  constructor
  · rintro ⟨total, within⟩
    rw [closed, opened] at total
    refine ⟨by omega, fun start begins => ?_⟩
    have bound := within (c :: start) (List.cons_prefix_cons.mpr ⟨rfl, begins⟩)
    rw [closed, opened] at bound
    omega
  · rintro ⟨total, within⟩
    refine ⟨by rw [closed, opened]; omega, fun start begins => ?_⟩
    cases start with
    | nil => exact Nat.zero_le _
    | cons d start =>
      obtain ⟨rfl, later⟩ := List.cons_prefix_cons.mp begins
      have bound := within start later
      rw [closed, opened]
      omega

/-- The closing brace is the first one that was not opened in between. -/
theorem closing?_eq_some_iff {depth : Nat} {text inner rest : List Char} :
    closing? depth text = some (inner, rest) ↔
      text = inner ++ '}' :: rest ∧ Balanced depth inner := by
  induction text generalizing depth inner with
  | nil => simp [closing?]
  | cons c text ih =>
    have passes : ∀ {next}, [c].count '}' + next = [c].count '{' + depth → (c = '}' → 0 < depth) →
        ((closing? next text).map (fun found => (c :: found.1, found.2)) = some (inner, rest) ↔
          c :: text = inner ++ '}' :: rest ∧ Balanced depth inner) := by
      intro next step open_
      rw [Option.map_eq_some_iff]
      constructor
      · rintro ⟨⟨later, after⟩, found, equal⟩
        cases equal
        obtain ⟨rfl, balanced⟩ := ih.mp found
        exact ⟨rfl, (balanced_cons step).mpr balanced⟩
      · rintro ⟨whole, balanced⟩
        cases inner with
        | nil =>
          obtain ⟨rfl, rfl⟩ := List.cons.inj whole
          have total := balanced.total
          have some := open_ rfl
          simp at total
          omega
        | cons d later =>
          obtain ⟨rfl, rfl⟩ := List.cons.inj whole
          exact ⟨(later, rest), ih.mpr ⟨rfl, (balanced_cons step).mp balanced⟩, rfl⟩
    unfold closing?
    split
    next opens =>
      subst opens
      exact passes (by simp; omega) fun equal => absurd equal (by decide)
    next noOpening =>
      split
      next closes =>
        subst closes
        cases depth with
        | zero =>
          constructor
          · intro found
            cases found
            exact ⟨rfl, balanced_nil⟩
          · rintro ⟨whole, balanced⟩
            cases inner with
            | nil => rw [(List.cons.inj whole).2]
            | cons d later =>
              obtain ⟨rfl, _⟩ := List.cons.inj whole
              have bound := balanced.within ['}'] (by simp)
              simp at bound
        | succ depth => exact passes (by simp; omega) fun _ => Nat.succ_pos depth
      next noClosing => exact passes (by simp [noOpening, noClosing]) fun equal => absurd equal noClosing

/-- A letter or underscore, and further letters, digits, underscores and hyphens. -/
def IsName (name : List Char) : Prop :=
  ∃ first later, name = first :: later ∧ startsName first = true ∧
    ∀ c ∈ later, continuesName c = true

theorem IsName.not_mem {name : List Char} (valid : IsName name) {c : Char}
    (starts : startsName c = false) (continues : continuesName c = false) : c ∉ name := by
  obtain ⟨first, later, rfl, begins, goes⟩ := valid
  intro inside
  rcases List.mem_cons.mp inside with rfl | member
  · rw [begins] at starts
    cases starts
  · rw [goes c member] at continues
    cases continues

inductive Writes : List Char → Placeholder → Prop where
  | named {before name after : List Char} (blankBefore : ∀ c ∈ before, Text.isBlank c = true)
      (valid : IsName name) (blankAfter : ∀ c ∈ after, Text.isBlank c = true) :
      Writes ('{' :: (before ++ (name ++ (after ++ ['}'])))) ⟨String.ofList name, none⟩
  | patterned {before name after pattern : List Char}
      (blankBefore : ∀ c ∈ before, Text.isBlank c = true) (valid : IsName name)
      (blankAfter : ∀ c ∈ after, Text.isBlank c = true) (balanced : Balanced 0 pattern) :
      Writes ('{' :: (before ++ (name ++ (after ++ ':' :: (pattern ++ ['}'])))))
        ⟨String.ofList name, some (String.ofList (Text.trim pattern))⟩

theorem Writes.compact {name pattern : List Char} (valid : IsName name)
    (balanced : Balanced 0 pattern) :
    Writes ('{' :: (name ++ ':' :: (pattern ++ ['}'])))
      ⟨String.ofList name, some (String.ofList (Text.trim pattern))⟩ := by
  have form : Writes ('{' :: ([] ++ (name ++ ([] ++ ':' :: (pattern ++ ['}'])))))
      ⟨String.ofList name, some (String.ofList (Text.trim pattern))⟩ :=
    .patterned (by simp) valid (by simp) balanced
  exact form

theorem Writes.isName {written : List Char} {found : Placeholder} (writes : Writes written found) :
    IsName found.name.toList := by
  cases writes <;> rwa [String.toList_ofList]

theorem Writes.head {written : List Char} {found : Placeholder} (writes : Writes written found) :
    ∃ inner, written = '{' :: inner := by
  cases writes <;> exact ⟨_, rfl⟩

theorem Writes.last {written : List Char} {found : Placeholder} (writes : Writes written found) :
    ∃ inner, written = inner ++ ['}'] := by
  cases writes with
  | @named before name after => exact ⟨'{' :: (before ++ (name ++ after)), by simp⟩
  | @patterned before name after pattern =>
    exact ⟨'{' :: (before ++ (name ++ (after ++ ':' :: pattern))), by simp⟩

private theorem not_isBlank_of_startsName {c : Char} (starts : startsName c = true) :
    Text.isBlank c = false := by
  rw [Bool.eq_false_iff]
  intro blank
  simp only [Text.isBlank, Bool.or_eq_true, decide_eq_true_eq] at blank
  rcases blank with (((rfl | rfl) | rfl) | rfl) | rfl <;> revert starts <;> decide

private theorem not_continuesName_of_isBlank {c : Char} (blank : Text.isBlank c = true) :
    continuesName c = false := by
  simp only [Text.isBlank, Bool.or_eq_true, decide_eq_true_eq] at blank
  rcases blank with (((rfl | rfl) | rfl) | rfl) | rfl <;> decide

private theorem scanBody?_name {before after later : List Char} (tail : List Char) {first c : Char}
    (blankBefore : ∀ d ∈ before, Text.isBlank d = true) (starts : startsName first = true)
    (continues : ∀ d ∈ later, continuesName d = true)
    (blankAfter : ∀ d ∈ after, Text.isBlank d = true) (ends : c = '}' ∨ c = ':') :
    scanBody? (before ++ (first :: later ++ (after ++ c :: tail))) =
      scanTail? (first :: later) (c :: tail) := by
  have noBlank : Text.isBlank c = false := by rcases ends with rfl | rfl <;> decide
  have noName : continuesName c = false := by rcases ends with rfl | rfl <;> decide
  have stops : (after ++ c :: tail).takeWhile continuesName = [] ∧
      (after ++ c :: tail).dropWhile continuesName = after ++ c :: tail := by
    cases after with
    | nil => simp [noName]
    | cons d after => simp [not_continuesName_of_isBlank (blankAfter d List.mem_cons_self)]
  simp only [scanBody?, List.cons_append, List.dropWhile_append_of_pos blankBefore,
    List.dropWhile_cons, not_isBlank_of_startsName starts, Bool.false_eq_true, if_false, starts,
    if_true, List.takeWhile_append_of_pos continues, List.dropWhile_append_of_pos continues, stops,
    List.append_nil, List.dropWhile_append_of_pos blankAfter, noBlank]

/-- Scanning finds a placeholder exactly where the text begins with its written form. -/
theorem scan?_eq_some_iff {text rest : List Char} {found : Placeholder} :
    scan? text = some (found, rest) ↔ ∃ written, Writes written found ∧ text = written ++ rest := by
  constructor
  · intro scanned
    unfold scan? at scanned
    split at scanned
    next body =>
      have blankBefore : ∀ c ∈ body.takeWhile Text.isBlank, Text.isBlank c = true :=
        fun c => List.mem_takeWhile_imp
      have whole := List.takeWhile_append_dropWhile (p := Text.isBlank) (l := body)
      unfold scanBody? at scanned
      split at scanned
      next => cases scanned
      next first text equal =>
        split at scanned
        next starts =>
          have valid : IsName (first :: text.takeWhile continuesName) :=
            ⟨first, _, rfl, starts, fun c => List.mem_takeWhile_imp⟩
          have named := List.takeWhile_append_dropWhile (p := continuesName) (l := text)
          rw [equal, ← named] at whole
          generalize body.takeWhile Text.isBlank = before at blankBefore whole
          generalize text.takeWhile continuesName = name at scanned valid whole
          generalize text.dropWhile continuesName = left at scanned whole
          have blankAfter : ∀ c ∈ left.takeWhile Text.isBlank, Text.isBlank c = true :=
            fun c => List.mem_takeWhile_imp
          have spaced := List.takeWhile_append_dropWhile (p := Text.isBlank) (l := left)
          rw [← spaced] at whole
          generalize left.takeWhile Text.isBlank = after at blankAfter whole
          unfold scanTail? at scanned
          split at scanned
          next ends =>
            cases scanned
            refine ⟨_, .named blankBefore valid blankAfter, ?_⟩
            rw [← whole, ends]
            simp
          next inner ends =>
            obtain ⟨⟨pattern, behind⟩, closed, same⟩ := Option.map_eq_some_iff.mp scanned
            cases same
            obtain ⟨rfl, balanced⟩ := closing?_eq_some_iff.mp closed
            refine ⟨_, .patterned blankBefore valid blankAfter balanced, ?_⟩
            rw [← whole, ends]
            simp
          next => cases scanned
        next => cases scanned
    next => cases scanned
  · rintro ⟨written, writes, rfl⟩
    cases writes with
    | named blankBefore valid blankAfter =>
      obtain ⟨first, later, rfl, starts, continues⟩ := valid
      have read := scanBody?_name rest blankBefore starts continues blankAfter (.inl rfl)
      simp only [List.cons_append, List.append_assoc, List.nil_append, scan?] at read ⊢
      rw [read]
      rfl
    | @patterned _ _ _ pattern blankBefore valid blankAfter balanced =>
      obtain ⟨first, later, rfl, starts, continues⟩ := valid
      have closed : closing? 0 (pattern ++ '}' :: rest) = some (pattern, rest) :=
        closing?_eq_some_iff.mpr ⟨rfl, balanced⟩
      have read := scanBody?_name (pattern ++ '}' :: rest) blankBefore starts continues
        blankAfter (.inr rfl)
      simp only [List.cons_append, List.append_assoc, List.nil_append, scan?] at read ⊢
      rw [read, scanTail?, closed]
      rfl

/-- A placeholder is found whatever comes after its end, also if nothing does. -/
theorem scan?_of_append {text more rest : List Char} {found : Placeholder}
    (scanned : scan? (text ++ more) = some (found, rest)) (inside : more.length ≤ rest.length) :
    ∃ between, rest = between ++ more ∧ scan? text = some (found, between) := by
  obtain ⟨written, writes, whole⟩ := scan?_eq_some_iff.mp scanned
  obtain ⟨between, rfl, rfl⟩ | ⟨between, rfl, rfl⟩ := List.append_eq_append_iff.mp whole
  · have none : between = [] := by
      rw [List.length_append] at inside
      exact List.eq_nil_of_length_eq_zero (by omega)
    subst none
    exact ⟨[], rfl, scan?_eq_some_iff.mpr ⟨text, by rwa [List.append_nil] at writes, by simp⟩⟩
  · exact ⟨between, rfl, scan?_eq_some_iff.mpr ⟨written, writes, rfl⟩⟩

end PathRouting.Placeholder
