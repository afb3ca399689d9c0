import PathRouting.Regex.Reader

/-! Reading a beginning. Where the reader has stopped before the end of a text, it stops
at the same place, and with the same result, when more text follows. -/

namespace PathRouting.Regex

variable {flags : Flags} {text rest : List Char} {next : Char}

theorem dropWhile_append_of_cons {test : Char → Bool} (left : text.dropWhile test = next :: rest)
    (more : List Char) : (text ++ more).dropWhile test = next :: (rest ++ more) := by
  rw [List.dropWhile_append, left]
  rfl

theorem takeWhile_append_of_cons {test : Char → Bool} (left : text.dropWhile test = next :: rest)
    (more : List Char) : (text ++ more).takeWhile test = text.takeWhile test := by
  induction text with
  | nil => cases left
  | cons c text ih =>
    rw [List.dropWhile_cons] at left
    rw [List.cons_append, List.takeWhile_cons, List.takeWhile_cons]
    split at left
    next holds => rw [if_pos holds, if_pos holds, ih left]
    next fails => rw [if_neg fails, if_neg fails]

private theorem skipSpace_append {comment : Bool} (left : skipSpace comment text = next :: rest)
    (more : List Char) : skipSpace comment (text ++ more) = next :: (rest ++ more) := by
  induction text generalizing comment with
  | nil => cases left
  | cons c text ih =>
    rw [List.cons_append, skipSpace]
    rw [skipSpace] at left
    split at left
    next inside => rw [if_pos inside, ih left]
    next outside =>
      rw [if_neg outside]
      split at left
      next blank => rw [if_pos blank, ih left]
      next solid =>
        rw [if_neg solid]
        split at left
        next sharp => rw [if_pos sharp, ih left]
        next other =>
          rw [if_neg other]
          cases left
          rfl

theorem Flags.skip_append (left : flags.skip text = next :: rest) (more : List Char) :
    flags.skip (text ++ more) = next :: (rest ++ more) := by
  unfold Flags.skip at left ⊢
  split at left
  next verbose => rw [if_pos verbose, skipSpace_append left]
  next plain => rw [if_neg plain, left, List.cons_append]

theorem Flags.skip_nil (flags : Flags) : flags.skip [] = [] := by
  rw [Flags.skip, skipSpace, ite_self]

private theorem length_skipSpace_le (comment : Bool) (text : List Char) :
    (skipSpace comment text).length ≤ text.length := by
  induction text generalizing comment with
  | nil => exact Nat.le_refl _
  | cons c text ih =>
    have shorter := fun comment => Nat.le_succ_of_le (ih comment)
    rw [skipSpace]
    split
    · exact shorter _
    · split
      · exact shorter _
      · split
        · exact shorter _
        · exact Nat.le_refl _

theorem Flags.length_skip_le (flags : Flags) (text : List Char) :
    (flags.skip text).length ≤ text.length := by
  unfold Flags.skip
  split
  · exact length_skipSpace_le false text
  · exact Nat.le_refl _

private theorem readHexDigits_append {count : Nat} {digits : List Char}
    (read : readHexDigits flags count text = some (digits, next :: rest)) (more : List Char) :
    readHexDigits flags count (text ++ more) = some (digits, next :: (rest ++ more)) := by
  induction count generalizing text digits with
  | zero =>
    cases read
    rfl
  | succ count ih =>
    cases text with
    | nil => cases read
    | cons c text =>
      rw [List.cons_append, readHexDigits]
      rw [readHexDigits] at read
      split at read
      next digit =>
        obtain ⟨⟨later, after⟩, found, equal⟩ := Option.map_eq_some_iff.mp read
        cases equal
        rw [if_pos digit]
        simp only at found ⊢
        split at found
        next last => rw [if_pos last, ih found, Option.map_some]
        next others =>
          rw [if_neg others]
          cases skipped : flags.skip text with
          | nil =>
            rw [skipped] at found
            cases count with
            | zero => exact absurd rfl others
            | succ count => cases found
          | cons d text =>
            rw [skipped] at found
            rw [Flags.skip_append skipped, ← List.cons_append, ih found, Option.map_some]
      next => cases read

private theorem readBracedWithin_append {fuel enough : Nat} {inner : List Char}
    (read : readBracedWithin flags fuel text = some (inner, rest)) (more : List Char)
    (fits : fuel ≤ enough) :
    readBracedWithin flags enough (text ++ more) = some (inner, rest ++ more) := by
  induction fuel generalizing enough text inner with
  | zero => cases read
  | succ fuel ih =>
    obtain ⟨enough, rfl⟩ : ∃ larger, enough = larger + 1 := ⟨enough - 1, by omega⟩
    rw [readBracedWithin] at read ⊢
    split at read
    · cases read
    next skipped =>
      cases read
      rw [Flags.skip_append skipped]
      rfl
    next c text other skipped =>
      obtain ⟨⟨later, after⟩, found, equal⟩ := Option.map_eq_some_iff.mp read
      cases equal
      rw [Flags.skip_append skipped]
      split
      next impossible => cases impossible
      next impossible => exact absurd (List.cons.inj impossible).1 other
      next same =>
        cases same
        rw [ih found (Nat.le_of_succ_le_succ fits), Option.map_some]

private theorem readBraced_append {inner : List Char} (read : readBraced flags text = some (inner, rest))
    (more : List Char) : readBraced flags (text ++ more) = some (inner, rest ++ more) := by
  apply readBracedWithin_append read
  rw [List.length_append]
  omega

private theorem readCode_append {digits : Nat} {c : Char} {byte : Bool}
    (read : readCode flags digits text = some (c, byte, next :: rest)) (more : List Char) :
    readCode flags digits (text ++ more) = some (c, byte, next :: (rest ++ more)) := by
  unfold readCode at read ⊢
  cases skipped : flags.skip text with
  | nil =>
    rw [skipped] at read
    obtain ⟨⟨code, after⟩, found, later⟩ := Option.bind_eq_some_iff.mp read
    obtain ⟨number, _, later⟩ := Option.bind_eq_some_iff.mp later
    obtain ⟨c, _, equal⟩ := Option.bind_eq_some_iff.mp later
    cases equal
    cases digits <;> cases found
  | cons first text =>
    rw [skipped] at read
    rw [Flags.skip_append skipped]
    split at read
    next braced equal =>
      cases equal
      obtain ⟨⟨code, after⟩, found, later⟩ := Option.bind_eq_some_iff.mp read
      simp only at later
      split at later
      next => cases later
      next full =>
        obtain ⟨number, numbered, later⟩ := Option.bind_eq_some_iff.mp later
        obtain ⟨c, valid, equal⟩ := Option.bind_eq_some_iff.mp later
        cases equal
        have nonempty : code ≠ [] := by simpa using full
        simp [readBraced_append found, nonempty, numbered, valid]
    next other =>
      obtain ⟨⟨code, after⟩, found, later⟩ := Option.bind_eq_some_iff.mp read
      obtain ⟨number, numbered, later⟩ := Option.bind_eq_some_iff.mp later
      obtain ⟨c, valid, equal⟩ := Option.bind_eq_some_iff.mp later
      cases equal
      split
      next equal =>
        cases equal
        exact absurd rfl (other _)
      next same =>
        rw [← List.cons_append, readHexDigits_append found]
        simp [numbered, valid]

private theorem readProperty_append {negated : Bool} {atom : Atom}
    (read : readProperty flags negated text = some (atom, next :: rest)) (more : List Char) :
    readProperty flags negated (text ++ more) = some (atom, next :: (rest ++ more)) := by
  unfold readProperty at read ⊢
  split at read
  next => cases read
  next unicode =>
    rw [if_neg unicode]
    cases skipped : flags.skip text with
    | nil =>
      rw [skipped] at read
      cases read
    | cons first text =>
      rw [skipped] at read
      rw [Flags.skip_append skipped]
      split at read
      next => cases read
      next braced equal =>
        cases equal
        obtain ⟨⟨name, after⟩, found, later⟩ := Option.bind_eq_some_iff.mp read
        obtain ⟨⟨set, other⟩, known, later⟩ := Option.bind_eq_some_iff.mp later
        obtain ⟨closed, built, equal⟩ := Option.bind_eq_some_iff.mp later
        cases equal
        simp [readBraced_append found, known, built]
      next c letter other equal =>
        cases equal
        simp only at read
        split at read
        next => cases read
        next plain =>
          obtain ⟨found, known, later⟩ := Option.bind_eq_some_iff.mp read
          obtain ⟨closed, built, equal⟩ := Option.bind_eq_some_iff.mp later
          obtain ⟨rfl, left⟩ := Prod.mk.inj (Option.some.inj equal)
          split
          next impossible => cases impossible
          next impossible => exact absurd (List.cons.inj impossible).1 other
          next same =>
            cases same
            simp only [if_neg plain, known, built, Flags.skip_append left, bind, Option.bind_some, pure]

private theorem boundaryName_append {fuel enough : Nat} {name : List Char}
    (read : boundaryName flags fuel text = (name, next :: rest)) (ends : isBoundaryChar next = false)
    (more : List Char) (fits : fuel ≤ enough) :
    boundaryName flags enough (text ++ more) = (name, next :: (rest ++ more)) := by
  have stops : ∀ enough rest, boundaryName flags enough (next :: rest) = ([], next :: rest) := by
    intro enough rest
    cases enough with
    | zero => rfl
    | succ enough => simp [boundaryName, ends]
  induction fuel generalizing enough text name with
  | zero =>
    cases read
    exact stops _ _
  | succ fuel ih =>
    cases text with
    | nil => cases read
    | cons c text =>
      rw [boundaryName] at read
      split at read
      next letter =>
        obtain ⟨enough, rfl⟩ : ∃ larger, enough = larger + 1 := ⟨enough - 1, by omega⟩
        obtain ⟨rfl, left⟩ := Prod.mk.inj read
        cases skipped : flags.skip text with
        | nil =>
          rw [skipped] at left
          cases fuel <;> cases left
        | cons d text =>
          rw [skipped] at left
          have later := ih (Prod.ext rfl left) (Nat.le_of_succ_le_succ fits)
          rw [List.cons_append, boundaryName, if_pos letter, Flags.skip_append skipped,
            ← List.cons_append, later]
      next =>
        cases read
        exact stops _ _

private theorem readBoundary_append {condition : Look}
    (read : readBoundary flags text = some (condition, next :: rest)) (more : List Char) :
    readBoundary flags (text ++ more) = some (condition, next :: (rest ++ more)) := by
  cases text with
  | nil => cases read
  | cons c text =>
    unfold readBoundary at read ⊢
    simp only at read ⊢
    split at read
    next braced equal =>
      cases equal
      rw [List.cons_append]
      simp only
      cases skipped : flags.skip text with
      | nil =>
        rw [skipped] at read
        cases read
      | cons d text =>
        rw [skipped] at read
        rw [Flags.skip_append skipped]
        simp only at read ⊢
        split at read
        next letter =>
          rw [if_pos letter]
          split at read
          next name last named =>
            obtain ⟨found, known, equal⟩ := Option.map_eq_some_iff.mp read
            cases equal
            have fits : text.length + 2 ≤ (text ++ more).length + 2 := by simp
            rw [← List.cons_append, boundaryName_append named rfl more fits]
            simp only [known, Option.map_some, List.cons_append]
          next => cases read
        next other =>
          cases read
          rw [if_neg other]
    next other =>
      cases read
      rw [List.cons_append]
      split
      next equal =>
        cases equal
        exact absurd rfl (other _)
      next => rfl

theorem readEscape_append {atom : Atom}
    (read : readEscape flags text = some (atom, next :: rest)) (more : List Char) :
    readEscape flags (text ++ more) = some (atom, next :: (rest ++ more)) := by
  cases text with
  | nil => cases read
  | cons c text =>
    rw [List.cons_append]
    unfold readEscape at read ⊢
    simp only at read ⊢
    split at read
    next => cases read
    next noDigit =>
      rw [if_neg noDigit]
      split at read
      next code =>
        rw [if_pos code]
        obtain ⟨⟨found, byte, after⟩, coded, equal⟩ := Option.map_eq_some_iff.mp read
        cases equal
        rw [readCode_append coded, Option.map_some]
      next noCode =>
        rw [if_neg noCode]
        split at read
        next property => rw [if_pos property, readProperty_append read]
        next noProperty =>
          rw [if_neg noProperty]
          split at read
          next perl =>
            rw [if_pos perl]
            obtain ⟨set, known, equal⟩ := Option.map_eq_some_iff.mp read
            cases equal
            rw [known, Option.map_some, List.cons_append]
          next noPerl =>
            rw [if_neg noPerl]
            split at read
            next meant =>
              cases read
              rw [if_pos meant, List.cons_append]
            next letter =>
              rw [if_neg letter]
              split at read
              any_goals
                cases read
                rfl
              · obtain ⟨⟨look, after⟩, bounded, equal⟩ := Option.map_eq_some_iff.mp read
                cases equal
                rw [readBoundary_append bounded, Option.map_some]
              · cases read

end PathRouting.Regex
