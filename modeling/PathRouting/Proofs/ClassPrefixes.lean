import Mathlib.Data.List.TakeWhile
import PathRouting.Proofs.RegexPrefixes

/-! Reading the beginning of a class. The reader looks a little further here: past a
hyphen, and for the end of a class name. What more text could change is only how a
class goes on that had not ended before. -/

namespace PathRouting.Regex

variable {flags : Flags} {text rest : List Char} {next : Char}

private theorem readClassAtom_append {atom : Atom}
    (read : readClassAtom flags text = some (atom, next :: rest)) (more : List Char) :
    readClassAtom flags (text ++ more) = some (atom, next :: (rest ++ more)) := by
  unfold readClassAtom at read ⊢
  split at read
  next => cases read
  next text =>
    rw [List.cons_append]
    simp only
    split at read
    next => cases read
    next found noLook =>
      rw [readEscape_append read]
      split
      next look after equal =>
        cases equal
        exact absurd read (noLook _ _)
      next => rfl
  next c text other =>
    cases read
    rw [List.cons_append]
    split
    next impossible => cases impossible
    next equal => exact absurd (List.cons.inj equal).1 other
    next equal =>
      cases equal
      rfl

private theorem skipSpace_blank {comment : Bool} (blank : text.dropWhile Text.isWhiteSpace = []) :
    skipSpace comment text = [] := by
  induction text generalizing comment with
  | nil => rfl
  | cons c text ih =>
    rw [List.dropWhile_eq_nil_iff] at blank ih
    obtain ⟨first, others⟩ := List.forall_mem_cons.mp blank
    rw [skipSpace, ih others, if_pos first, ih others, ite_self]

private theorem skipSpace_dropWhile (text : List Char) :
    skipSpace false (text.dropWhile Text.isWhiteSpace) = skipSpace false text := by
  induction text with
  | nil => rfl
  | cons c text ih =>
    rw [List.dropWhile_cons, skipSpace]
    split
    next blank => rw [ih, if_neg Bool.false_ne_true]
    next solid => rw [skipSpace, if_neg solid]

private theorem peek_verbose (verbose : flags.verbose = true) (c : Char) {shown : List Char}
    (visible : text.dropWhile Text.isWhiteSpace = next :: shown) :
    peek flags (c :: text) =
      if next = '#' then (shown.dropWhile Text.isWhiteSpace).head? <|> text.head? else some next := by
  unfold peek
  simp only [if_pos verbose, visible]
  split
  next comment equal =>
    obtain ⟨rfl, rfl⟩ := List.cons.inj equal
    rw [if_pos rfl]
  next other equal =>
    obtain ⟨rfl, rfl⟩ := List.cons.inj equal
    rw [if_neg other]
  next impossible => cases impossible

private theorem peek_plain (plain : flags.verbose = false) (c : Char) (text : List Char) :
    peek flags (c :: text) = text.head? := by
  simp [peek, plain]

/-- Which character comes next does not change, unless only white space and a comment
are left; then it is part of these. -/
theorem peek_append (c : Char) (text more : List Char) :
    peek flags (c :: (text ++ more)) = peek flags (c :: text) ∨
      flags.skip text = [] ∧ ∀ x ∈ peek flags (c :: text), Text.isWhiteSpace x ∨ x = '#' := by
  have first : ∀ x ∈ text.head?,
      Text.isWhiteSpace x ∨ x ∈ (text.dropWhile Text.isWhiteSpace).head? := by
    cases text with
    | nil => simp
    | cons d text => by_cases blank : Text.isWhiteSpace d <;> simp [blank]
  cases verbose : flags.verbose with
  | false =>
    rw [peek_plain verbose, peek_plain verbose]
    cases text with
    | nil => simp [Flags.skip, verbose]
    | cons d text => exact .inl rfl
  | true =>
    rw [Flags.skip, if_pos verbose]
    cases visible : text.dropWhile Text.isWhiteSpace with
    | nil =>
      refine .inr ⟨skipSpace_blank visible, ?_⟩
      intro x member
      have head : x ∈ text.head? := by simpa [peek, verbose, visible] using member
      exact .inl ((first x head).resolve_right (by simp [visible]))
    | cons x shown =>
      -- a comment hides what follows it, and may itself end with the text
      rw [peek_verbose verbose c visible, peek_verbose verbose c (dropWhile_append_of_cons visible more)]
      split
      next sharp =>
        subst sharp
        cases after : shown.dropWhile Text.isWhiteSpace with
        | nil =>
          have sharp : ¬ Text.isWhiteSpace '#' := by decide
          refine .inr ⟨?_, ?_⟩
          · rw [← skipSpace_dropWhile, visible, skipSpace, if_neg Bool.false_ne_true, if_neg sharp,
              if_pos rfl, skipSpace_blank after]
          · intro x member
            rcases first x member with blank | head
            · exact .inl blank
            · exact .inr (by simpa [visible] using head.symm)
        | cons y later =>
          rw [dropWhile_append_of_cons after]
          exact .inl rfl
      next => exact .inl rfl

private theorem readClassItem_append {set : CharSet}
    (read : readClassItem flags text = some (set, next :: rest)) (more : List Char) :
    readClassItem flags (text ++ more) = some (set, next :: (rest ++ more)) := by
  unfold readClassItem at read ⊢
  obtain ⟨⟨first, after⟩, found, later⟩ := Option.bind_eq_some_iff.mp read
  cases after with
  | nil => simp [Flags.skip_nil] at later
  | cons c after =>
    rw [readClassAtom_append found]
    cases skipped : flags.skip (c :: after) with
    | nil => simp [skipped] at later
    | cons d after =>
      have same := Flags.skip_append skipped more
      rw [List.cons_append] at same
      simp only [same, skipped, bind, Option.bind_some, List.isEmpty_cons, Bool.false_eq_true, if_false,
        List.head?_cons, List.drop_one, List.tail_cons] at later ⊢
      split at later
      next single =>
        have still : some d ≠ some '-' ∨ peek flags (d :: (after ++ more)) = some ']' ∨
            peek flags (d :: (after ++ more)) = some '-' := by
          rcases peek_append d after more with equal | ⟨_, unseen⟩
          · rwa [equal]
          · refine single.imp_right fun shown => ?_
            rcases shown with shown | shown <;> exact absurd (unseen _ shown) (by decide)
        rw [if_pos still]
        cases first with
        | char c byte =>
          obtain ⟨found, known, equal⟩ := Option.bind_eq_some_iff.mp later
          cases equal
          simp only [known, Option.bind_some, pure]
        | set found =>
          cases later
          rfl
        | look condition => cases later
      next range =>
        obtain ⟨⟨last, behind⟩, read, later⟩ := Option.bind_eq_some_iff.mp later
        cases left : flags.skip after with
        | nil =>
          rw [left] at read
          cases read
        | cons e shown =>
          have still : peek flags (d :: (after ++ more)) = peek flags (d :: after) :=
            (peek_append d after more).resolve_right fun unseen => by simp [left] at unseen
          rw [still, if_neg range, Flags.skip_append left]
          rw [left] at read
          cases first with
          | char low _ =>
            cases last with
            | char high _ =>
              simp only at later
              split at later
              next => cases later
              next ordered =>
                obtain ⟨lowSet, lowKnown, later⟩ := Option.bind_eq_some_iff.mp later
                obtain ⟨highSet, highKnown, equal⟩ := Option.bind_eq_some_iff.mp later
                cases equal
                rw [← List.cons_append, readClassAtom_append read]
                simp only [Option.bind_some, if_neg ordered, lowKnown, highKnown, pure]
            | _ => cases later
          | _ => cases later

private theorem readHyphens_append {fuel enough : Nat} {set found : CharSet}
    (read : readHyphens flags set fuel text = (found, next :: rest)) {more : List Char}
    (fits : text.length ≤ fuel) (enoughFits : (text ++ more).length ≤ enough) :
    readHyphens flags set enough (text ++ more) = (found, next :: (rest ++ more)) := by
  induction fuel generalizing enough text set with
  | zero =>
    obtain rfl := List.length_eq_zero_iff.mp (Nat.le_zero.mp fits)
    cases read
  | succ fuel ih =>
    cases text with
    | nil => cases read
    | cons c text =>
      have positive : 0 < enough := Nat.lt_of_lt_of_le (by simp) enoughFits
      obtain ⟨enough, rfl⟩ := Nat.exists_eq_add_one.mpr positive
      unfold readHyphens at read
      split at read
      next hyphens equal =>
        cases equal
        have shorter := flags.length_skip_le text
        cases left : flags.skip text with
        | nil =>
          rw [left] at read
          cases fuel <;> cases read
        | cons d after =>
          rw [left] at read shorter
          simp only [List.length_cons, List.length_append] at fits enoughFits shorter
          rw [List.cons_append, readHyphens, Flags.skip_append left, ← List.cons_append]
          apply ih read
          · simp only [List.length_cons]
            omega
          · simp only [List.cons_append, List.length_cons, List.length_append]
            omega
      next other =>
        cases read
        rw [List.cons_append]
        unfold readHyphens
        split
        next equal =>
          cases equal
          exact absurd rfl (other _)
        next => rfl

def readUnsigned (flags : Flags) (negated : Bool) (text : List Char) :
    Option (Bool × CharSet × List Char) :=
  let (set, text) := readHyphens flags CharSet.empty text.length text
  match text with
  | [] => none
  | ']' :: rest =>
    if set.ranges.isEmpty then some (negated, CharSet.singleton ']', flags.skip rest)
    else some (negated, set, text)
  | text => some (negated, set, text)

private theorem readClassStart_eq (flags : Flags) (text : List Char) :
    readClassStart flags text =
      match flags.skip text with
      | '^' :: rest => readUnsigned flags true (flags.skip rest)
      | text => readUnsigned flags false text := by
  unfold readClassStart
  generalize flags.skip text = text
  split
  next => rfl
  next =>
    simp only
    rfl

private theorem readUnsigned_append {negated sign : Bool} {set : CharSet}
    (read : readUnsigned flags sign text = some (negated, set, next :: rest)) (more : List Char) :
    readUnsigned flags sign (text ++ more) = some (negated, set, next :: (rest ++ more)) := by
  unfold readUnsigned at read ⊢
  cases hyphens : readHyphens flags CharSet.empty text.length text with
  | mk found left =>
    rw [hyphens] at read
    cases left with
    | nil => cases read
    | cons c left =>
      rw [readHyphens_append hyphens (Nat.le_refl _) (Nat.le_refl _)]
      simp only at read ⊢
      split at read
      next impossible => cases impossible
      next bracket equal =>
        cases equal
        simp only
        split at read
        next empty =>
          rw [if_pos empty]
          simp only [Option.some.injEq, Prod.mk.injEq] at read
          obtain ⟨rfl, rfl, left⟩ := read
          rw [Flags.skip_append left]
        next full =>
          rw [if_neg full]
          cases read
          rfl
      next other =>
        cases read
        split
        next impossible => cases impossible
        next equal =>
          cases equal
          exact absurd rfl (other _)
        next => rfl

private theorem readClassStart_append {negated : Bool} {set : CharSet}
    (read : readClassStart flags text = some (negated, set, next :: rest)) (more : List Char) :
    readClassStart flags (text ++ more) = some (negated, set, next :: (rest ++ more)) := by
  rw [readClassStart_eq] at read ⊢
  cases skipped : flags.skip text with
  | nil =>
    rw [skipped] at read
    cases read
  | cons c after =>
    rw [skipped] at read
    rw [Flags.skip_append skipped]
    split at read
    next inner equal =>
      cases equal
      simp only
      cases left : flags.skip after with
      | nil =>
        rw [left] at read
        cases read
      | cons d inner =>
        rw [left] at read
        rw [Flags.skip_append left, ← List.cons_append, readUnsigned_append read]
    next other =>
      split
      next equal =>
        cases equal
        exact absurd rfl (other _)
      next => rw [← List.cons_append, readUnsigned_append read]

private theorem readOperation_append {operation : SetOperation}
    (read : readOperation text = some (operation, rest)) (more : List Char) :
    readOperation (text ++ more) = some (operation, rest ++ more) := by
  unfold readOperation at read
  split at read <;> cases read <;> rfl

private theorem readOperation_append_none (without : readOperation text = none) {set : CharSet}
    (found : readClassItem flags text = some (set, next :: rest)) (more : List Char) :
    readOperation (text ++ more) = none := by
  cases text with
  | nil => cases found
  | cons c text =>
    cases text with
    | nil =>
      unfold readClassItem readClassAtom at found
      split at found
      next => simp [bind] at found
      next equal =>
        cases equal
        simp [readEscape, bind] at found
      next equal =>
        cases equal
        simp [Flags.skip_nil, bind] at found
    | cons d text =>
      unfold readOperation at without ⊢
      split
      next equal =>
        cases equal
        cases without
      next equal =>
        cases equal
        cases without
      next equal =>
        cases equal
        cases without
      next => rfl

/-- Whether a character stands for itself wherever it occurs after the start of a class. -/
def isPlain (c : Char) : Bool :=
  !Text.isWhiteSpace c && c ∉ ['#', ']', '[', '\\', '&', '-', '~']

private theorem plain_of_asciiClass? {name : String} {set : CharSet}
    (known : asciiClass? name = some set) : ∀ c ∈ name.toList, isPlain c := by
  unfold asciiClass? at known
  split at known
  case h_15 => cases known
  all_goals exact List.all_eq_true.mp (by decide)

def readClassName (negated : Bool) (text : List Char) : Option (CharSet × Bool × List Char) :=
  match text.dropWhile (· ≠ ':') with
  | ':' :: ']' :: after =>
    (asciiClass? (String.ofList (text.takeWhile (· ≠ ':')))).map fun set => (set, negated, after)
  | _ => none

private theorem readAsciiClass_unsigned (unsigned : text.head? ≠ some '^') :
    readAsciiClass (':' :: text) = readClassName false text := by
  cases text with
  | nil => rfl
  | cons c text =>
    have other : c ≠ '^' := by simpa using unsigned
    simp only [readAsciiClass, List.cons.injEq, other, false_and, imp_false, not_false_eq_true,
      implies_true]
    rfl

private theorem readAsciiClass_other (other : text.head? ≠ some ':') : readAsciiClass text = none := by
  unfold readAsciiClass
  split
  next => exact absurd rfl other
  next => rfl

private theorem readClassName_append {negated sign : Bool} {set : CharSet}
    (read : readClassName sign text = some (set, negated, rest)) (more : List Char) :
    readClassName sign (text ++ more) = some (set, negated, rest ++ more) := by
  unfold readClassName at read ⊢
  split at read
  next after left =>
    obtain ⟨found, known, equal⟩ := Option.map_eq_some_iff.mp read
    cases equal
    rw [dropWhile_append_of_cons left, takeWhile_append_of_cons left]
    simp only [List.cons_append, known, Option.map_some]
  next => cases read

private theorem readAsciiClass_append {set : CharSet} {negated : Bool}
    (read : readAsciiClass text = some (set, negated, rest)) (more : List Char) :
    readAsciiClass (text ++ more) = some (set, negated, rest ++ more) := by
  by_cases colon : text.head? = some ':'
  · obtain ⟨inner, rfl⟩ := List.head?_eq_some_iff.mp colon
    by_cases sign : inner.head? = some '^'
    · obtain ⟨inner, rfl⟩ := List.head?_eq_some_iff.mp sign
      exact readClassName_append read more
    · rw [readAsciiClass_unsigned sign] at read
      cases inner with
      | nil => cases read
      | cons c inner =>
        rw [List.cons_append, readAsciiClass_unsigned (by exact sign)]
        exact readClassName_append read more
  · rw [readAsciiClass_other colon] at read
    cases read

private theorem plain_of_readClassName {sign : Bool} {found : CharSet × Bool × List Char}
    {more : List Char}
    (without : readClassName sign text = none) (read : readClassName sign (text ++ more) = some found) :
    ∀ c ∈ text, isPlain c := by
  have named : ∀ c ∈ (text ++ more).takeWhile (· ≠ ':'), isPlain c := by
    unfold readClassName at read
    split at read
    next =>
      obtain ⟨set, known, _⟩ := Option.map_eq_some_iff.mp read
      simpa using plain_of_asciiClass? known
    next => cases read
  cases left : text.dropWhile (· ≠ ':') with
  | nil =>
    have none := List.dropWhile_eq_nil_iff.mp left
    rw [List.takeWhile_append_of_pos none] at named
    exact fun c member => named c (List.mem_append_left _ member)
  | cons c after =>
    rw [takeWhile_append_of_cons left] at named
    unfold readClassName at without read
    rw [dropWhile_append_of_cons left, takeWhile_append_of_cons left] at read
    rw [left] at without
    have whole : text.takeWhile (· ≠ ':') ++ c :: after = text := by
      rw [← left, List.takeWhile_append_dropWhile]
    cases after with
    | nil =>
      split at read
      next equal =>
        have colon : isPlain ':' = true := by decide
        obtain ⟨rfl, _⟩ := List.cons.inj equal
        rw [← whole]
        exact List.forall_mem_append.mpr ⟨named, by simpa using colon⟩
      next => cases read
    | cons d after =>
      split at read
      next equal =>
        cases equal
        simp only at without
        rw [Option.map_eq_none_iff.mp without] at read
        cases read
      next => cases read

private theorem plain_of_readAsciiClass {found : CharSet × Bool × List Char} {more : List Char}
    (without : readAsciiClass text = none) (read : readAsciiClass (text ++ more) = some found) :
    ∀ c ∈ text, isPlain c := by
  have colonPlain : isPlain ':' = true := by decide
  have signPlain : isPlain '^' = true := by decide
  cases text with
  | nil => simp
  | cons c text =>
    by_cases colon : c = ':'
    · subst colon
      rw [List.cons_append] at read
      cases text with
      | nil => simp [colonPlain]
      | cons d text =>
        by_cases sign : d = '^'
        · subst sign
          have inner : ∀ c ∈ text, isPlain c := plain_of_readClassName without read
          exact List.forall_mem_cons.mpr ⟨colonPlain, List.forall_mem_cons.mpr ⟨signPlain, inner⟩⟩
        · have unsigned : (d :: text).head? ≠ some '^' := by simpa using sign
          rw [readAsciiClass_unsigned unsigned] at without
          rw [readAsciiClass_unsigned (by exact unsigned)] at read
          exact List.forall_mem_cons.mpr ⟨colonPlain, plain_of_readClassName without read⟩
    · rw [readAsciiClass_other (by simpa using colon)] at read
      cases read

private theorem skip_plain (plain : ∀ c ∈ text, isPlain c) : flags.skip text = text := by
  cases text with
  | nil => exact flags.skip_nil
  | cons c text =>
    have first := plain c List.mem_cons_self
    simp only [isPlain, Bool.and_eq_true, Bool.not_eq_true', decide_eq_true_eq, List.mem_cons,
      not_or] at first
    simp [Flags.skip, skipSpace, first]

private theorem readClassItem_plain {c : Char} (plain : ∀ d ∈ c :: text, isPlain d) :
    ∀ found ∈ readClassItem flags (c :: text), found.2 = text := by
  obtain ⟨first, others⟩ := List.forall_mem_cons.mp plain
  have atom : readClassAtom flags (c :: text) = some (.char c false, text) := by
    unfold readClassAtom
    split
    next impossible => cases impossible
    next equal =>
      cases equal
      exact absurd first (by decide)
    next equal =>
      cases equal
      rfl
  unfold readClassItem
  simp only [atom, bind, Option.bind_some, skip_plain others]
  cases text with
  | nil => simp
  | cons d text =>
    have noHyphen : some d ≠ some '-' := by
      rintro equal
      cases equal
      exact absurd (others '-' List.mem_cons_self) (by decide)
    rintro ⟨set, after⟩ read
    simp only [List.isEmpty_cons, Bool.false_eq_true, if_false, List.head?_cons, noHyphen, ne_eq,
      not_false_eq_true, true_or, if_true, Option.mem_def] at read
    obtain ⟨found, _, equal⟩ := Option.bind_eq_some_iff.mp read
    cases equal
    rfl

/-- A text of plain characters does not end a class. -/
theorem readClassBody_plain {fuel : Nat} {pending : Option (SetOperation × CharSet)} {set : CharSet}
    (plain : ∀ c ∈ text, isPlain c) : readClassBody flags fuel pending set text = none := by
  induction fuel generalizing pending set text with
  | zero => rfl
  | succ fuel ih =>
    rw [readClassBody, skip_plain plain]
    cases text with
    | nil => rfl
    | cons c text =>
      obtain ⟨first, others⟩ := List.forall_mem_cons.mp plain
      have differs : ∀ d, isPlain d = false → c ≠ d := by
        rintro d notPlain rfl
        rw [notPlain] at first
        cases first
      split
      next impossible => cases impossible
      next equal => exact absurd (List.cons.inj equal).1 (differs _ (by decide))
      next equal => exact absurd (List.cons.inj equal).1 (differs _ (by decide))
      next =>
        have none : readOperation (c :: text) = none := by
          unfold readOperation
          split
          next equal => exact absurd (List.cons.inj equal).1 (differs _ (by decide))
          next equal => exact absurd (List.cons.inj equal).1 (differs _ (by decide))
          next equal => exact absurd (List.cons.inj equal).1 (differs _ (by decide))
          next => rfl
        simp only [none]
        split
        next item after found =>
          obtain rfl : after = text := readClassItem_plain plain _ found
          exact ih others
        next => rfl

private theorem readUnsigned_plain {sign : Bool} (plain : ∀ c ∈ text, isPlain c) :
    ∀ found ∈ readUnsigned flags sign text, found.2.2 = text := by
  cases text with
  | nil => simp [readUnsigned, readHyphens]
  | cons c text =>
    have first := plain c List.mem_cons_self
    have kept : readHyphens flags CharSet.empty (c :: text).length (c :: text) =
        (CharSet.empty, c :: text) := by
      rw [List.length_cons]
      unfold readHyphens
      split
      next equal =>
        cases equal
        exact absurd first (by decide)
      next => rfl
    unfold readUnsigned
    simp only [kept]
    split
    next impossible => cases impossible
    next equal =>
      cases equal
      exact absurd first (by decide)
    next => simp

private theorem readClassStart_plain (plain : ∀ c ∈ text, isPlain c) {negated : Bool} {set : CharSet}
    (read : readClassStart flags text = some (negated, set, rest)) : ∀ c ∈ rest, isPlain c := by
  rw [readClassStart_eq, skip_plain plain] at read
  split at read
  next text =>
    have others := (List.forall_mem_cons.mp plain).2
    rw [skip_plain others] at read
    obtain rfl : rest = text := readUnsigned_plain others _ read
    exact others
  next =>
    obtain rfl : rest = text := readUnsigned_plain plain _ read
    exact plain

/-- A bracket that is read as a nested class is not the start of a class name, whatever
more text follows. -/
theorem readAsciiClass_append_none {fuel : Nat} {negated : Bool} {start : CharSet} {inner : List Char}
    {found : CharSet × List Char} (without : readAsciiClass text = none)
    (started : readClassStart flags text = some (negated, start, inner))
    (body : readClassBody flags fuel none start inner = some found) (more : List Char) :
    readAsciiClass (text ++ more) = none := by
  by_contra appears
  obtain ⟨named, appears⟩ := Option.ne_none_iff_exists'.mp appears
  have plain := readClassStart_plain (plain_of_readAsciiClass without appears) started
  rw [readClassBody_plain plain] at body
  cases body

private theorem readClassBody_append {fuel enough : Nat} {pending : Option (SetOperation × CharSet)}
    {set found : CharSet} (read : readClassBody flags fuel pending set text = some (found, rest))
    (more : List Char) (fits : fuel ≤ enough) :
    readClassBody flags enough pending set (text ++ more) = some (found, rest ++ more) := by
  induction fuel generalizing enough pending set text found rest with
  | zero => cases read
  | succ fuel ih =>
    obtain ⟨enough, rfl⟩ : ∃ larger, enough = larger + 1 := ⟨enough - 1, by omega⟩
    have fits := Nat.le_of_succ_le_succ fits
    rw [readClassBody] at read ⊢
    cases skipped : flags.skip text with
    | nil =>
      rw [skipped] at read
      cases read
    | cons c text =>
      rw [skipped] at read
      rw [Flags.skip_append skipped]
      split at read
      next impossible => cases impossible
      next bracket equal =>
        cases equal
        cases read
        rfl
      next inner equal =>
        cases equal
        simp only
        cases named : readAsciiClass text with
        | some found =>
          obtain ⟨set, negated, after⟩ := found
          rw [named] at read
          rw [readAsciiClass_append named]
          simp only at read ⊢
          split at read
          next => simp only [ih read fits]
          next => cases read
        | none =>
          rw [named] at read
          simp only at read
          split at read
          next => cases read
          next negated start left started =>
            split at read
            next => cases read
            next nested after body =>
              cases left with
              | nil =>
                rw [readClassBody_plain (by simp)] at body
                cases body
              | cons d left =>
                have still := readAsciiClass_append_none named started body more
                have inside := ih body fits
                rw [List.cons_append] at inside
                simp only [still, readClassStart_append started, inside]
                split at read
                next => simp only [ih read fits]
                next => cases read
      next notEmpty notEnd notOpen =>
        split
        next impossible => cases impossible
        next equal =>
          cases equal
          exact absurd rfl (notEnd _)
        next equal =>
          cases equal
          exact absurd rfl (notOpen _)
        next =>
          cases operated : readOperation (c :: text) with
          | some found =>
            obtain ⟨operation, after⟩ := found
            rw [operated] at read
            rw [← List.cons_append, readOperation_append operated]
            exact ih read fits
          | none =>
            rw [operated] at read
            simp only at read
            split at read
            next item after found =>
              cases after with
              | nil =>
                rw [readClassBody_plain (by simp)] at read
                cases read
              | cons e after =>
                have still := readOperation_append_none operated found more
                rw [← List.cons_append, still, readClassItem_append found]
                exact ih read fits
            next => cases read

theorem readClass_append {set : CharSet} (read : readClass flags text = some (set, rest))
    (more : List Char) : readClass flags (text ++ more) = some (set, rest ++ more) := by
  unfold readClass at read ⊢
  split at read
  next => cases read
  next negated start inner started =>
    split at read
    next => cases read
    next found after body =>
      cases inner with
      | nil =>
        rw [readClassBody_plain (by simp)] at body
        cases body
      | cons c inner =>
        have fits : (c :: inner).length + 1 ≤ (c :: (inner ++ more)).length + 1 := by simp
        have longer := readClassBody_append body more fits
        rw [List.cons_append] at longer
        obtain ⟨closed, built, equal⟩ := Option.map_eq_some_iff.mp read
        cases equal
        simp only [readClassStart_append started, longer, built, Option.map_some]

end PathRouting.Regex
