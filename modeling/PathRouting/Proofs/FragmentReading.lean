import PathRouting.Proofs.ContainedPatterns
import PathRouting.Proofs.RegexLanguage

/-! Reading routes whose patterns open no groups. Such a pattern is read to one expression,
wherever it stands, so the expression of a route is known in full: the characters of the
literal texts and, for every parameter, a group around the expression of its pattern. -/

namespace PathRouting

namespace Text

private theorem toNat_lt_of_isLetter {c : Char} (letter : isLetter c = true) : c.toNat < 128 := by
  simp only [isLetter, Bool.or_eq_true, Bool.and_eq_true, decide_eq_true_eq] at letter
  have small : 'z'.toNat < 128 := by decide
  have large : 'Z'.toNat < 128 := by decide
  rcases letter with ⟨_, below⟩ | ⟨_, below⟩
  · exact Nat.lt_of_le_of_lt (UInt32.le_iff_toNat_le.mp below) small
  · exact Nat.lt_of_le_of_lt (UInt32.le_iff_toNat_le.mp below) large

private theorem toNat_lt_of_isDigit {c : Char} (digit : isDigit c = true) : c.toNat < 128 := by
  simp only [isDigit, Bool.and_eq_true, decide_eq_true_eq] at digit
  have small : '9'.toNat < 128 := by decide
  exact Nat.lt_of_le_of_lt (UInt32.le_iff_toNat_le.mp digit.2) small

end Text

namespace Token

def IsIdentifier (name : String) : Prop :=
  ∃ first later, name.toList = first :: later ∧ (Text.isLetter first = true ∨ first = '_') ∧
    ∀ c ∈ later, Text.isLetter c = true ∨ Text.isDigit c = true ∨ c = '_'

end Token

namespace Regex

variable {state after : ReadState} {level final : Level} {text rest : List Char} {next : Char}

/-! ### Patterns without groups -/

/-- Reads up to the parenthesis that closes what is being read, and refuses one that opens
a group: what has been read, and the text after it. -/
def Level.inside? : Nat → Level → List Char → Option (Level × List Char)
  | 0, _, _ => none
  | fuel + 1, level, text =>
    match level.flags.skip text with
    | [] => none
    | c :: rest =>
      if c = ')' then some (level, rest)
      else if c = '(' then none
      else
        match readStep { level } (c :: rest) with
        | none => none
        | some (after, rest) => inside? fuel after.level rest

def fragment? (pattern : String) : Option Expr :=
  match ({} : Level).inside? (pattern.length + 1) (pattern.toList ++ [')']) with
  | some (level, []) => some level.toExpr
  | _ => none

theorem Move.lift {move : Move} (stays : move.Stays) (applied : move.run? { level } = some after)
    (state : ReadState) :
    move.run? { state with level } = some { state with level := after.level } := by
  cases move with
  | capture name => exact stays.elim
  | plain flags => exact stays.elim
  | close => cases applied
  | again least most isLazy =>
    obtain ⟨repeated, found, rfl⟩ := Option.map_eq_some_iff.mp applied
    exact Option.map_eq_some_iff.mpr ⟨repeated, found, rfl⟩
  | _ =>
    cases applied
    rfl

/-- A step that opens no group is taken in the same way wherever the text stands. -/
theorem readStep_lift {c : Char} (read : readStep { level } (c :: text) = some (after, next :: rest))
    (opens : c ≠ '(') (state : ReadState) (more : List Char) :
    readStep { state with level } (c :: (text ++ more)) =
      some ({ state with level := after.level }, next :: (rest ++ more)) := by
  have longer := readStep_append read more
  obtain ⟨move, kind, moves⟩ := readStep_move longer
  have stays : move.Stays := kind.resolve_left fun opening => opens (Option.some.inj opening)
  obtain ⟨_, applied, equal⟩ :=
    Option.map_eq_some_iff.mp ((moves { level } rfl).symm.trans longer)
  cases equal
  rw [← List.cons_append, moves { state with level } rfl, move.lift stays applied, Option.map_some]

/-! ### Progress of the reader -/

/-- The reader gets from one state and text to others, in at most as many steps as there are
characters between them. -/
def Advances (state : ReadState) (text : List Char) (after : ReadState) (rest : List Char) : Prop :=
  ∃ steps, steps + rest.length ≤ text.length ∧
    ∀ fuel, readAll (steps + fuel) state text = readAll fuel after rest

namespace Advances

private theorem refl (state : ReadState) (text : List Char) : Advances state text state text :=
  ⟨0, by omega, fun fuel => by rw [Nat.zero_add]⟩

private theorem trans {middle : ReadState} {between : List Char}
    (first : Advances state text middle between)
    (second : Advances middle between after rest) : Advances state text after rest := by
  obtain ⟨one, short, reads⟩ := first
  obtain ⟨two, shorter, readsOn⟩ := second
  exact ⟨one + two, by omega, fun fuel => by rw [Nat.add_assoc, reads, readsOn]⟩

end Advances

private theorem readAll_succ (state : ReadState) {c : Char}
    (skipped : state.level.flags.skip text = c :: rest)
    {left : List Char} (read : readStep state (c :: rest) = some (after, left)) (fuel : Nat) :
    readAll (1 + fuel) state text = readAll fuel after left := by
  rw [Nat.add_comm, readAll, skipped]
  simp only [read]

theorem Advances.step {c : Char} (plain : state.level.flags = {})
    (read : readStep state (c :: text) = some (after, rest)) (shorter : rest.length ≤ text.length) :
    Advances state (c :: text) after rest := by
  refine ⟨1, by rw [List.length_cons]; omega, readAll_succ state ?_ read⟩
  rw [plain]
  rfl

/-- Where a pattern without groups stands in a text, it is read as it is alone. -/
theorem readAll_inside {fuel : Nat} (inside : level.inside? fuel text = some (final, rest))
    (state : ReadState) (more : List Char)
    (closed : { state with level := final }.closeGroup = some after) :
    ∃ steps ≤ fuel, ∀ fuel_, readAll (steps + fuel_) { state with level } (text ++ more) =
      readAll fuel_ after (rest ++ more) := by
  induction fuel generalizing level text with
  | zero => cases inside
  | succ fuel ih =>
    rw [Level.inside?] at inside
    cases skipped : level.flags.skip text with
    | nil =>
      rw [skipped] at inside
      cases inside
    | cons c behind =>
      have shown := Flags.skip_append skipped more
      rw [skipped] at inside
      simp only at inside
      split at inside
      next ends =>
        subst ends
        cases inside
        refine ⟨1, by omega, readAll_succ { state with level := final } shown ?_⟩
        simp only [readStep, closed, Option.map_some]
      next =>
        split at inside
        next => cases inside
        next opens =>
          split at inside
          next => cases inside
          next between left read =>
            cases left with
            | nil =>
              cases fuel with
              | zero => cases inside
              | succ fuel => simp [Level.inside?, Flags.skip_nil] at inside
            | cons next left =>
              obtain ⟨steps, few, reads⟩ := ih inside
              refine ⟨1 + steps, by omega, fun fuel_ => ?_⟩
              rw [Nat.add_assoc,
                readAll_succ { state with level } shown (readStep_lift read opens state more)]
              exact reads fuel_

namespace Advances

private theorem literal (plain : state.level.flags = {}) (written rest : List Char) :
    Advances state (escapeChars written ++ rest)
      { state with level := state.level.append (written.map fun c => .literal [c]) } rest := by
  induction written generalizing state with
  | nil => exact refl state rest
  | cons c written ih =>
    have still : (state.push (.literal [c])).level.flags = {} := plain
    have pushed := ih still
    have level : (state.push (.literal [c])).level.append (written.map fun c => .literal [c]) =
        state.level.append ((c :: written).map fun c => .literal [c]) :=
      Level.append_append state.level [.literal [c]] _
    rw [level] at pushed
    rw [escapeChars, List.flatMap_cons, List.append_assoc]
    refine trans ?_ pushed
    split
    next quoted =>
      exact step plain (readStep_quoted quoted plain _) (by simp [escapeChars])
    next other =>
      exact step plain (readStep_char (by simpa using other) plain _) (by simp [escapeChars])

end Advances

private theorem isGroupNameChar_of_letter {c : Char} (letter : Text.isLetter c = true) (first : Bool) :
    isGroupNameChar first c = true := by
  have ascii := Text.toNat_lt_of_isLetter letter
  cases first <;> simp [isGroupNameChar, Unicode.isAlphabetic, Unicode.isAlphanumeric, ascii, letter]

private theorem isGroupNameChar_of_digit {c : Char} (digit : Text.isDigit c = true) :
    isGroupNameChar false c = true := by
  simp [isGroupNameChar, Unicode.isAlphanumeric, Text.toNat_lt_of_isDigit digit, digit]

private theorem readGroupName_identifier {name : String} (valid : Token.IsIdentifier name)
    (rest : List Char) :
    readGroupName (name.toList ++ '>' :: rest) = some (name, rest) := by
  obtain ⟨first, later, written, starts, goes⟩ := valid
  have firstFits : isGroupNameChar true first = true := by
    rcases starts with letter | rfl
    · exact isGroupNameChar_of_letter letter true
    · rfl
  have laterFits : ∀ c ∈ later, isGroupNameChar false c = true := by
    intro c member
    rcases goes c member with letter | digit | rfl
    · exact isGroupNameChar_of_letter letter false
    · exact isGroupNameChar_of_digit digit
    · rfl
  have other : ∀ c ∈ name.toList, decide (c ≠ '>') = true := by
    rw [written]
    intro c member
    refine decide_eq_true ?_
    rintro rfl
    rcases List.mem_cons.mp member with rfl | inside
    · exact absurd starts (by decide)
    · exact absurd (goes _ inside) (by decide)
  unfold readGroupName
  rw [List.takeWhile_append_of_pos other, List.dropWhile_append_of_pos other]
  simp only [List.takeWhile_cons, List.dropWhile_cons, ne_eq, not_true_eq_false, decide_false,
    Bool.false_eq_true, if_false, List.append_nil]
  rw [written]
  simp only [firstFits, Bool.true_and, List.all_eq_true.mpr laterFits, if_true]
  rw [← written, String.ofList_toList]

def ReadState.within (state : ReadState) (name : String) : ReadState where
  outer := (state.level, .capture state.nextIndex (some name)) :: state.outer
  names := name :: state.names
  nextIndex := state.nextIndex + 1

def ReadState.pushGroup (state : ReadState) (name : String) (body : Expr) : ReadState where
  level := state.level.append [.group state.nextIndex (some name) body]
  outer := state.outer
  names := name :: state.names
  nextIndex := state.nextIndex + 1

namespace Advances

private theorem parameter {name pattern : String} {body : Expr} (valid : Token.IsIdentifier name)
    (fragment : fragment? pattern = some body) (plain : state.level.flags = {})
    (free : name ∉ state.names) (rest : List Char) :
    Advances state ((Matcher.tokenSource (.parameter name pattern)).toList ++ rest)
      (state.pushGroup name body) rest := by
  have written : (Matcher.tokenSource (.parameter name pattern)).toList ++ rest =
      '(' :: '?' :: 'P' :: '<' :: (name.toList ++ '>' :: (pattern.toList ++ [')'] ++ rest)) := by
    simp [Matcher.tokenSource]
  have opened : readStep state ('(' :: '?' :: 'P' :: '<' :: (name.toList ++ '>' ::
      (pattern.toList ++ [')'] ++ rest))) =
        some (state.within name, pattern.toList ++ [')'] ++ rest) := by
    show readGroupStart state _ = _
    rw [readGroupStart, plain]
    show Option.bind (readGroupName _) _ = _
    rw [readGroupName_identifier valid]
    simp [ReadState.openCapture, free, ReadState.openGroup, ReadState.within, plain]
  rw [fragment?] at fragment
  split at fragment
  next final inside =>
    cases fragment
    obtain ⟨steps, few, reads⟩ := readAll_inside inside (state.within name) rest rfl
    rw [written]
    refine trans (step plain opened (by simp; omega)) ⟨steps, ?_, reads⟩
    simp only [List.length_append, String.length_toList, List.length_singleton]
    omega
  next => cases fragment

end Advances

end Regex

open Regex

namespace Token

/-- The parts that tokens are read as, if their patterns open no groups. -/
inductive Laid : List Token → List Expr → Prop where
  | nil : Laid [] []
  | literal (text : String) {tokens : List Token} {parts : List Expr} (later : Laid tokens parts) :
      Laid (.literal text :: tokens) (text.toList.map (fun c => .literal [c]) ++ parts)
  | parameter (name : String) (index : Nat) {pattern : String} {body : Expr} {tokens : List Token}
      {parts : List Expr} (fragment : fragment? pattern = some body) (later : Laid tokens parts) :
      Laid (.parameter name pattern :: tokens) (.group index (some name) body :: parts)

/-- A token that is read as it stands: a literal, or a parameter with a proper name whose
pattern opens no group. -/
def Readable : Token → Prop
  | literal _ => True
  | parameter name pattern => IsIdentifier name ∧ ∃ body, fragment? pattern = some body

end Token

namespace Regex

/-- The text of a route is read token by token. -/
theorem Advances.tokens {tokens : List Token} (readable : ∀ token ∈ tokens, token.Readable)
    (distinct : (tokens.filterMap Token.name?).Nodup) :
    ∀ (state : ReadState), (∀ name ∈ tokens.filterMap Token.name?, name ∉ state.names) →
    state.level.flags = {} → ∀ rest : List Char,
    ∃ parts after, Token.Laid tokens parts ∧ after.level = state.level.append parts ∧
      after.outer = state.outer ∧ Advances state
        (tokens.flatMap (fun token => (Matcher.tokenSource token).toList) ++ rest) after rest := by
  induction tokens with
  | nil => exact fun state _ _ rest => ⟨[], state, .nil, rfl, rfl, refl state rest⟩
  | cons token tokens ih =>
    intro state free plain rest
    obtain ⟨here, others⟩ := List.forall_mem_cons.mp readable
    cases token with
    | literal text =>
      have first := Advances.literal plain text.toList
        (tokens.flatMap (fun token => (Matcher.tokenSource token).toList) ++ rest)
      obtain ⟨parts, after, laid, level, outer, later⟩ := ih others distinct
        { state with level := state.level.append _ } free plain rest
      refine ⟨_, after, .literal text laid, level.trans (Level.append_append _ _ _), outer, ?_⟩
      rw [List.flatMap_cons, List.append_assoc, Matcher.tokenSource, escape, String.toList_ofList]
      exact first.trans later
    | parameter name pattern =>
      obtain ⟨valid, body, fragment⟩ := here
      have names : (Token.parameter name pattern :: tokens).filterMap Token.name? =
          name :: tokens.filterMap Token.name? := rfl
      rw [names] at distinct free
      obtain ⟨new, distinct⟩ := List.nodup_cons.mp distinct
      obtain ⟨unused, free⟩ := List.forall_mem_cons.mp free
      have first := Advances.parameter valid fragment plain unused
        (tokens.flatMap (fun token => (Matcher.tokenSource token).toList) ++ rest)
      have still : ∀ other ∈ tokens.filterMap Token.name?, other ∉ name :: state.names := by
        intro other member inside
        rcases List.mem_cons.mp inside with rfl | old
        · exact new member
        · exact free other member old
      obtain ⟨parts, after, laid, level, outer, later⟩ := ih others distinct
        (state.pushGroup name body) still plain rest
      refine ⟨_, after, .parameter name state.nextIndex fragment laid,
        level.trans (Level.append_append _ _ _), outer, ?_⟩
      rw [List.flatMap_cons, List.append_assoc]
      exact first.trans later

private theorem read?_route {tokens : List Token} (readable : ∀ token ∈ tokens, token.Readable)
    (distinct : (tokens.filterMap Token.name?).Nodup) :
    ∃ parts, Token.Laid tokens parts ∧
      Expr.read? (Matcher.sourceOf tokens).toList = some (Expr.anchored parts) := by
  have written : (Matcher.sourceOf tokens).toList =
      '^' :: (tokens.flatMap (fun token => (Matcher.tokenSource token).toList) ++ ['$']) := by
    simp [Matcher.sourceOf, List.flatMap_map]
  have begins : Advances {} (Matcher.sourceOf tokens).toList (({} : ReadState).push (.look .textStart))
      (tokens.flatMap (fun token => (Matcher.tokenSource token).toList) ++ ['$']) := by
    rw [written]
    exact .step rfl rfl (Nat.le_refl _)
  obtain ⟨parts, after, laid, level, outer, middle⟩ := Advances.tokens readable distinct
    (({} : ReadState).push (.look .textStart)) (by simp [ReadState.push]) rfl ['$']
  have plain : after.level.flags = {} := by
    rw [level]
    rfl
  have ends : Advances after ['$'] (after.push (.look .textEnd)) [] := by
    refine .step plain ?_ (Nat.le_refl _)
    rw [readStep, plain]
    rfl
  have row : (after.push (.look .textEnd)).level =
      ({} : Level).append ([.look .textStart] ++ parts ++ [.look .textEnd]) := by
    rw [← Level.append_append, ← Level.append_append, ReadState.push, level]
    rfl
  obtain ⟨steps, few, reads⟩ := (begins.trans middle).trans ends
  refine ⟨parts, laid, ?_⟩
  obtain ⟨spare, enough⟩ : ∃ spare, (Matcher.sourceOf tokens).toList.length + 1 = steps + (spare + 1) :=
    ⟨(Matcher.sourceOf tokens).toList.length - steps, by rw [List.length_nil] at few; omega⟩
  have closed : (after.push (.look .textEnd)).outer.isEmpty = true := by
    rw [ReadState.push, outer]
    rfl
  rw [Expr.read?, enough, reads, readAll, Flags.skip_nil]
  simp only [closed, if_true]
  rw [row]
  exact congrArg some (Level.toExpr_row _ _)

end Regex

theorem Matcher.firstRepeated?_of_nodup {names : List String} (distinct : names.Nodup) :
    ∀ (seen : List String), (∀ name ∈ names, name ∉ seen) → firstRepeated? seen names = none := by
  induction names with
  | nil => exact fun _ _ => rfl
  | cons name names ih =>
    intro seen free
    obtain ⟨new, distinct⟩ := List.nodup_cons.mp distinct
    obtain ⟨unused, others⟩ := List.forall_mem_cons.mp free
    rw [firstRepeated?, if_neg unused]
    refine ih distinct _ fun other member inside => ?_
    rcases List.mem_cons.mp inside with rfl | old
    · exact new member
    · exact others other member old

/-- Readable tokens with distinct names have a matcher, whose expression is the row of their
parts between the anchors. -/
theorem Matcher.exists_ofTokens {tokens : List Token} (readable : ∀ token ∈ tokens, token.Readable)
    (distinct : (tokens.filterMap Token.name?).Nodup) :
    ∃ matcher parts, ofTokens tokens = .ok matcher ∧ Token.Laid tokens parts ∧
      matcher.regex.expr = .anchored parts := by
  obtain ⟨parts, laid, read⟩ := read?_route readable distinct
  have none := firstRepeated?_of_nodup distinct [] (by simp)
  let regex : Regex := ⟨sourceOf tokens, .anchored parts, (Expr.anchored parts).program, rfl⟩
  refine ⟨⟨regex, tokens.filterMap Token.name?⟩, parts, ?_, laid, rfl⟩
  simp only [ofTokens, none, ofSource, Regex.read?, read, Option.map_some, Except.map, regex]

end PathRouting
