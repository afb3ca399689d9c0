import PathRouting.Proofs.ClassPrefixes
import PathRouting.Proofs.RegexGroups

/-! The steps of the reader. A step reads some text under the switches in effect, and then
changes what has been read so far. The change is one of a few moves; which move it is, and
how much text it takes, depends on the switches and the text alone. -/

namespace PathRouting.Regex

variable {flags : Flags} {text rest : List Char} {next : Char}

theorem Flags.read?_append {on dangling any : Bool} {used : List Char} {found : Flags}
    {ending : FlagEnd} (read : flags.read? on dangling used text = some (found, any, ending, rest))
    (more : List Char) :
    flags.read? on dangling used (text ++ more) = some (found, any, ending, rest ++ more) := by
  fun_induction Flags.read? flags on dangling used text with
  | case1 => cases read
  | case2 => cases read
  | case3 flags on dangling used text complete =>
    cases read
    simp [Flags.read?, complete]
  | case4 => cases read
  | case5 flags on dangling used text complete =>
    cases read
    simp [Flags.read?, complete]
  | case6 => cases read
  | case7 flags on dangling used text first ih =>
    rw [List.cons_append, Flags.read?, if_neg first, ih read]
  | case8 => cases read
  | case9 flags on dangling used letter text noEnd noColon noMinus first after set ih =>
    rw [List.cons_append, Flags.read?, if_neg first, set]
    · exact ih read
    · exact noEnd
    · exact noColon
    · exact noMinus
  | case10 => cases read

private theorem readGroupName_append {name : String} (read : readGroupName text = some (name, rest))
    (more : List Char) : readGroupName (text ++ more) = some (name, rest ++ more) := by
  unfold readGroupName at read ⊢
  simp only at read ⊢
  split at read
  next after left =>
    rw [dropWhile_append_of_cons left, takeWhile_append_of_cons left]
    simp only
    split at read
    next => cases read
    next first others name =>
      split at read
      next valid =>
        cases read
        rw [if_pos valid]
      next => cases read
  next => cases read

private theorem readDigits_append {fuel enough : Nat} {digits : List Char}
    (read : readDigits flags fuel text = (digits, next :: rest)) {more : List Char}
    (fits : text.length ≤ fuel) (enoughFits : (text ++ more).length ≤ enough) :
    readDigits flags enough (text ++ more) = (digits, next :: (rest ++ more)) := by
  induction fuel generalizing enough text digits with
  | zero =>
    obtain rfl := List.length_eq_zero_iff.mp (Nat.le_zero.mp fits)
    cases read
  | succ fuel ih =>
    cases text with
    | nil => cases read
    | cons c text =>
      simp only [List.cons_append, List.length_cons, List.length_append] at fits enoughFits
      obtain ⟨enough, rfl⟩ : ∃ larger, enough = larger + 1 := ⟨enough - 1, by omega⟩
      rw [List.cons_append, readDigits]
      rw [readDigits] at read
      split at read
      next digit =>
        obtain ⟨rfl, left⟩ := Prod.mk.inj read
        have shorter := flags.length_skip_le text
        cases skipped : flags.skip text with
        | nil =>
          rw [skipped] at left
          cases fuel <;> cases left
        | cons d after =>
          rw [skipped] at left shorter
          rw [List.length_cons] at shorter
          have bound : (d :: after).length ≤ fuel := by
            rw [List.length_cons]
            omega
          have enoughBound : (d :: after ++ more).length ≤ enough := by
            rw [List.length_append, List.length_cons]
            omega
          have later := ih (Prod.ext rfl left) bound enoughBound
          rw [if_pos digit, Flags.skip_append skipped, ← List.cons_append, later]
      next other =>
        cases read
        rw [if_neg other]

private theorem readCount_append {value : Option Nat}
    (read : readCount flags text = (value, next :: rest))
    (more : List Char) : readCount flags (text ++ more) = (value, next :: (rest ++ more)) := by
  unfold readCount at read ⊢
  have shorter := (List.dropWhile_sublist Text.isWhiteSpace (l := text)).length_le
  cases counted : readDigits flags text.length (text.dropWhile Text.isWhiteSpace) with
  | mk digits after =>
    rw [counted] at read
    obtain ⟨rfl, left⟩ := Prod.mk.inj read
    cases after with
    | nil => simp [Flags.skip_nil] at left
    | cons c after =>
      cases shown : (c :: after).dropWhile Text.isWhiteSpace with
      | nil => simp [shown, Flags.skip_nil] at left
      | cons d visible =>
        simp only [shown] at left
        cases start : text.dropWhile Text.isWhiteSpace with
        | nil =>
          rw [start] at counted
          cases text <;> cases counted
        | cons e inner =>
          rw [start] at counted shorter
          have enough : (e :: inner ++ more).length ≤ (text ++ more).length := by
            rw [List.length_append, List.length_append]
            omega
          have longer := readDigits_append counted shorter enough
          rw [List.cons_append] at longer
          have shownMore := dropWhile_append_of_cons shown more
          rw [List.cons_append] at shownMore
          have leftMore := Flags.skip_append left more
          rw [List.cons_append] at leftMore
          simp only [dropWhile_append_of_cons start, longer, shownMore, leftMore]

private theorem readBraces_append {least : Nat} {most : Option Nat}
    (read : readBraces flags text = some (least, most, rest)) (more : List Char) :
    readBraces flags (text ++ more) = some (least, most, rest ++ more) := by
  unfold readBraces at read ⊢
  cases skipped : flags.skip text with
  | nil => simp [skipped, readCount, readDigits] at read
  | cons c text =>
    cases counted : readCount flags (c :: text) with
    | mk value after =>
      simp only [skipped, counted] at read
      obtain ⟨least, rfl, later⟩ := Option.bind_eq_some_iff.mp read
      cases after with
      | nil => cases later
      | cons d after =>
        have longer := readCount_append counted more
        rw [List.cons_append] at longer
        simp only [Flags.skip_append skipped, longer, bind, Option.bind_some]
        split at later
        next equal =>
          cases equal
          cases later
          rfl
        next inner equal =>
          cases equal
          simp only
          cases second : flags.skip after with
          | nil => simp [second, readCount, readDigits] at later
          | cons e after =>
            rw [second] at later
            rw [Flags.skip_append second]
            split at later
            next equal =>
              cases equal
              cases later
              rfl
            next open_ =>
              split
              next equal =>
                cases equal
                exact absurd rfl (open_ _)
              next =>
                cases countedMost : readCount flags (e :: after) with
                | mk value behind =>
                  simp only [countedMost] at later
                  obtain ⟨most, rfl, later⟩ := Option.bind_eq_some_iff.mp later
                  cases behind with
                  | nil => cases later
                  | cons f behind =>
                    have longerMost := readCount_append countedMost more
                    rw [List.cons_append] at longerMost
                    simp only [longerMost, Option.bind_some]
                    split at later
                    next equal =>
                      cases equal
                      simp only [bind, Option.bind_some, pure] at later ⊢
                      split at later
                      next ordered =>
                        cases later
                        rw [if_pos ordered]
                      next => cases later
                    next => cases later
        next => cases later

private theorem readLazy_append {isLazy : Bool} (read : readLazy text = (isLazy, next :: rest))
    (more : List Char) : readLazy (text ++ more) = (isLazy, next :: (rest ++ more)) := by
  unfold readLazy at read ⊢
  split at read
  next =>
    cases read
    rfl
  next other =>
    cases read
    split
    next equal =>
      cases equal
      exact absurd rfl (other _)
    next => rfl

/-! ### Moves -/

/-- What a step does to what has been read so far. -/
inductive Move where
  /-- Opens a group that records what it matches. -/
  | capture (name : Option String)
  /-- Opens a group that only has switches of its own. -/
  | plain (flags : Flags)
  /-- Turns switches for the rest of the group. -/
  | switch (flags : Flags)
  | close
  /-- Begins a further branch of the group. -/
  | branch
  | push (expr : Expr) (without : expr.groups = [])
  /-- Repeats the last part. -/
  | again (least : Nat) (most : Option Nat) (isLazy : Bool)

def Move.run? (state : ReadState) : Move → Option ReadState
  | capture name => state.openCapture name
  | plain flags => some (state.openGroup .plain flags)
  | switch flags => some { state with level := { state.level with flags := flags }.push .switches }
  | close => state.closeGroup
  | branch => some { state with level := state.level.finishBranch }
  | push expr _ => some (state.push expr)
  | again least most isLazy =>
    (state.level.repeatLast least most isLazy).map fun level => { state with level }

def Move.Stays : Move → Prop
  | capture _ | plain _ => False
  | _ => True

variable {state after : ReadState}

private theorem readGroupStart_move (read : readGroupStart state text = some (after, rest)) :
    ∃ move : Move, ∀ other : ReadState, other.level.flags = state.level.flags →
      readGroupStart other text = (move.run? other).map fun after => (after, rest) := by
  unfold readGroupStart at read
  split at read
  next behind shown =>
    obtain ⟨⟨name, left⟩, named, later⟩ := Option.bind_eq_some_iff.mp read
    obtain ⟨opened, _, equal⟩ := Option.bind_eq_some_iff.mp later
    cases equal
    refine ⟨.capture (some name), fun other same => ?_⟩
    rw [readGroupStart, same, shown]
    simp only [named, bind, Option.bind_some]
    exact Option.map_eq_bind.symm
  next behind shown =>
    split at read
    next => cases read
    next allowed =>
      obtain ⟨⟨name, left⟩, named, later⟩ := Option.bind_eq_some_iff.mp read
      obtain ⟨opened, _, equal⟩ := Option.bind_eq_some_iff.mp later
      cases equal
      refine ⟨.capture (some name), fun other same => ?_⟩
      rw [readGroupStart, same, shown]
      simp only [if_neg allowed, named, bind, Option.bind_some]
      exact Option.map_eq_bind.symm
  next behind noP noName shown =>
    obtain ⟨⟨flags, any, ending, left⟩, found, later⟩ := Option.bind_eq_some_iff.mp read
    cases ending with
    | closed =>
      simp only at later
      split at later
      next written =>
        cases later
        refine ⟨.switch flags, fun other same => ?_⟩
        rw [readGroupStart, same, shown]
        simp only [found, bind, Option.bind_some, if_pos written]
        rfl
      next => cases later
    | opened =>
      cases later
      refine ⟨.plain flags, fun other same => ?_⟩
      rw [readGroupStart, same, shown]
      simp only [found, bind, Option.bind_some]
      rfl
  next noFlags =>
    obtain ⟨opened, _, equal⟩ := Option.map_eq_some_iff.mp read
    cases equal
    refine ⟨.capture none, fun other same => ?_⟩
    rw [readGroupStart, same]
    simp only
    rfl

private theorem again_move {least : Nat} {most : Option Nat} {isLazy : Bool} {left : List Char}
    (read : (state.level.repeatLast least most isLazy).bind (fun level =>
      some ({ state with level }, left)) = some (after, rest)) (other : ReadState) :
    ((other.level.repeatLast least most isLazy).bind fun level => some ({ other with level }, left)) =
      (Move.run? other (.again least most isLazy)).map fun after => (after, rest) := by
  obtain ⟨level, _, equal⟩ := Option.bind_eq_some_iff.mp read
  cases equal
  rw [Move.run?, Option.map_map, Option.map_eq_bind]
  rfl

/-- What a step does and how much text it takes depends on the switches and the text only.
Groups are opened by a parenthesis. -/
theorem readStep_move (read : readStep state text = some (after, rest)) :
    ∃ move : Move, (text.head? = some '(' ∨ move.Stays) ∧
      ∀ other : ReadState, other.level.flags = state.level.flags →
        readStep other text = (move.run? other).map fun after => (after, rest) := by
  unfold readStep at read
  split at read
  · cases read
  next c text =>
    simp only at read
    split at read
    · obtain ⟨move, moves⟩ := readGroupStart_move read
      exact ⟨move, .inl rfl, moves⟩
    · obtain ⟨closed, _, equal⟩ := Option.map_eq_some_iff.mp read
      cases equal
      exact ⟨.close, .inr trivial, fun _ _ => rfl⟩
    · cases read
      exact ⟨.branch, .inr trivial, fun _ _ => rfl⟩
    · obtain ⟨⟨set, behind⟩, found, equal⟩ := Option.bind_eq_some_iff.mp read
      cases equal
      refine ⟨.push (Expr.ofSet set) (Expr.groups_ofSet set), .inr trivial, fun other same => ?_⟩
      simp only [readStep, same, found, bind, Option.bind_some]
      rfl
    · exact ⟨.again 0 (some 1) (readLazy text).1, .inr trivial, fun other _ => again_move read other⟩
    · exact ⟨.again 0 none (readLazy text).1, .inr trivial, fun other _ => again_move read other⟩
    · exact ⟨.again 1 none (readLazy text).1, .inr trivial, fun other _ => again_move read other⟩
    · obtain ⟨⟨least, most, behind⟩, found, later⟩ := Option.bind_eq_some_iff.mp read
      refine ⟨.again least most (readLazy (state.level.flags.skip behind)).1, .inr trivial,
        fun other same => ?_⟩
      simp only [readStep, same, found, bind, Option.bind_some]
      exact again_move later other
    · obtain ⟨⟨atom, behind⟩, found, later⟩ := Option.bind_eq_some_iff.mp read
      obtain ⟨expr, built, equal⟩ := Option.bind_eq_some_iff.mp later
      cases equal
      refine ⟨.push expr (Atom.groups_expr? built), .inr trivial, fun other same => ?_⟩
      simp only [readStep, same, found, built, bind, Option.bind_some]
      rfl
    · obtain ⟨set, found, equal⟩ := Option.map_eq_some_iff.mp read
      cases equal
      refine ⟨.push (Expr.ofSet set) (Expr.groups_ofSet set), .inr trivial, fun other same => ?_⟩
      simp only [readStep, same, found]
      rfl
    · cases read
      refine ⟨.push (.look (if state.level.flags.multiLine then .lineStart state.level.flags.crlf
        else .textStart)) rfl, .inr trivial, fun other same => ?_⟩
      simp only [readStep, same]
      rfl
    · cases read
      refine ⟨.push (.look (if state.level.flags.multiLine then .lineEnd state.level.flags.crlf
        else .textEnd)) rfl, .inr trivial, fun other same => ?_⟩
      simp only [readStep, same]
      rfl
    · obtain ⟨expr, found, equal⟩ := Option.map_eq_some_iff.mp read
      cases equal
      refine ⟨.push expr (groups_charExpr? found), .inr trivial, fun other same => ?_⟩
      simp only [readStep, same, found]
      rfl

/-! ### Longer texts -/

private theorem readGroupStart_append (read : readGroupStart state text = some (after, next :: rest))
    (more : List Char) :
    readGroupStart state (text ++ more) = some (after, next :: (rest ++ more)) := by
  unfold readGroupStart at read ⊢
  cases skipped : state.level.flags.skip text with
  | nil =>
    rw [skipped] at read
    obtain ⟨opened, _, equal⟩ := Option.map_eq_some_iff.mp read
    cases equal
  | cons c text =>
    rw [skipped] at read
    rw [Flags.skip_append skipped]
    split at read
    next text equal =>
      cases equal
      obtain ⟨⟨name, behind⟩, named, later⟩ := Option.bind_eq_some_iff.mp read
      obtain ⟨opened, captured, equal⟩ := Option.bind_eq_some_iff.mp later
      cases equal
      simp only [List.cons_append, readGroupName_append named, bind, Option.bind_some, captured]
      rfl
    next text equal =>
      cases equal
      split at read
      next => cases read
      next allowed =>
        obtain ⟨⟨name, behind⟩, named, later⟩ := Option.bind_eq_some_iff.mp read
        obtain ⟨opened, captured, equal⟩ := Option.bind_eq_some_iff.mp later
        cases equal
        cases text with
        | nil => cases named
        | cons d text =>
          simp only [List.cons_append, List.head?_cons] at allowed ⊢
          have longer := readGroupName_append named more
          rw [List.cons_append] at longer
          simp only [if_neg allowed, longer, bind, Option.bind_some, captured]
          rfl
    next text noP noName equal =>
      cases equal
      obtain ⟨⟨flags, any, ending, behind⟩, found, later⟩ := Option.bind_eq_some_iff.mp read
      have noCapture : ∀ d, d = 'P' ∨ d = '<' → ∀ tail, text ≠ d :: tail := by
        rintro d (rfl | rfl) tail rfl <;> simp [Flags.read?, Flags.set?] at found
      cases text with
      | nil => cases found
      | cons d text =>
        split
        next equal =>
          obtain ⟨rfl, _⟩ := List.cons.inj (List.cons.inj equal).2
          exact absurd rfl (noCapture _ (.inl rfl) _)
        next equal =>
          obtain ⟨rfl, _⟩ := List.cons.inj (List.cons.inj equal).2
          exact absurd rfl (noCapture _ (.inr rfl) _)
        next equal =>
          cases equal
          simp only [Flags.read?_append found, bind, Option.bind_some]
          cases ending with
          | closed =>
            simp only at later ⊢
            split at later
            next written =>
              cases later
              rw [if_pos written]
              rfl
            next => cases later
          | opened =>
            cases later
            rfl
        next other => exact absurd rfl (other _)
    next noFlags =>
      obtain ⟨opened, captured, equal⟩ := Option.map_eq_some_iff.mp read
      cases equal
      split
      next equal => exact absurd (congrArg (· :: _) (List.cons.inj equal).1) (noFlags _)
      next equal => exact absurd (congrArg (· :: _) (List.cons.inj equal).1) (noFlags _)
      next equal => exact absurd (congrArg (· :: _) (List.cons.inj equal).1) (noFlags _)
      next =>
        rw [captured]
        rfl

private theorem again_append {least : Nat} {most : Option Nat}
    (read : (do
      let level ← state.level.repeatLast least most (readLazy text).1
      return ({ state with level }, (readLazy text).2)) = some (after, next :: rest))
    (more : List Char) :
    (do
      let level ← state.level.repeatLast least most (readLazy (text ++ more)).1
      return ({ state with level }, (readLazy (text ++ more)).2)) =
        some (after, next :: (rest ++ more)) := by
  obtain ⟨level, repeated, equal⟩ := Option.bind_eq_some_iff.mp read
  cases lazy : readLazy text with
  | mk isLazy behind =>
    simp only [lazy, pure, Option.some.injEq, Prod.mk.injEq] at equal repeated
    obtain ⟨rfl, rfl⟩ := equal
    simp [readLazy_append lazy, repeated]

/-- A step that leaves some text is the same one when more text follows. -/
theorem readStep_append (read : readStep state text = some (after, next :: rest)) (more : List Char) :
    readStep state (text ++ more) = some (after, next :: (rest ++ more)) := by
  cases text with
  | nil => cases read
  | cons c text =>
    rw [List.cons_append]
    unfold readStep at read ⊢
    simp only at read ⊢
    split at read
    · exact readGroupStart_append read more
    · obtain ⟨closed, found, equal⟩ := Option.map_eq_some_iff.mp read
      cases equal
      simp only [found, Option.map_some, List.cons_append]
    · cases read
      rfl
    · obtain ⟨⟨set, behind⟩, found, equal⟩ := Option.bind_eq_some_iff.mp read
      cases equal
      simp [readClass_append found]
    · exact again_append read more
    · exact again_append read more
    · exact again_append read more
    · obtain ⟨⟨least, most, behind⟩, found, later⟩ := Option.bind_eq_some_iff.mp read
      cases skipped : state.level.flags.skip behind with
      | nil =>
        obtain ⟨level, _, equal⟩ := Option.bind_eq_some_iff.mp later
        simp [skipped, readLazy, pure] at equal
      | cons d behind =>
        rw [skipped] at later
        simp only [readBraces_append found, bind, Option.bind_some, Flags.skip_append skipped]
        rw [← List.cons_append]
        exact again_append later more
    · obtain ⟨⟨atom, behind⟩, found, later⟩ := Option.bind_eq_some_iff.mp read
      obtain ⟨expr, built, equal⟩ := Option.bind_eq_some_iff.mp later
      cases equal
      simp [readEscape_append found, built]
    · obtain ⟨set, known, equal⟩ := Option.map_eq_some_iff.mp read
      cases equal
      simp [known]
    · cases read
      rfl
    · cases read
      rfl
    · obtain ⟨expr, known, equal⟩ := Option.map_eq_some_iff.mp read
      cases equal
      simp [known]

end PathRouting.Regex
