import PathRouting.Proofs.ReaderMoves
import PathRouting.Proofs.ShiftedGroups

/-! Reading a group. Whether a pattern keeps to the group that is opened for it can be
seen from the pattern alone: wherever it stands, the reader goes through it in the same
way, and comes out where the pattern ends. What it has read then is the same, too, but for
the numbers of the groups. -/

namespace PathRouting.Regex

variable {text rest : List Char} {next : Char}

/-- What stands around a pattern that is read: the groups that are open, the names that are
taken, and how many numbers have been given out. -/
structure Surroundings where
  outer : List (Level × GroupKind)
  names : List String
  offset : Nat

/-- A reader that has come as far in the surroundings as the given one has alone. -/
def ReadState.amid (around : Surroundings) (inner : ReadState) : ReadState where
  level := inner.level.shift around.offset
  outer := inner.outer.map (fun (level, kind) =>
    (level.shift around.offset, kind.shift around.offset)) ++ around.outer
  names := inner.names ++ around.names
  nextIndex := inner.nextIndex + around.offset

section

variable {around : Surroundings} {state inner after further : ReadState}

private theorem openCapture_amid {name : Option String} (opened : inner.openCapture name = some after)
    (openedThere : (inner.amid around).openCapture name = some further) :
    further = after.amid around := by
  have number : inner.nextIndex + around.offset + 1 = inner.nextIndex + 1 + around.offset :=
    Nat.add_right_comm _ _ _
  cases name with
  | none =>
    cases opened
    cases openedThere
    simp only [ReadState.amid, ReadState.openGroup, number]
    rfl
  | some name =>
    rw [ReadState.openCapture] at opened openedThere
    split at opened
    next => cases opened
    next =>
      split at openedThere
      next => cases openedThere
      next =>
        cases opened
        cases openedThere
        simp only [ReadState.amid, ReadState.openGroup, number]
        rfl

private theorem closeGroup_amid (closed : inner.closeGroup = some after)
    (closedThere : (inner.amid around).closeGroup = some further) : further = after.amid around := by
  unfold ReadState.closeGroup at closed closedThere
  split at closed
  next => cases closed
  next level kind outer opened =>
    simp only [ReadState.amid, opened, List.map_cons, List.cons_append, Level.toExpr_shift,
      GroupKind.wrap_shift] at closedThere
    cases closed
    cases closedThere
    rfl

/-- A reader alone and one in surroundings make the same moves. -/
theorem Move.amid {move : Move} (alone : move.run? inner = some after)
    (applied : move.run? (inner.amid around) = some further) : further = after.amid around := by
  cases move with
  | capture name => exact openCapture_amid alone applied
  | plain flags =>
    cases alone
    cases applied
    rfl
  | switch flags =>
    cases alone
    cases applied
    rfl
  | close => exact closeGroup_amid alone applied
  | branch =>
    cases alone
    cases applied
    rw [ReadState.amid, ReadState.amid, Level.finishBranch_shift]
  | push expr without =>
    cases alone
    cases applied
    have same := Expr.shift_of_groups around.offset without
    simp only [ReadState.amid, ReadState.push, Level.push, Level.shift, List.map_cons, Part.shift, same]
  | again least most isLazy =>
    obtain ⟨level, repeated, rfl⟩ := Option.map_eq_some_iff.mp alone
    obtain ⟨other, repeatedOther, rfl⟩ := Option.map_eq_some_iff.mp applied
    rw [ReadState.amid, Level.repeatLast_shift, repeated] at repeatedOther
    cases repeatedOther
    rfl

theorem openCapture_start {name : Option String} (flags : state.level.flags = {})
    (opened : state.openCapture name = some after) :
    after = ({} : ReadState).amid ⟨(state.level, .capture state.nextIndex name) :: state.outer,
      name.toList ++ state.names, state.nextIndex⟩ := by
  have number : state.nextIndex + 1 = 1 + state.nextIndex := Nat.add_comm _ _
  cases name with
  | none =>
    cases opened
    simp only [ReadState.amid, ReadState.openGroup, flags, number]
    rfl
  | some name =>
    rw [ReadState.openCapture] at opened
    split at opened
    next => cases opened
    next =>
      cases opened
      simp only [ReadState.amid, ReadState.openGroup, flags, number]
      rfl

/-- A step that is taken alone is taken in surroundings too, if it is possible there at all. -/
theorem readStep_amid (read : readStep inner text = some (after, next :: rest)) {more left : List Char}
    (readMore : readStep (inner.amid around) (text ++ more) = some (further, left)) :
    left = next :: (rest ++ more) ∧ further = after.amid around := by
  have longer := readStep_append read more
  obtain ⟨move, _, moves⟩ := readStep_move longer
  obtain ⟨_, alone, equal⟩ := Option.map_eq_some_iff.mp ((moves inner rfl).symm.trans longer)
  cases equal
  obtain ⟨_, applied, equal⟩ :=
    Option.map_eq_some_iff.mp ((moves (inner.amid around) rfl).symm.trans readMore)
  cases equal
  exact ⟨rfl, Move.amid alone applied⟩

end

/-- Reads up to the parenthesis that closes what is being read, in at most `fuel` steps:
the text after it. -/
def ReadState.closing? : Nat → ReadState → List Char → Option (List Char)
  | 0, _, _ => none
  | fuel + 1, state, text =>
    match state.level.flags.skip text with
    | [] => none
    | c :: rest =>
      if c = ')' ∧ state.outer = [] then some rest
      else
        match readStep state (c :: rest) with
        | none => none
        | some (after, rest) => closing? fuel after rest

/-- Reads as far as `closing?`: the expression of what has been read, and the text after it. -/
def ReadState.content? : Nat → ReadState → List Char → Option (Expr × List Char)
  | 0, _, _ => none
  | fuel + 1, state, text =>
    match state.level.flags.skip text with
    | [] => none
    | c :: rest =>
      if c = ')' ∧ state.outer = [] then some (state.level.toExpr, rest)
      else
        match readStep state (c :: rest) with
        | none => none
        | some (after, rest) => content? fuel after rest

theorem ReadState.closing?_eq (fuel : Nat) (state : ReadState) (text : List Char) :
    state.closing? fuel text = (state.content? fuel text).map Prod.snd := by
  induction fuel generalizing state text with
  | zero => rfl
  | succ fuel ih =>
    rw [closing?, content?]
    split
    next => rfl
    next c rest =>
      split
      next => rfl
      next =>
        split
        next => rfl
        next => exact ih _ _

/-- A pattern keeps to the group that is opened for it, if the group is closed by the
parenthesis written after the pattern and by no other. -/
def Contained (pattern : String) : Prop :=
  ReadState.closing? (pattern.length + 1) {} (pattern.toList ++ [')']) = some []

instance (pattern : String) : Decidable (Contained pattern) :=
  inferInstanceAs (Decidable (_ = _))

def body? (pattern : String) : Option Expr :=
  match ({} : ReadState).content? (pattern.length + 1) (pattern.toList ++ [')']) with
  | some (body, []) => some body
  | _ => none

theorem contained_iff {pattern : String} : Contained pattern ↔ ∃ body, body? pattern = some body := by
  rw [Contained, ReadState.closing?_eq, Option.map_eq_some_iff, body?]
  constructor
  · rintro ⟨⟨body, rest⟩, read, rfl⟩
    exact ⟨body, by rw [read]⟩
  · rintro ⟨body, found⟩
    split at found
    next body read => exact ⟨_, read, rfl⟩
    next => cases found

def Completes (state : ReadState) (text : List Char) (expr : Expr) : Prop :=
  ∃ fuel, readAll fuel state text = some expr

namespace Completes

variable {state after : ReadState} {expr : Expr}

theorem step (completes : Completes state text expr)
    (skipped : state.level.flags.skip text = next :: rest) :
    ∃ after left, readStep state (next :: rest) = some (after, left) ∧ Completes after left expr := by
  obtain ⟨fuel, read⟩ := completes
  cases fuel with
  | zero => cases read
  | succ fuel =>
    rw [readAll, skipped] at read
    simp only at read
    split at read
    next => cases read
    next after left stepped => exact ⟨after, left, stepped, fuel, read⟩

/-- Where a pattern that keeps to its group stands in a text, reading goes on after it
with the group as one part. -/
theorem contained {level : Level} {kind : GroupKind} {outer : List (Level × GroupKind)}
    {names : List String} {offset fuel : Nat} {inner : ReadState} {body : Expr} {more : List Char}
    (completes : Completes (inner.amid ⟨(level, kind) :: outer, names, offset⟩) (text ++ more) expr)
    (closed : inner.content? fuel text = some (body, rest)) :
    ∃ after, after.level = level.push (.matching (kind.wrap (body.shift offset))) ∧
      after.outer = outer ∧ Completes after (rest ++ more) expr := by
  -- the reader of the pattern alone leads, and the one of the whole text takes the same steps
  induction fuel generalizing inner text with
  | zero => cases closed
  | succ fuel ih =>
    rw [ReadState.content?] at closed
    cases skipped : inner.level.flags.skip text with
    | nil =>
      rw [skipped] at closed
      cases closed
    | cons c text =>
      rw [skipped] at closed
      obtain ⟨after, left, stepped, later⟩ := completes.step (Flags.skip_append skipped more)
      simp only at closed
      split at closed
      next ends =>
        obtain ⟨rfl, alone⟩ := ends
        cases closed
        obtain ⟨closed, found, equal⟩ := Option.map_eq_some_iff.mp stepped
        simp only [ReadState.closeGroup, ReadState.amid, alone, List.map_nil, List.nil_append,
          Level.toExpr_shift] at found
        cases found
        cases equal
        exact ⟨_, rfl, rfl, later⟩
      next =>
        split at closed
        next => cases closed
        next innerAfter innerLeft innerStepped =>
          cases innerLeft with
          | nil =>
            cases fuel with
            | zero => cases closed
            | succ fuel => simp [ReadState.content?, Flags.skip_nil] at closed
          | cons d innerLeft =>
            obtain ⟨rfl, rfl⟩ := readStep_amid innerStepped stepped
            exact ih later closed

end Completes

end PathRouting.Regex
