import PathRouting.Proofs.ReaderMoves

/-! The numbers and names of the groups that have been read. Groups are numbered in the order
of their opening parentheses, so no two share a number, and no two share a name. -/

namespace PathRouting.Regex

def GroupKind.groups : GroupKind → List (Nat × Option String)
  | plain => []
  | capture index name => [(index, name)]

namespace ReadState

def groups (state : ReadState) : List (Nat × Option String) :=
  (state.outer.reverse.flatMap fun open_ => open_.1.groups ++ open_.2.groups) ++ state.level.groups

/-- A step that opens no group keeps the numbering, and doubles no group. -/
structure Keeps (state after : ReadState) : Prop where
  names : after.names = state.names
  nextIndex : after.nextIndex = state.nextIndex
  groups : after.groups.Sublist state.groups

theorem Keeps.level {state : ReadState} {level : Level}
    (fewer : level.groups.Sublist state.level.groups) : Keeps state { state with level } :=
  ⟨rfl, rfl, (List.Sublist.refl _).append fewer⟩

theorem Keeps.push {state : ReadState} {expr : Expr} (without : expr.groups = []) :
    Keeps state (state.push expr) := by
  apply Keeps.level
  rw [Level.groups_push, Part.toExpr, without, List.append_nil]

theorem Keeps.openPlain (state : ReadState) (flags : Flags) :
    Keeps state (state.openGroup .plain flags) := by
  refine ⟨rfl, rfl, ?_⟩
  simp [ReadState.groups, openGroup, GroupKind.groups, Level.groups]

theorem Keeps.closeGroup {state after : ReadState} (closed : state.closeGroup = some after) :
    Keeps state after := by
  unfold ReadState.closeGroup at closed
  split at closed
  · cases closed
  next level kind outer opened =>
    cases closed
    refine ⟨rfl, rfl, ?_⟩
    have body := state.level.groups_toExpr
    have wrapped : (kind.wrap state.level.toExpr).groups.Sublist (kind.groups ++ state.level.groups) := by
      cases kind with
      | plain => exact body
      | capture index name => exact body.cons_cons _
    simp only [ReadState.groups, opened, List.reverse_cons, List.flatMap_append, List.flatMap_singleton,
      List.append_assoc, Level.groups_push, Part.toExpr]
    exact (List.Sublist.refl _).append ((List.Sublist.refl _).append wrapped)

end ReadState

theorem Move.keeps {state after : ReadState} {move : Move} (applied : move.run? state = some after) :
    state.Keeps after ∨ ∃ name, state.openCapture name = some after := by
  cases move with
  | capture name => exact .inr ⟨name, applied⟩
  | plain flags =>
    cases applied
    exact .inl (.openPlain state flags)
  | switch flags =>
    cases applied
    refine .inl (.level ?_)
    have without : Part.switches.toExpr.groups = [] := rfl
    rw [Level.groups_push, without, List.append_nil]
    exact List.Sublist.refl _
  | close => exact .inl (.closeGroup applied)
  | branch =>
    cases applied
    refine .inl (.level ?_)
    rw [Level.groups_finishBranch]
  | push expr without =>
    cases applied
    exact .inl (.push without)
  | again least most isLazy =>
    obtain ⟨level, repeated, rfl⟩ := Option.map_eq_some_iff.mp applied
    exact .inl (.level (Level.groups_repeatLast repeated))

namespace ReadState

/-- Groups are numbered in their order, below the number that comes next, and no two
have one name. -/
structure Numbered (state : ReadState) : Prop where
  increasing : (state.groups.map Prod.fst).Pairwise (· < ·)
  bounded : ∀ group ∈ state.groups, group.1 < state.nextIndex
  distinct : (state.groups.filterMap Prod.snd).Nodup
  taken : ∀ name ∈ state.groups.filterMap Prod.snd, name ∈ state.names

theorem Numbered.initial : Numbered {} := by
  refine ⟨List.Pairwise.nil, ?_, List.nodup_nil, ?_⟩
  · intro group member
    cases member
  · intro name member
    cases member

theorem Numbered.keeps {state after : ReadState} (numbered : state.Numbered)
    (kept : state.Keeps after) : after.Numbered where
  increasing := numbered.increasing.sublist (kept.groups.map Prod.fst)
  bounded := by
    intro group member
    rw [kept.nextIndex]
    exact numbered.bounded group (kept.groups.subset member)
  distinct := numbered.distinct.sublist (kept.groups.filterMap Prod.snd)
  taken := by
    intro name member
    rw [kept.names]
    exact numbered.taken name ((kept.groups.filterMap Prod.snd).subset member)

private theorem openCapture_spec {state after : ReadState} {name : Option String}
    (opened : state.openCapture name = some after) :
    after.groups = state.groups ++ [(state.nextIndex, name)] ∧
      after.nextIndex = state.nextIndex + 1 ∧ after.names = name.toList ++ state.names ∧
      ∀ taken ∈ name, taken ∉ state.names := by
  have groups : ∀ index names nextIndex, ReadState.groups
      { state.openGroup (.capture index name) state.level.flags with names, nextIndex } =
        state.groups ++ [(index, name)] := by
    intro index names nextIndex
    simp [ReadState.groups, openGroup, GroupKind.groups, Level.groups]
  cases name with
  | none =>
    cases opened
    exact ⟨groups _ _ _, rfl, rfl, by simp⟩
  | some name =>
    rw [openCapture] at opened
    split at opened
    · cases opened
    next free =>
      cases opened
      exact ⟨groups _ _ _, rfl, rfl, by simpa using free⟩

theorem Numbered.openCapture {state after : ReadState} (numbered : state.Numbered)
    {name : Option String} (opened : state.openCapture name = some after) : after.Numbered := by
  obtain ⟨groups, nextIndex, names, fresh⟩ := openCapture_spec opened
  have named : after.groups.filterMap Prod.snd = state.groups.filterMap Prod.snd ++ name.toList := by
    rw [groups, List.filterMap_append]
    cases name <;> rfl
  refine ⟨?_, ?_, ?_, ?_⟩
  · rw [groups, List.map_append, List.pairwise_append]
    refine ⟨numbered.increasing, List.pairwise_singleton _ _, ?_⟩
    intro index member other last
    obtain ⟨group, inside, rfl⟩ := List.mem_map.mp member
    rw [List.mem_singleton.mp last]
    exact numbered.bounded group inside
  · intro group member
    rw [groups] at member
    rw [nextIndex]
    rcases List.mem_append.mp member with old | new
    · exact Nat.lt_succ_of_lt (numbered.bounded group old)
    · rw [List.mem_singleton.mp new]
      exact Nat.lt_succ_self _
  · rw [named, List.nodup_append]
    refine ⟨numbered.distinct, by cases name <;> simp, ?_⟩
    rintro taken old other new rfl
    exact fresh taken (Option.mem_toList.mp new) (numbered.taken taken old)
  · intro taken member
    rw [names]
    rw [named] at member
    rcases List.mem_append.mp member with old | new
    · exact List.mem_append_right _ (numbered.taken taken old)
    · exact List.mem_append_left _ new

theorem Numbered.step {state after : ReadState} (numbered : state.Numbered) {text rest : List Char}
    (read : readStep state text = some (after, rest)) : after.Numbered := by
  obtain ⟨move, _, moves⟩ := readStep_move read
  obtain ⟨moved, applied, equal⟩ := Option.map_eq_some_iff.mp ((moves state rfl).symm.trans read)
  cases equal
  rcases Move.keeps applied with kept | ⟨name, opened⟩
  · exact numbered.keeps kept
  · exact numbered.openCapture opened

/-- The groups of an expression that has been read are numbered in their order and have
distinct names. -/
theorem Numbered.readAll {fuel : Nat} {state : ReadState} {text : List Char} {expr : Expr}
    (numbered : state.Numbered) (read : readAll fuel state text = some expr) :
    (expr.groups.map Prod.fst).Pairwise (· < ·) ∧ (expr.groups.filterMap Prod.snd).Nodup := by
  induction fuel generalizing state text with
  | zero => cases read
  | succ fuel ih =>
    rw [Regex.readAll] at read
    split at read
    · split at read
      next empty =>
        cases read
        have outer : state.outer = [] := List.isEmpty_iff.mp empty
        have own : state.groups = state.level.groups := by simp [groups, outer]
        have fewer := state.level.groups_toExpr
        rw [← own] at fewer
        exact ⟨numbered.increasing.sublist (fewer.map Prod.fst),
          numbered.distinct.sublist (fewer.filterMap Prod.snd)⟩
      next => cases read
    · split at read
      · cases read
      next after rest stepped => exact ih (numbered.step stepped) read

end ReadState

/-- An expression that has been read numbers its groups in their order and names none twice. -/
theorem Expr.groups_read? {text : List Char} {expr : Expr} (read : Expr.read? text = some expr) :
    (expr.groups.map Prod.fst).Pairwise (· < ·) ∧ (expr.groups.filterMap Prod.snd).Nodup :=
  ReadState.Numbered.initial.readAll read

end PathRouting.Regex
