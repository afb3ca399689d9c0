import PathRouting.Proofs.RegexBlocks

/-! What a match does while it passes an expression. Of literals, conditions, groups and
rows it is said exactly; of what stands inside a group only that it goes forward in
the text and records no groups but its own. -/

namespace PathRouting.Regex

open Program

variable {program : Program} {text : List Char} {here next : Nat}

namespace Expr

/-- What happens between entering an expression and leaving it: the position and the
marks before, and those after. -/
def Passes (text : List Char) : Expr → Nat → Marks → Nat → Marks → Prop
  | empty, start, before, stop, after => stop = start ∧ after = before
  | literal chars, start, before, stop, after =>
    chars <+: text.drop start ∧ stop = start + chars.length ∧ after = before
  | look condition, start, before, stop, after =>
    condition.holds (placeAt text start).before (placeAt text start).after = true ∧
      stop = start ∧ after = before
  | group index _ body, start, before, stop, after =>
    start ≤ stop ∧ ∃ inner : Marks, (∀ mark ∈ inner, mark.1 / 2 ∈ body.indices) ∧
      after = (2 * index + 1, stop) :: (inner ++ (2 * index, start) :: before)
  | seq first second, start, before, stop, after =>
    ∃ position between, Passes text first start before position between ∧
      Passes text second position between stop after
  | expr, start, before, stop, after =>
    start ≤ stop ∧ ∃ inner : Marks, (∀ mark ∈ inner, mark.1 / 2 ∈ expr.indices) ∧
      after = inner ++ before

end Expr

section steps

variable {state stop : Nat × Thread}

private theorem walk_first (accepts : program[stop.2.address]? = some .accept)
    (walk : Walk program text state stop) {instruction : Instruction}
    (found : program[state.2.address]? = some instruction) (going : instruction ≠ .accept) :
    ∃ later, Step program text state later ∧ Walk program text later stop := by
  rcases walk.cases_head with rfl | first
  · exact absurd (Option.some.inj (found.symm.trans accepts)) going
  · exact first

variable {position : Nat} {marks : Marks}

private theorem walk_jump (accepts : program[stop.2.address]? = some .accept)
    (found : program[here]? = some (.jump next))
    (walk : Walk program text (position, ⟨here, marks⟩) stop) :
    Walk program text (position, ⟨next, marks⟩) stop := by
  obtain ⟨later, step, rest⟩ := walk_first accepts walk found (by simp)
  cases step with
  | read instruction => cases found.symm.trans instruction
  | move member =>
    simp only [moves, found, List.mem_singleton] at member
    subst member
    exact rest

private theorem walk_check (accepts : program[stop.2.address]? = some .accept) {condition : Look}
    (found : program[here]? = some (.check condition next))
    (walk : Walk program text (position, ⟨here, marks⟩) stop) :
    condition.holds (placeAt text position).before (placeAt text position).after = true ∧
      Walk program text (position, ⟨next, marks⟩) stop := by
  obtain ⟨later, step, rest⟩ := walk_first accepts walk found (by simp)
  cases step with
  | read instruction => cases found.symm.trans instruction
  | move member =>
    simp only [moves, found] at member
    split at member
    next holds =>
      rw [List.mem_singleton.mp member] at rest
      exact ⟨holds, rest⟩
    next => cases member

private theorem walk_mark (accepts : program[stop.2.address]? = some .accept) {slot : Nat}
    (found : program[here]? = some (.mark slot next))
    (walk : Walk program text (position, ⟨here, marks⟩) stop) :
    Walk program text (position, ⟨next, (slot, position) :: marks⟩) stop := by
  obtain ⟨later, step, rest⟩ := walk_first accepts walk found (by simp)
  cases step with
  | read instruction => cases found.symm.trans instruction
  | move member =>
    simp only [moves, found, List.mem_singleton] at member
    subst member
    exact rest

private theorem walk_read (accepts : program[stop.2.address]? = some .accept) {set : CharSet}
    (found : program[here]? = some (.read set next))
    (walk : Walk program text (position, ⟨here, marks⟩) stop) :
    (∃ c, text[position]? = some c ∧ set.contains c = true) ∧
      Walk program text (position + 1, ⟨next, marks⟩) stop := by
  obtain ⟨later, step, rest⟩ := walk_first accepts walk found (by simp)
  cases step with
  | read instruction present contained =>
    cases found.symm.trans instruction
    exact ⟨⟨_, present, contained⟩, rest⟩
  | move member => simp [moves, found] at member

end steps

namespace Expr

variable {stop : Nat × Thread} {position : Nat} {marks : Marks}

private theorem passes_literal {chars : List Char} (accepts : program[stop.2.address]? = some .accept)
    (holds : Holds program here (emitLiteral chars here next))
    (walk : Walk program text (position, ⟨here, marks⟩) stop) :
    chars <+: text.drop position ∧
      Walk program text (position + chars.length, ⟨next, marks⟩) stop := by
  induction chars generalizing here position with
  | nil => exact ⟨List.nil_prefix, walk_jump accepts holds.head walk⟩
  | cons c chars ih =>
    obtain ⟨⟨other, present, contained⟩, rest⟩ := walk_read accepts holds.head walk
    obtain ⟨later, further⟩ := ih holds.tail rest
    obtain rfl : other = c := by simpa [CharSet.contains_singleton] using contained
    obtain ⟨bound, equal⟩ := List.getElem?_eq_some_iff.mp present
    constructor
    · rw [List.drop_eq_getElem_cons bound, equal]
      exact List.cons_prefix_cons.mpr ⟨rfl, later⟩
    · rw [List.length_cons, Nat.add_comm chars.length, ← Nat.add_assoc]
      exact further

/-- Whatever an expression is, a match that enters it leaves it at the address after it. -/
theorem leaves (expr : Expr) (accepts : program[stop.2.address]? = some .accept)
    (holds : Holds program here (expr.emit here next))
    (walk : Walk program text (position, ⟨here, marks⟩) stop) :
    ∃ later, position ≤ later ∧ (position ≤ text.length → later ≤ text.length) ∧
      ∃ inner : Marks, (∀ mark ∈ inner, mark.1 / 2 ∈ expr.indices) ∧
        Walk program text (later, ⟨next, inner ++ marks⟩) stop := by
  obtain ⟨length, positive, keeps⟩ := expr.closed_emit here next
  rw [← length] at keeps positive
  obtain ⟨later, inner, forward, bounded, own, rest⟩ :=
    keeps.leaves holds accepts walk (Nat.le_refl _) (Nat.lt_add_of_pos_right positive)
  exact ⟨later, forward, bounded, inner, own, rest⟩

/-- A match that enters an expression passes it and goes on after it. -/
theorem passes_of_walk (expr : Expr) (accepts : program[stop.2.address]? = some .accept)
    (holds : Holds program here (expr.emit here next)) (inside : position ≤ text.length)
    (walk : Walk program text (position, ⟨here, marks⟩) stop) :
    ∃ later after, Passes text expr position marks later after ∧ later ≤ text.length ∧
      Walk program text (later, ⟨next, after⟩) stop := by
  induction expr generalizing here next position marks with
  | empty => exact ⟨position, marks, ⟨rfl, rfl⟩, inside, walk_jump accepts holds.head walk⟩
  | literal chars =>
    obtain ⟨written, rest⟩ := passes_literal accepts holds walk
    refine ⟨position + chars.length, marks, ⟨written, rfl, rfl⟩, ?_, rest⟩
    have fits := written.length_le
    rw [List.length_drop] at fits
    omega
  | look condition =>
    obtain ⟨met, rest⟩ := walk_check accepts holds.head walk
    exact ⟨position, marks, ⟨met, rfl, rfl⟩, inside, rest⟩
  | group index name body _ =>
    have entered := walk_mark accepts holds.head walk
    obtain ⟨later, forward, bounded, inner, own, left⟩ := leaves body accepts holds.tail.left entered
    have last := holds.tail.right
    rw [length_emit] at last
    exact ⟨later, _, ⟨forward, inner, own, rfl⟩, bounded inside, walk_mark accepts last.head left⟩
  | seq first second firstIh secondIh =>
    obtain ⟨middle, between, passed, within, rest⟩ := firstIh holds.left inside walk
    have second := holds.right
    rw [length_emit] at second
    obtain ⟨later, after, passedToo, bounded, last⟩ := secondIh second within rest
    exact ⟨later, after, ⟨middle, between, passed, passedToo⟩, bounded, last⟩
  | one set =>
    obtain ⟨later, forward, bounded, inner, own, rest⟩ := leaves (one set) accepts holds walk
    exact ⟨later, _, ⟨forward, inner, own, rfl⟩, bounded inside, rest⟩
  | repeated least most isLazy body _ =>
    obtain ⟨later, forward, bounded, inner, own, rest⟩ :=
      leaves (repeated least most isLazy body) accepts holds walk
    exact ⟨later, _, ⟨forward, inner, own, rfl⟩, bounded inside, rest⟩
  | alt first second _ _ =>
    obtain ⟨later, forward, bounded, inner, own, rest⟩ :=
      leaves (alt first second) accepts holds walk
    exact ⟨later, _, ⟨forward, inner, own, rfl⟩, bounded inside, rest⟩

/-- A match that is found has passed the whole expression from where it started. -/
theorem passes_of_find? {expr : Expr} {marks : Marks}
    (found : expr.program.find? text = some marks) :
    ∃ start stop, start ≤ text.length ∧ stop ≤ text.length ∧
      Passes text expr start [(0, start)] stop marks := by
  obtain ⟨position, address, accepts, start, inside, walk⟩ := find?_accepted found
  have holds : Holds expr.program 0 (expr.emit 0 expr.size) := ⟨[], [.accept], by simp [program], rfl⟩
  obtain ⟨stop, after, passed, bounded, rest⟩ := passes_of_walk expr accepts holds inside walk
  have last : expr.program[expr.size]? = some .accept := by
    simp [program, length_emit]
  rcases rest.cases_head with same | ⟨next, step, _⟩
  · cases same
    exact ⟨start, _, inside, bounded, passed⟩
  · obtain ⟨instruction, there, target, _⟩ := step.spec
    obtain rfl := Option.some.inj (last.symm.trans there)
    cases target

def PassesRow (text : List Char) : List Expr → Nat → Marks → Nat → Marks → Prop
  | [], start, before, stop, after => stop = start ∧ after = before
  | part :: rest, start, before, stop, after =>
    ∃ position between, Passes text part start before position between ∧
      PassesRow text rest position between stop after

theorem passesRow_of_ofItems {parts : List Expr} {start stop : Nat} {before after : Marks}
    (passed : Passes text (ofItems parts) start before stop after) :
    PassesRow text parts start before stop after := by
  induction parts generalizing start before with
  | nil => exact passed
  | cons part rest ih =>
    cases rest with
    | nil => exact ⟨stop, after, passed, rfl, rfl⟩
    | cons next later =>
      obtain ⟨position, between, first, second⟩ := passed
      exact ⟨position, between, first, ih second⟩

theorem passesRow_of_joinLiterals {parts : List Expr} {start stop : Nat} {before after : Marks}
    (passed : PassesRow text (joinLiterals parts) start before stop after) :
    PassesRow text parts start before stop after := by
  induction parts generalizing start before with
  | nil => exact passed
  | cons part rest ih =>
    unfold joinLiterals at passed
    split at passed
    next chars more later joined =>
      obtain ⟨position, between, ⟨written, rfl, rfl⟩, last⟩ := passed
      obtain ⟨tail, whole⟩ := written
      rw [joined] at ih
      have first : chars <+: text.drop start := ⟨more ++ tail, by rw [← whole, List.append_assoc]⟩
      refine ⟨start + chars.length, between, ⟨first, rfl, rfl⟩, ih ⟨_, _, ⟨?_, rfl, rfl⟩, ?_⟩⟩
      · rw [← List.drop_drop, ← whole, List.append_assoc, List.drop_left]
        exact List.prefix_append more tail
      · rw [List.length_append, ← Nat.add_assoc] at last
        exact last
    next =>
      obtain ⟨position, between, first, second⟩ := passed
      exact ⟨position, between, first, ih second⟩

/-- Passing an expression goes forward and adds marks of its own groups only. -/
theorem Passes.adds {expr : Expr} {start stop : Nat} {before after : Marks}
    (passed : Passes text expr start before stop after) :
    start ≤ stop ∧ ∃ added : Marks, after = added ++ before ∧
      ∀ mark ∈ added, mark.1 / 2 ∈ expr.indices := by
  induction expr generalizing start before stop after with
  | empty =>
    obtain ⟨rfl, rfl⟩ := passed
    exact ⟨Nat.le_refl _, [], rfl, by simp⟩
  | literal chars =>
    obtain ⟨_, rfl, rfl⟩ := passed
    exact ⟨Nat.le_add_right _ _, [], rfl, by simp⟩
  | look condition =>
    obtain ⟨_, rfl, rfl⟩ := passed
    exact ⟨Nat.le_refl _, [], rfl, by simp⟩
  | group index name body _ =>
    obtain ⟨forward, inner, own, rfl⟩ := passed
    refine ⟨forward, (2 * index + 1, stop) :: (inner ++ [(2 * index, start)]), by simp, ?_⟩
    intro mark member
    rw [indices, groups, List.map_cons]
    rcases List.mem_cons.mp member with rfl | member
    · exact List.mem_cons.mpr (.inl (by show (2 * index + 1) / 2 = index; omega))
    · rcases List.mem_append.mp member with inside | first
      · exact List.mem_cons_of_mem _ (own mark inside)
      · rw [List.mem_singleton.mp first]
        exact List.mem_cons.mpr (.inl (by show 2 * index / 2 = index; omega))
  | seq first second firstIh secondIh =>
    obtain ⟨position, between, passed, later⟩ := passed
    obtain ⟨forward, added, rfl, own⟩ := firstIh passed
    obtain ⟨further, more, rfl, others⟩ := secondIh later
    refine ⟨Nat.le_trans forward further, more ++ added, by rw [List.append_assoc], ?_⟩
    intro mark member
    rw [indices, groups, List.map_append]
    rcases List.mem_append.mp member with inside | inside
    · exact List.mem_append_right _ (others mark inside)
    · exact List.mem_append_left _ (own mark inside)
  | one set =>
    obtain ⟨forward, inner, own, rfl⟩ := passed
    exact ⟨forward, inner, rfl, own⟩
  | repeated least most isLazy body _ =>
    obtain ⟨forward, inner, own, rfl⟩ := passed
    exact ⟨forward, inner, rfl, own⟩
  | alt first second _ _ =>
    obtain ⟨forward, inner, own, rfl⟩ := passed
    exact ⟨forward, inner, rfl, own⟩

theorem PassesRow.adds {parts : List Expr} {start stop : Nat} {before after : Marks}
    (passed : PassesRow text parts start before stop after) :
    start ≤ stop ∧ ∃ added : Marks, after = added ++ before ∧
      ∀ mark ∈ added, mark.1 / 2 ∈ parts.flatMap indices := by
  induction parts generalizing start before with
  | nil =>
    obtain ⟨rfl, rfl⟩ := passed
    exact ⟨Nat.le_refl _, [], rfl, by simp⟩
  | cons part rest ih =>
    obtain ⟨position, between, passed, later⟩ := passed
    obtain ⟨forward, added, rfl, own⟩ := passed.adds
    obtain ⟨further, more, rfl, others⟩ := ih later
    refine ⟨Nat.le_trans forward further, more ++ added, by rw [List.append_assoc], ?_⟩
    intro mark member
    rw [List.flatMap_cons]
    rcases List.mem_append.mp member with inside | inside
    · exact List.mem_append_right _ (others mark inside)
    · exact List.mem_append_left _ (own mark inside)

theorem lookup_own {slot : Nat} {added rest : Marks} (others : ∀ mark ∈ added, mark.1 ≠ slot) :
    (added ++ rest).lookup slot = rest.lookup slot := by
  rw [List.lookup_append, List.lookup_eq_none_iff.mpr, Option.none_or]
  intro mark member
  simpa using (others mark member).symm

/-- A group that has been passed holds the text it was passed on, whatever comes later. -/
theorem text?_of_passes {index : Nat} {name : Option String} {body : Expr} {rest : List Expr}
    {start position stop : Nat} {before between after : Marks}
    (passed : Passes text (group index name body) start before position between)
    (later : PassesRow text rest position between stop after) (inside : index ∉ body.indices)
    (apart : index ∉ rest.flatMap indices) :
    after.text? index text = some ((text.drop start).take (position - start)) := by
  obtain ⟨_, inner, own, rfl⟩ := passed
  obtain ⟨_, more, rfl, others⟩ := later.adds
  have outside : ∀ slot, slot / 2 = index → ∀ mark ∈ more, mark.1 ≠ slot := by
    rintro slot half mark member rfl
    exact apart (half ▸ others mark member)
  have within : ∀ mark ∈ inner, mark.1 ≠ 2 * index := by
    intro mark member equal
    have recorded := own mark member
    rw [equal, Nat.mul_div_cancel_left _ (by omega)] at recorded
    exact inside recorded
  have first : (more ++ (2 * index + 1, position) :: (inner ++ (2 * index, start) :: before)).lookup
      (2 * index) = some start := by
    have odd : (2 * index == 2 * index + 1) = false := by simp
    rw [lookup_own (outside _ (by omega)), List.lookup_cons, odd]
    exact (lookup_own within).trans List.lookup_cons_self
  have last : (more ++ (2 * index + 1, position) :: (inner ++ (2 * index, start) :: before)).lookup
      (2 * index + 1) = some position := by
    rw [lookup_own (outside _ (by omega)), List.lookup_cons_self]
  rw [Marks.text?, first, last]
  rfl

end Expr

end PathRouting.Regex
