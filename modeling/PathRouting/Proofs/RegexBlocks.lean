import PathRouting.Proofs.RegexWalks

/-! The block of instructions that stands for an expression. A walk that enters the
block at its head can leave it in one way only, to the address after it, and on the
way it records nothing but the groups of that expression. -/

namespace PathRouting.Regex

namespace Instruction

def targets : Instruction → List Nat
  | jump next => [next]
  | read _ next => [next]
  | check _ next => [next]
  | mark _ next => [next]
  | split first second => [first, second]
  | accept => []

def slot? : Instruction → Option Nat
  | mark slot _ => some slot
  | _ => none

end Instruction

namespace Program

/-- Every instruction stays between two addresses or goes on to `next`, and records only
in slots of the given groups. -/
def Keeps (code : List Instruction) (low high next : Nat) (groups : List Nat) : Prop :=
  ∀ instruction ∈ code, instruction ≠ .accept ∧
    (∀ target ∈ instruction.targets, target = next ∨ low ≤ target ∧ target < high) ∧
    ∀ slot, instruction.slot? = some slot → slot / 2 ∈ groups

/-- A block whose walks stay inside or go on to `next`. -/
def Block.Closed (block : Block) (size : Nat) (groups : List Nat) : Prop :=
  ∀ here next, (block here next).length = size ∧ 0 < size ∧
    Keeps (block here next) here (here + size) next groups

variable {code first second : List Instruction} {low high next : Nat} {groups : List Nat}

theorem Keeps.widen (keeps : Keeps code low high next groups) {low' high' next' : Nat}
    (below : low' ≤ low) (above : high ≤ high') (left : next = next' ∨ low' ≤ next ∧ next < high') :
    Keeps code low' high' next' groups := by
  intro instruction member
  obtain ⟨going, targets, slots⟩ := keeps instruction member
  refine ⟨going, fun target reached => ?_, slots⟩
  rcases targets target reached with rfl | inside
  · exact left
  · exact .inr ⟨by omega, by omega⟩

theorem Keeps.append (left : Keeps first low high next groups)
    (right : Keeps second low high next groups) : Keeps (first ++ second) low high next groups := by
  intro instruction member
  rcases List.mem_append.mp member with inside | inside
  · exact left instruction inside
  · exact right instruction inside

theorem Keeps.single {instruction : Instruction} (going : instruction ≠ .accept)
    (targets : ∀ target ∈ instruction.targets, target = next ∨ low ≤ target ∧ target < high)
    (slots : ∀ slot, instruction.slot? = some slot → slot / 2 ∈ groups) :
    Keeps [instruction] low high next groups := by
  intro other member
  rw [List.mem_singleton.mp member]
  exact ⟨going, targets, slots⟩

private theorem keeps_fork (isLazy : Bool) {round done : Nat}
    (again : round = next ∨ low ≤ round ∧ round < high)
    (ended : done = next ∨ low ≤ done ∧ done < high) :
    Keeps [fork isLazy round done] low high next groups := by
  cases isLazy <;>
    exact .single (by simp [fork]) (by simp [fork, Instruction.targets, again, ended])
      (by simp [fork, Instruction.slot?])

section blocks

variable {block other : Block} {size otherSize : Nat}

theorem Block.Closed.mono (closed : Block.Closed block size groups) {more : List Nat}
    (included : ∀ group ∈ groups, group ∈ more) : Block.Closed block size more := by
  intro here next
  obtain ⟨length, positive, keeps⟩ := closed here next
  refine ⟨length, positive, fun instruction member => ?_⟩
  obtain ⟨going, targets, slots⟩ := keeps instruction member
  exact ⟨going, targets, fun slot equal => included _ (slots slot equal)⟩

private theorem closed_single {make : Nat → Instruction} (targets : ∀ next, (make next).targets = [next])
    (slots : ∀ next slot, (make next).slot? = some slot → slot / 2 ∈ groups) :
    Block.Closed (fun _ next => [make next]) 1 groups := by
  intro here next
  refine ⟨rfl, by omega, .single ?_ ?_ (slots next)⟩
  · intro accepts
    have none := targets next
    rw [accepts] at none
    cases none
  · intro target member
    rw [targets, List.mem_singleton] at member
    exact .inl member

private theorem closed_jump : Block.Closed (fun _ next => [.jump next]) 1 groups :=
  closed_single (fun _ => rfl) (fun _ _ equal => nomatch equal)

private theorem closed_read (set : CharSet) : Block.Closed (fun _ next => [.read set next]) 1 groups :=
  closed_single (fun _ => rfl) (fun _ _ equal => nomatch equal)

private theorem closed_mark {slot : Nat} (recorded : slot / 2 ∈ groups) :
    Block.Closed (fun _ next => [.mark slot next]) 1 groups :=
  closed_single (fun _ => rfl) fun _ _ equal => Option.some.inj equal ▸ recorded

private theorem closed_append (closed : Block.Closed block size groups)
    (later : Block.Closed other otherSize groups) :
    Block.Closed (fun here next => block here (here + size) ++ other (here + size) next)
      (size + otherSize) groups := by
  intro here next
  obtain ⟨length, positive, keeps⟩ := closed here (here + size)
  obtain ⟨otherLength, _, otherKeeps⟩ := later (here + size) next
  refine ⟨by rw [List.length_append, length, otherLength], by omega, ?_⟩
  exact (keeps.widen (by omega) (by omega) (.inr ⟨by omega, by omega⟩)).append
    (otherKeeps.widen (by omega) (by omega) (.inl rfl))

private theorem closed_fork (isLazy : Bool) (closed : Block.Closed block size groups) :
    Block.Closed (fun here next => fork isLazy (here + 1) next :: block (here + 1) next)
      (size + 1) groups := by
  intro here next
  obtain ⟨length, positive, keeps⟩ := closed (here + 1) next
  refine ⟨by rw [List.length_cons, length], by omega, ?_⟩
  exact (keeps_fork isLazy (.inr ⟨by omega, by omega⟩) (.inl rfl)).append
    (keeps.widen (by omega) (by omega) (.inl rfl))

private theorem closed_exactly (closed : Block.Closed block size groups) (rounds : Nat) :
    Block.Closed (exactly block size rounds) (rounds * size + 1) groups := by
  induction rounds with
  | zero =>
    rw [Nat.zero_mul]
    exact closed_jump
  | succ rounds ih =>
    rw [show (rounds + 1) * size + 1 = size + (rounds * size + 1) by rw [Nat.succ_mul]; omega]
    exact closed_append closed ih

private theorem closed_atMost (isLazy : Bool) (closed : Block.Closed block size groups) (rounds : Nat) :
    Block.Closed (atMost isLazy block size rounds) (rounds * (size + 1) + 1) groups := by
  induction rounds with
  | zero =>
    rw [Nat.zero_mul]
    exact closed_jump
  | succ rounds ih =>
    rw [show (rounds + 1) * (size + 1) + 1 = size + (rounds * (size + 1) + 1) + 1 by
      rw [Nat.succ_mul]; omega]
    exact closed_fork isLazy (closed_append closed ih)

private theorem closed_oneOrMore (isLazy : Bool) (closed : Block.Closed block size groups) :
    Block.Closed (oneOrMore isLazy block size) (size + 1) groups := by
  intro here next
  obtain ⟨length, positive, keeps⟩ := closed here (here + size)
  refine ⟨by simp [oneOrMore, length], by omega, ?_⟩
  exact (keeps.widen (by omega) (by omega) (.inr ⟨by omega, by omega⟩)).append
    (keeps_fork isLazy (.inr ⟨by omega, by omega⟩) (.inl rfl))

private theorem closed_zeroOrMore (isLazy consumes : Bool) (closed : Block.Closed block size groups) :
    Block.Closed (zeroOrMore isLazy consumes block size)
      (if consumes then size + 1 else size + 2) groups := by
  cases consumes with
  | false => exact closed_fork isLazy (closed_oneOrMore isLazy closed)
  | true =>
    intro here next
    obtain ⟨length, positive, keeps⟩ := closed (here + 1) here
    rw [if_pos rfl]
    refine ⟨by simp [zeroOrMore, length], by omega, ?_⟩
    exact (keeps_fork isLazy (.inr ⟨by omega, by omega⟩) (.inl rfl)).append
      (keeps.widen (by omega) (by omega) (.inr ⟨by omega, by omega⟩))

private theorem closed_repetition (least : Nat) (most : Option Nat) (isLazy consumes : Bool)
    (closed : Block.Closed block size groups) :
    Block.Closed (repetition least most isLazy consumes block size)
      (repetitionSize least most consumes size) groups := by
  cases most with
  | some most =>
    exact closed_append (closed_exactly closed least) (closed_atMost isLazy closed (most - least))
  | none =>
    cases least with
    | zero => exact closed_zeroOrMore isLazy consumes closed
    | succ rounds =>
      exact closed_append (closed_exactly closed rounds) (closed_oneOrMore isLazy closed)

end blocks

end Program

namespace Expr

open Program

def indices (expr : Expr) : List Nat := expr.groups.map Prod.fst

private theorem indices_append_left (first second : Expr) :
    ∀ index ∈ first.indices, index ∈ (first.groups ++ second.groups).map Prod.fst :=
  fun _ member => by rw [List.map_append]; exact List.mem_append_left _ member

private theorem indices_append_right (first second : Expr) :
    ∀ index ∈ second.indices, index ∈ (first.groups ++ second.groups).map Prod.fst :=
  fun _ member => by rw [List.map_append]; exact List.mem_append_right _ member

private theorem closed_emitLiteral (chars : List Char) (groups : List Nat) :
    Block.Closed (emitLiteral chars) (chars.length + 1) groups := by
  induction chars with
  | nil => exact closed_jump
  | cons c chars ih =>
    rw [List.length_cons, Nat.add_comm chars.length 1, Nat.add_assoc]
    exact closed_append (closed_read (CharSet.singleton c)) ih

/-- The block of an expression is closed, and records only the groups of that expression. -/
theorem closed_emit (expr : Expr) : Block.Closed expr.emit expr.size expr.indices := by
  induction expr with
  | empty => exact closed_jump
  | literal chars => exact closed_emitLiteral chars _
  | one set => exact closed_read set
  | look condition => exact closed_single (fun _ => rfl) (fun _ _ equal => nomatch equal)
  | group index name body ih =>
    have own : index ∈ (group index name body).indices := List.mem_cons_self
    have opened := @closed_mark (group index name body).indices (2 * index)
      (by rwa [Nat.mul_div_cancel_left index (by omega)])
    have ended := @closed_mark (group index name body).indices (2 * index + 1)
      (by rwa [show (2 * index + 1) / 2 = index by omega])
    have inside := ih.mono fun group member => List.mem_cons_of_mem index member
    rw [size, Nat.add_comm, Nat.add_assoc 1 1, Nat.add_comm 1 body.size]
    exact closed_append opened (closed_append inside ended)
  | repeated least most isLazy body ih =>
    exact closed_repetition least most isLazy body.consumes ih
  | seq first second firstClosed secondClosed =>
    exact closed_append (firstClosed.mono (indices_append_left _ _))
      (secondClosed.mono (indices_append_right _ _))
  | alt first second firstClosed secondClosed =>
    intro here next
    obtain ⟨length, positive, keeps⟩ :=
      firstClosed.mono (indices_append_left first second) (here + 1) next
    obtain ⟨otherLength, _, otherKeeps⟩ :=
      secondClosed.mono (indices_append_right first second) (here + 1 + first.size) next
    rw [size]
    refine ⟨?_, by omega, ?_⟩
    · rw [emit, List.length_cons, List.length_append, length, otherLength]
      omega
    · have forked : Keeps [.split (here + 1) (here + 1 + first.size)] here
          (here + (1 + first.size + second.size)) next (alt first second).indices := by
        refine .single (by simp) (fun target member => .inr ?_) (fun _ equal => nomatch equal)
        rcases List.mem_cons.mp member with rfl | other
        · exact ⟨by omega, by omega⟩
        · rw [List.mem_singleton.mp other]
          exact ⟨by omega, by omega⟩
      exact forked.append ((keeps.widen (by omega) (by omega) (.inl rfl)).append
        (otherKeeps.widen (by omega) (by omega) (.inl rfl)))

theorem length_emit (expr : Expr) (here next : Nat) : (expr.emit here next).length = expr.size :=
  (expr.closed_emit here next).1

end Expr

namespace Program

variable {program : Program} {text : List Char} {code first second : List Instruction}
  {here next : Nat} {groups : List Nat}

def Holds (program : Program) (here : Nat) (code : List Instruction) : Prop :=
  ∃ before after, program.toList = before ++ (code ++ after) ∧ before.length = here

theorem Holds.get (holds : Holds program here code) {address : Nat} (above : here ≤ address)
    (below : address < here + code.length) :
    ∃ instruction ∈ code, program[address]? = some instruction := by
  obtain ⟨before, after, whole, rfl⟩ := holds
  have bound : address - before.length < code.length := by omega
  refine ⟨code[address - before.length], List.getElem_mem bound, ?_⟩
  rw [← Array.getElem?_toList, whole, List.getElem?_append_right above,
    List.getElem?_append_left bound, List.getElem?_eq_getElem bound]

theorem Holds.head {instruction : Instruction} (holds : Holds program here (instruction :: code)) :
    program[here]? = some instruction := by
  obtain ⟨before, after, whole, rfl⟩ := holds
  simp [← Array.getElem?_toList, whole]

theorem Holds.left (holds : Holds program here (first ++ second)) : Holds program here first := by
  obtain ⟨before, after, whole, length⟩ := holds
  exact ⟨before, second ++ after, by rw [whole, List.append_assoc], length⟩

theorem Holds.right (holds : Holds program here (first ++ second)) :
    Holds program (here + first.length) second := by
  obtain ⟨before, after, whole, length⟩ := holds
  exact ⟨before ++ first, after, by rw [whole, List.append_assoc, List.append_assoc],
    by rw [List.length_append, length]⟩

theorem Holds.tail {instruction : Instruction} (holds : Holds program here (instruction :: code)) :
    Holds program (here + 1) code :=
  (show Holds program here ([instruction] ++ code) from holds).right

/-- What a step does: the address goes on to a target, the position does not go back, and
at most the slot of the instruction is recorded. -/
theorem Step.spec {state later : Nat × Thread} (step : Step program text state later) :
    ∃ instruction, program[state.2.address]? = some instruction ∧
      later.2.address ∈ instruction.targets ∧ state.1 ≤ later.1 ∧
      (state.1 ≤ text.length → later.1 ≤ text.length) ∧
      ∃ added, later.2.marks = added ++ state.2.marks ∧
        ∀ mark ∈ added, instruction.slot? = some mark.1 := by
  cases step with
  | @read position thread set next c instruction present contained =>
    refine ⟨_, instruction, List.mem_singleton.mpr rfl, Nat.le_succ _, fun _ => ?_, [], rfl, by simp⟩
    exact (List.getElem?_eq_some_iff.mp present).1
  | @move position thread next member =>
    rw [moves] at member
    split at member
    next target found =>
      obtain rfl := List.mem_singleton.mp member
      exact ⟨_, found, List.mem_singleton.mpr rfl, Nat.le_refl _, id, [], rfl, by simp⟩
    next condition target found =>
      split at member
      · obtain rfl := List.mem_singleton.mp member
        exact ⟨_, found, List.mem_singleton.mpr rfl, Nat.le_refl _, id, [], rfl, by simp⟩
      · cases member
    next slot target found =>
      obtain rfl := List.mem_singleton.mp member
      exact ⟨_, found, List.mem_singleton.mpr rfl, Nat.le_refl _, id, [(slot, position)], rfl,
        by simp [Instruction.slot?]⟩
    next one other found =>
      refine ⟨_, found, ?_, Nat.le_refl _, id, [], ?_, by simp⟩
      · rcases List.mem_cons.mp member with rfl | last
        · exact List.mem_cons_self
        · rw [List.mem_singleton.mp last]
          exact List.mem_cons_of_mem _ (List.mem_singleton.mpr rfl)
      · rcases List.mem_cons.mp member with rfl | last
        · rfl
        · rw [List.mem_singleton.mp last]
          rfl
    next => cases member

/-- A walk that ends with a match leaves every block it is in, to the address after it. -/
theorem Keeps.leaves (keeps : Keeps code here (here + code.length) next groups)
    (holds : Holds program here code) {state stop : Nat × Thread}
    (accepts : program[stop.2.address]? = some .accept) (walk : Walk program text state stop)
    (above : here ≤ state.2.address) (below : state.2.address < here + code.length) :
    ∃ position added, state.1 ≤ position ∧ (state.1 ≤ text.length → position ≤ text.length) ∧
      (∀ mark ∈ added, mark.1 / 2 ∈ groups) ∧
      Walk program text (position, ⟨next, added ++ state.2.marks⟩) stop := by
  induction walk using Relation.ReflTransGen.head_induction_on with
  | refl =>
    obtain ⟨instruction, member, found⟩ := holds.get above below
    exact absurd (Option.some.inj (found.symm.trans accepts)) (keeps instruction member).1
  | @head state middle step rest ih =>
    obtain ⟨instruction, member, found⟩ := holds.get above below
    obtain ⟨same, there, target, forward, bounded, added, marks, slots⟩ := step.spec
    obtain rfl := Option.some.inj (found.symm.trans there)
    obtain ⟨_, targets, recorded⟩ := keeps instruction member
    have grouped : ∀ mark ∈ added, mark.1 / 2 ∈ groups :=
      fun mark inside => recorded mark.1 (slots mark inside)
    rcases targets _ target with left | ⟨low, high⟩
    · refine ⟨middle.1, added, forward, bounded, grouped, ?_⟩
      rw [← left, ← marks]
      exact rest
    · obtain ⟨position, more, further, inside, moreGrouped, walk⟩ := ih low high
      refine ⟨position, more ++ added, Nat.le_trans forward further, inside ∘ bounded, ?_, ?_⟩
      · intro mark present
        exact (List.mem_append.mp present).elim (moreGrouped mark) (grouped mark)
      · rw [List.append_assoc, ← marks]
        exact walk

end Program

end PathRouting.Regex
