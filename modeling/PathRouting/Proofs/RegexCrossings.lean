import PathRouting.Proofs.RegexBlocks

/-! What an expression means, told without its program: which points of a text a match can
go between, and what it records on the way. The walks through the program of an expression
are exactly the crossings of that expression. -/

namespace PathRouting.Regex

open Program Relation

/-- A place of a match: the position in the text, and what has been recorded. -/
abbrev Point := Nat × Marks

def Rounds (round : Point → Point → Prop) : Nat → Point → Point → Prop
  | 0 => Eq
  | count + 1 => Comp round (Rounds round count)

private theorem rounds_add (round : Point → Point → Prop) (first second : Nat) :
    Rounds round (first + second) = Comp (Rounds round first) (Rounds round second) := by
  induction first with
  | zero => rw [Nat.zero_add, Rounds, eq_comp]
  | succ first ih => rw [Nat.add_right_comm, Rounds, Rounds, ih, comp_assoc]

private theorem rounds_one (round : Point → Point → Prop) : Rounds round 1 = round := by
  rw [Rounds, Rounds, comp_eq]

/-- Where a match can be after it has passed an expression. -/
def Expr.Crosses (text : List Char) : Expr → Point → Point → Prop
  | empty, start, stop => start = stop
  | literal chars, start, stop =>
    chars <+: text.drop start.1 ∧ stop = (start.1 + chars.length, start.2)
  | one set, start, stop =>
    (∃ c, text[start.1]? = some c ∧ set.contains c = true) ∧ stop = (start.1 + 1, start.2)
  | look condition, start, stop =>
    condition.holds (placeAt text start.1).before (placeAt text start.1).after = true ∧ start = stop
  | group index _ body, start, stop =>
    ∃ inner : Point, Crosses text body (start.1, (2 * index, start.1) :: start.2) inner ∧
      stop = (inner.1, (2 * index + 1, inner.1) :: inner.2)
  | repeated least most _ body, start, stop =>
    ∃ count, least ≤ count ∧ (∀ limit ∈ most, count - least ≤ limit - least) ∧
      Rounds (Crosses text body) count start stop
  | seq first second, start, stop => Comp (Crosses text first) (Crosses text second) start stop
  | alt first second, start, stop => Crosses text first start stop ∨ Crosses text second start stop

/-! ### Walks by their length -/

def Instruction.Goes (text : List Char) : Instruction → Point → Nat → Point → Prop
  | jump next, start, target, stop => target = next ∧ start = stop
  | read set next, start, target, stop =>
    target = next ∧ (∃ c, text[start.1]? = some c ∧ set.contains c = true) ∧
      stop = (start.1 + 1, start.2)
  | check condition next, start, target, stop =>
    target = next ∧
      condition.holds (placeAt text start.1).before (placeAt text start.1).after = true ∧ start = stop
  | mark slot next, start, target, stop =>
    target = next ∧ stop = (start.1, (slot, start.1) :: start.2)
  | split first second, start, target, stop => (target = first ∨ target = second) ∧ start = stop
  | accept, _, _, _ => False

namespace Program

variable {program : Program} {text : List Char} {here next : Nat} {start stop : Point}

abbrev standing (address : Nat) (point : Point) : Nat × Thread := (point.1, ⟨address, point.2⟩)

private theorem step_iff {instruction : Instruction} (found : program[here]? = some instruction) :
    Step program text (standing here start) (standing next stop) ↔
      instruction.Goes text start next stop := by
  obtain ⟨position, marks⟩ := start
  obtain ⟨later, after⟩ := stop
  constructor
  · intro step
    cases step with
    | read same present contained =>
      cases found.symm.trans same
      exact ⟨rfl, ⟨_, present, contained⟩, rfl⟩
    | move member =>
      cases instruction with
      | jump target => simpa [moves, found, Instruction.Goes, eq_comm] using member
      | read set target => simp [moves, found] at member
      | check condition target =>
        simp only [moves, found] at member
        split at member
        next met => simpa [Instruction.Goes, met, eq_comm] using member
        next => cases member
      | mark slot target => simpa [moves, found, placeAt, Instruction.Goes] using member
      | split first second =>
        simp only [moves, found, List.mem_cons, Thread.mk.injEq, List.not_mem_nil, or_false] at member
        rcases member with ⟨rfl, rfl⟩ | ⟨rfl, rfl⟩ <;> simp [Instruction.Goes]
      | accept => simp [moves, found] at member
  · intro goes
    cases instruction with
    | jump target =>
      obtain ⟨rfl, same⟩ := goes
      cases same
      exact .move (by simp [moves, found])
    | read set target =>
      obtain ⟨rfl, ⟨c, present, contained⟩, same⟩ := goes
      cases same
      exact .read found present contained
    | check condition target =>
      obtain ⟨rfl, met, same⟩ := goes
      cases same
      exact .move (by simp_all [moves])
    | mark slot target =>
      obtain ⟨rfl, same⟩ := goes
      cases same
      exact .move (by simp [moves, found, placeAt])
    | split first second =>
      obtain ⟨target, same⟩ := goes
      cases same
      exact .move (by simp [moves, found, target])
    | accept => cases goes

inductive WalkOf (program : Program) (text : List Char) (final : Nat × Thread) :
    Nat → Nat × Thread → Prop where
  | done : WalkOf program text final 0 final
  | step {state later : Nat × Thread} {count : Nat} (first : Step program text state later)
      (rest : WalkOf program text final count later) : WalkOf program text final (count + 1) state

variable {state final : Nat × Thread} {count : Nat}

private theorem walkOf_of_walk (walk : Walk program text state final) :
    ∃ count, WalkOf program text final count state := by
  induction walk using ReflTransGen.head_induction_on with
  | refl => exact ⟨0, .done⟩
  | head step _ ih =>
    obtain ⟨count, rest⟩ := ih
    exact ⟨count + 1, .step step rest⟩

theorem WalkOf.goes (walk : WalkOf program text final count (standing here start))
    (accepts : program[final.2.address]? = some .accept) {instruction : Instruction}
    (found : program[here]? = some instruction) (going : instruction ≠ .accept) :
    ∃ shorter target stop, shorter + 1 = count ∧ instruction.Goes text start target stop ∧
      WalkOf program text final shorter (standing target stop) := by
  cases walk with
  | done => exact absurd (Option.some.inj (found.symm.trans accepts)) going
  | @step _ later shorter first rest =>
    obtain ⟨position, address, marks⟩ := later
    exact ⟨shorter, address, (position, marks), rfl, (step_iff found).mp first, rest⟩

/-! ### Blocks and what they mean -/

/-- A block does what the relation says: walks lead through it from one point to another
exactly if these are related, and take at least a step for it. -/
structure Block.Means (text : List Char) (block : Block) (size : Nat)
    (relation : Point → Point → Prop) : Prop where
  length : ∀ here next, (block here next).length = size
  enters : ∀ {program : Program} {here next : Nat} {start stop : Point},
    Holds program here (block here next) → relation start stop →
      Walk program text (standing here start) (standing next stop)
  leaves : ∀ {program : Program} {here next count : Nat} {start : Point} {final : Nat × Thread},
    Holds program here (block here next) → program[final.2.address]? = some .accept →
      WalkOf program text final count (standing here start) →
      ∃ shorter < count, ∃ stop, relation start stop ∧
        WalkOf program text final shorter (standing next stop)

variable {block other : Block} {size otherSize : Nat} {relation later : Point → Point → Prop}

theorem Block.Means.congr (means : Block.Means text block size relation)
    (same : ∀ start stop, relation start stop ↔ later start stop) :
    Block.Means text block size later := by
  rwa [show later = relation from funext₂ fun start stop => propext (same start stop).symm]

private theorem means_single {make : Nat → Instruction} (going : ∀ next, make next ≠ .accept)
    (goes : ∀ next start target stop,
      (make next).Goes text start target stop ↔ target = next ∧ relation start stop) :
    Block.Means text (fun _ next => [make next]) 1 relation where
  length _ _ := rfl
  enters holds related := .single ((step_iff holds.head).mpr ((goes _ _ _ _).mpr ⟨rfl, related⟩))
  leaves holds accepts walk := by
    obtain ⟨shorter, target, stop, rfl, went, rest⟩ := walk.goes accepts holds.head (going _)
    obtain ⟨rfl, related⟩ := (goes _ _ _ _).mp went
    exact ⟨shorter, Nat.lt_succ_self _, stop, related, rest⟩

private theorem means_jump : Block.Means text (fun _ next => [.jump next]) 1 Eq :=
  means_single (by simp) fun _ _ _ _ => Iff.rfl

private theorem means_read (set : CharSet) :
    Block.Means text (fun _ next => [.read set next]) 1 (Expr.Crosses text (.one set)) :=
  means_single (by simp) fun _ _ _ _ => Iff.rfl

private theorem means_mark (slot : Nat) :
    Block.Means text (fun _ next => [.mark slot next]) 1
      fun start stop => stop = (start.1, (slot, start.1) :: start.2) :=
  means_single (by simp) fun _ _ _ _ => Iff.rfl

private theorem means_append (first : Block.Means text block size relation)
    (second : Block.Means text other otherSize later) :
    Block.Means text (fun here next => block here (here + size) ++ other (here + size) next)
      (size + otherSize) (Comp relation later) where
  length here next := by rw [List.length_append, first.length, second.length]
  enters holds := by
    rintro ⟨middle, related, relatedToo⟩
    have last := holds.right
    rw [first.length] at last
    exact (first.enters holds.left related).trans (second.enters last relatedToo)
  leaves holds accepts walk := by
    obtain ⟨between, less, middle, related, rest⟩ := first.leaves holds.left accepts walk
    have last := holds.right
    rw [first.length] at last
    obtain ⟨shorter, fewer, stop, relatedToo, remaining⟩ := second.leaves last accepts rest
    exact ⟨shorter, Nat.lt_trans fewer less, stop, ⟨middle, related, relatedToo⟩, remaining⟩

private theorem goes_fork {isLazy : Bool} {round done target : Nat} :
    (fork isLazy round done).Goes text start target stop ↔
      (target = round ∨ target = done) ∧ start = stop := by
  cases isLazy
  · exact Iff.rfl
  · exact and_congr_left' or_comm

private theorem fork_ne_accept {isLazy : Bool} {round done : Nat} :
    fork isLazy round done ≠ .accept := by
  cases isLazy <;> simp [fork]

theorem Holds.fork_walk {isLazy : Bool} {round done target : Nat} {code : List Instruction}
    (holds : Holds program here (fork isLazy round done :: code))
    (way : target = round ∨ target = done) (start : Point) :
    Walk program text (standing here start) (standing target start) :=
  .single ((step_iff holds.head).mpr (goes_fork.mpr ⟨way, rfl⟩))

theorem WalkOf.fork {isLazy : Bool} {round done : Nat} {code : List Instruction}
    (walk : WalkOf program text final count (standing here start))
    (accepts : program[final.2.address]? = some .accept)
    (holds : Holds program here (Program.fork isLazy round done :: code)) :
    ∃ shorter, shorter + 1 = count ∧ (WalkOf program text final shorter (standing round start) ∨
      WalkOf program text final shorter (standing done start)) := by
  obtain ⟨shorter, target, stop, same, went, rest⟩ := walk.goes accepts holds.head fork_ne_accept
  obtain ⟨way, rfl⟩ := goes_fork.mp went
  refine ⟨shorter, same, ?_⟩
  rcases way with rfl | rfl
  · exact .inl rest
  · exact .inr rest

private theorem means_fork (isLazy : Bool) (means : Block.Means text block size relation) :
    Block.Means text (fun here next => fork isLazy (here + 1) next :: block (here + 1) next)
      (size + 1) fun start stop => start = stop ∨ relation start stop where
  length here next := by rw [List.length_cons, means.length]
  enters holds := by
    rintro (rfl | related)
    · exact holds.fork_walk (.inr rfl) _
    · exact (holds.fork_walk (.inl rfl) _).trans (means.enters holds.tail related)
  leaves {program here next count start final} holds accepts walk := by
    obtain ⟨shorter, rfl, inside | outside⟩ := walk.fork accepts holds
    · obtain ⟨fewer, less, stop, related, rest⟩ := means.leaves holds.tail accepts inside
      exact ⟨fewer, by omega, stop, .inr related, rest⟩
    · exact ⟨shorter, Nat.lt_succ_self _, start, .inl rfl, outside⟩

private theorem means_exactly (means : Block.Means text block size relation) (rounds : Nat) :
    Block.Means text (exactly block size rounds) (rounds * size + 1) (Rounds relation rounds) := by
  induction rounds with
  | zero =>
    rw [Nat.zero_mul]
    exact means_jump
  | succ rounds ih =>
    rw [show (rounds + 1) * size + 1 = size + (rounds * size + 1) by rw [Nat.succ_mul]; omega]
    exact means_append means ih

private theorem means_atMost (isLazy : Bool) (means : Block.Means text block size relation)
    (rounds : Nat) :
    Block.Means text (atMost isLazy block size rounds) (rounds * (size + 1) + 1)
      fun start stop => ∃ count ≤ rounds, Rounds relation count start stop := by
  induction rounds with
  | zero =>
    rw [Nat.zero_mul]
    exact means_jump.congr fun start stop => ⟨fun same => ⟨0, Nat.le_refl _, same⟩, by
      rintro ⟨count, none, same⟩
      rwa [Nat.le_zero.mp none] at same⟩
  | succ rounds ih =>
    rw [show (rounds + 1) * (size + 1) + 1 = size + (rounds * (size + 1) + 1) + 1 by
      rw [Nat.succ_mul]; omega]
    refine (means_fork isLazy (means_append means ih)).congr fun start stop => ⟨?_, ?_⟩
    · rintro (same | ⟨middle, related, count, fewer, rest⟩)
      · exact ⟨0, Nat.zero_le _, same⟩
      · exact ⟨count + 1, Nat.succ_le_succ fewer, middle, related, rest⟩
    · rintro ⟨count, fewer, related⟩
      cases count with
      | zero => exact .inl related
      | succ count =>
        obtain ⟨middle, related, rest⟩ := related
        exact .inr ⟨middle, related, count, Nat.le_of_succ_le_succ fewer, rest⟩

private theorem means_oneOrMore (isLazy : Bool) (means : Block.Means text block size relation) :
    Block.Means text (oneOrMore isLazy block size) (size + 1)
      fun start stop => ∃ count, 0 < count ∧ Rounds relation count start stop where
  length here next := by rw [oneOrMore, List.length_append, means.length, List.length_singleton]
  enters {program here next start stop} holds := by
    rintro ⟨count, positive, related⟩
    obtain ⟨count, rfl⟩ := Nat.exists_eq_add_one.mpr positive
    have last := holds.right
    rw [means.length] at last
    clear positive
    induction count generalizing start with
    | zero =>
      rw [rounds_one] at related
      exact (means.enters holds.left related).trans (last.fork_walk (.inr rfl) _)
    | succ count ih =>
      obtain ⟨middle, related, rest⟩ := related
      exact ((means.enters holds.left related).trans (last.fork_walk (.inl rfl) _)).trans (ih rest)
  leaves {program here next count start final} holds accepts walk := by
    have last := holds.right
    rw [means.length] at last
    induction count using Nat.strongRecOn generalizing start with
    | ind count ih =>
      obtain ⟨between, less, middle, related, rest⟩ := means.leaves holds.left accepts walk
      obtain ⟨shorter, rfl, again | outside⟩ := rest.fork accepts last
      · obtain ⟨fewer, few, stop, ⟨rounds, _, more⟩, remaining⟩ := ih shorter (by omega) again
        exact ⟨fewer, by omega, stop, ⟨rounds + 1, Nat.succ_pos _, middle, related, more⟩, remaining⟩
      · exact ⟨shorter, by omega, middle, ⟨1, Nat.one_pos, by rwa [rounds_one]⟩, outside⟩

private theorem means_zeroOrMore (isLazy consumes : Bool)
    (means : Block.Means text block size relation) :
    Block.Means text (zeroOrMore isLazy consumes block size)
      (if consumes then size + 1 else size + 2)
      fun start stop => ∃ count, Rounds relation count start stop := by
  cases consumes with
  | false =>
    refine (means_fork isLazy (means_oneOrMore isLazy means)).congr fun start stop => ⟨?_, ?_⟩
    · rintro (same | ⟨count, _, related⟩)
      · exact ⟨0, same⟩
      · exact ⟨count, related⟩
    · rintro ⟨_ | count, related⟩
      · exact .inl related
      · exact .inr ⟨count + 1, Nat.succ_pos _, related⟩
  | true =>
    constructor
    · intro here next
      rw [zeroOrMore, if_pos rfl, List.length_cons, means.length, if_pos rfl]
    · intro program here next start stop holds
      rintro ⟨count, related⟩
      rw [zeroOrMore, if_pos rfl] at holds
      induction count generalizing start with
      | zero =>
        cases related
        exact holds.fork_walk (.inr rfl) _
      | succ count ih =>
        obtain ⟨middle, related, rest⟩ := related
        exact ((holds.fork_walk (.inl rfl) _).trans (means.enters holds.tail related)).trans (ih rest)
    · intro program here next count start final holds accepts walk
      rw [zeroOrMore, if_pos rfl] at holds
      induction count using Nat.strongRecOn generalizing start with
      | ind count ih =>
        obtain ⟨between, rfl, inside | outside⟩ := walk.fork accepts holds
        · obtain ⟨shorter, less, middle, related, rest⟩ := means.leaves holds.tail accepts inside
          obtain ⟨fewer, few, stop, ⟨rounds, more⟩, remaining⟩ := ih shorter (by omega) rest
          exact ⟨fewer, by omega, stop, ⟨rounds + 1, middle, related, more⟩, remaining⟩
        · exact ⟨between, Nat.lt_succ_self _, start, ⟨0, rfl⟩, outside⟩

/-- The rounds that have to be made come first, and after them those that may be made. -/
theorem comp_rounds_iff {first : Nat} {more : Nat → Prop} :
    Comp (Rounds relation first)
        (fun middle stop => ∃ count, more count ∧ Rounds relation count middle stop) start stop ↔
      ∃ count, first ≤ count ∧ more (count - first) ∧ Rounds relation count start stop := by
  constructor
  · rintro ⟨middle, related, count, allowed, rest⟩
    refine ⟨first + count, Nat.le_add_right _ _, by rwa [Nat.add_sub_cancel_left], ?_⟩
    rw [rounds_add]
    exact ⟨middle, related, rest⟩
  · rintro ⟨count, enough, allowed, related⟩
    rw [← Nat.add_sub_cancel' enough, rounds_add] at related
    obtain ⟨middle, related, rest⟩ := related
    exact ⟨middle, related, count - first, allowed, rest⟩

private theorem means_repetition (least : Nat) (most : Option Nat) (isLazy consumes : Bool)
    (means : Block.Means text block size relation) :
    Block.Means text (repetition least most isLazy consumes block size)
      (repetitionSize least most consumes size) fun start stop =>
        ∃ count, least ≤ count ∧ (∀ limit ∈ most, count - least ≤ limit - least) ∧
          Rounds relation count start stop := by
  cases most with
  | some most =>
    refine (means_append (means_exactly means least)
      (means_atMost isLazy means (most - least))).congr fun start stop => ?_
    simp only [comp_rounds_iff, Option.mem_some_iff, forall_eq']
  | none =>
    cases least with
    | zero => exact (means_zeroOrMore isLazy consumes means).congr fun start stop => by simp
    | succ rounds =>
      refine (means_append (means_exactly means rounds)
        (means_oneOrMore isLazy means)).congr fun start stop => ?_
      rw [comp_rounds_iff]
      refine exists_congr fun count => ?_
      simp only [Option.not_mem_none, false_implies, implies_true, true_and, ← and_assoc]
      exact and_congr_left' (by omega)

private theorem means_alternatives (first : Block.Means text block size relation)
    (second : Block.Means text other otherSize later) :
    Block.Means text
      (fun here next => .split (here + 1) (here + 1 + size) ::
        (block (here + 1) next ++ other (here + 1 + size) next))
      (1 + size + otherSize) fun start stop => relation start stop ∨ later start stop where
  length here next := by
    rw [List.length_cons, List.length_append, first.length, second.length]
    omega
  enters holds := by
    have last := holds.tail.right
    rw [first.length] at last
    rintro (related | related)
    · exact .head ((step_iff holds.head).mpr ⟨.inl rfl, rfl⟩) (first.enters holds.tail.left related)
    · exact .head ((step_iff holds.head).mpr ⟨.inr rfl, rfl⟩) (second.enters last related)
  leaves holds accepts walk := by
    have last := holds.tail.right
    rw [first.length] at last
    obtain ⟨between, target, middle, rfl, ⟨way, rfl⟩, rest⟩ := walk.goes accepts holds.head (by simp)
    rcases way with rfl | rfl
    · obtain ⟨shorter, less, stop, related, remaining⟩ :=
        first.leaves holds.tail.left accepts rest
      exact ⟨shorter, Nat.lt_succ_of_lt less, stop, .inl related, remaining⟩
    · obtain ⟨shorter, less, stop, related, remaining⟩ := second.leaves last accepts rest
      exact ⟨shorter, Nat.lt_succ_of_lt less, stop, .inr related, remaining⟩

end Program

namespace Expr

variable {text : List Char}

private theorem means_emitLiteral (chars : List Char) :
    Block.Means text (emitLiteral chars) (chars.length + 1) (Crosses text (literal chars)) := by
  induction chars with
  | nil =>
    refine means_jump.congr fun start stop => ?_
    simp only [Crosses, List.nil_prefix, true_and, List.length_nil, Nat.add_zero]
    exact eq_comm
  | cons c chars ih =>
    rw [List.length_cons, Nat.add_comm chars.length 1, Nat.add_assoc]
    refine (means_append (means_read (CharSet.singleton c)) ih).congr fun start stop => ?_
    constructor
    · rintro ⟨middle, ⟨⟨other, present, contained⟩, rfl⟩, written, rfl⟩
      obtain rfl : other = c := by simpa [CharSet.contains_singleton] using contained
      obtain ⟨bound, equal⟩ := List.getElem?_eq_some_iff.mp present
      refine ⟨?_, by rw [List.length_cons, Nat.add_comm chars.length, Nat.add_assoc]⟩
      rw [List.drop_eq_getElem_cons bound, equal]
      exact List.cons_prefix_cons.mpr ⟨rfl, written⟩
    · rintro ⟨written, rfl⟩
      obtain ⟨rest, whole⟩ := written
      have present : text[start.1]? = some c := by
        rw [← Nat.add_zero start.1, ← List.getElem?_drop, ← whole]
        rfl
      have later : text.drop (start.1 + 1) = chars ++ rest := by
        rw [← List.drop_drop, ← whole]
        rfl
      refine ⟨_, ⟨⟨c, present, by simp [CharSet.contains_singleton]⟩, rfl⟩, ?_, ?_⟩
      · exact later ▸ List.prefix_append chars rest
      · rw [List.length_cons, Nat.add_comm chars.length, Nat.add_assoc]

/-- The walks through the block of an expression are the crossings of the expression. -/
theorem means_emit (expr : Expr) :
    Block.Means text expr.emit expr.size (Crosses text expr) := by
  induction expr with
  | empty => exact means_jump
  | literal chars => exact means_emitLiteral chars
  | one set => exact means_read set
  | look condition => exact means_single (by simp) fun _ _ _ _ => Iff.rfl
  | group index name body ih =>
    rw [size, Nat.add_comm, Nat.add_assoc 1 1, Nat.add_comm 1 body.size]
    refine (means_append (means_mark (2 * index))
      (means_append ih (means_mark (2 * index + 1)))).congr fun start stop => ?_
    constructor
    · rintro ⟨entered, rfl, inner, crossed, rfl⟩
      exact ⟨inner, crossed, rfl⟩
    · rintro ⟨inner, crossed, rfl⟩
      exact ⟨_, rfl, inner, crossed, rfl⟩
  | repeated least most isLazy body ih => exact means_repetition least most isLazy body.consumes ih
  | seq first second firstIh secondIh => exact means_append firstIh secondIh
  | alt first second firstIh secondIh => exact means_alternatives firstIh secondIh

/-- The program of an expression accepts after the walks that cross the expression. -/
theorem accepted_iff {expr : Expr} {marks : Marks} :
    Accepted expr.program text marks ↔ ∃ start ≤ text.length, ∃ stop,
      Crosses text expr (start, [(0, start)]) (stop, marks) := by
  have means : Block.Means text expr.emit expr.size (Crosses text expr) := means_emit expr
  have holds : Holds expr.program 0 (expr.emit 0 expr.size) := ⟨[], [.accept], by simp [program], rfl⟩
  have last : expr.program[expr.size]? = some .accept := by
    simp [program, length_emit]
  constructor
  · rintro ⟨position, address, accepts, start, inside, walk⟩
    obtain ⟨count, counted⟩ := walkOf_of_walk walk
    have counted : WalkOf expr.program text _ count (standing 0 (start, [(0, start)])) := counted
    obtain ⟨_, _, ⟨stop, after⟩, crossed, rest⟩ := means.leaves holds accepts counted
    cases rest with
    | done => exact ⟨start, inside, stop, crossed⟩
    | step first =>
      obtain ⟨instruction, there, target, _⟩ := first.spec
      obtain rfl := Option.some.inj (last.symm.trans there)
      cases target
  · rintro ⟨start, inside, stop, crossed⟩
    exact ⟨stop, expr.size, last, start, inside, means.enters holds crossed⟩

end Expr

end PathRouting.Regex
