import PathRouting.Proofs.RegexWalks

/-! A search misses no match. The threads that are dropped stand at addresses that other
threads have reached at the same position, and from there on both can go the same ways. So
if any walk leads to a match, the search finds one, though perhaps another one. -/

namespace PathRouting.Regex.Program

variable {program : Program} {text : List Char} {place : Place} {position address : Nat}

/-- From the address, at the position, there is a way to a match. What has been recorded
does not matter. -/
inductive Leads (program : Program) (text : List Char) : Nat → Nat → Prop where
  | accept {position address : Nat} (accepts : program[address]? = some .accept) :
      Leads program text position address
  | move {position : Nat} {thread next : Thread}
      (member : next ∈ program.moves (placeAt text position) thread)
      (rest : Leads program text position next.address) : Leads program text position thread.address
  | read {position address next : Nat} {set : CharSet} {c : Char}
      (reads : program[address]? = some (.read set next)) (present : text[position]? = some c)
      (contained : set.contains c = true) (rest : Leads program text (position + 1) next) :
      Leads program text position address

private theorem leads_of_walk {state final : Nat × Thread} (walk : Walk program text state final)
    (accepts : program[final.2.address]? = some .accept) :
    Leads program text state.1 state.2.address := by
  induction walk using Relation.ReflTransGen.head_induction_on with
  | refl => exact .accept accepts
  | head step _ ih =>
    cases step with
    | move member => exact .move member ih
    | read reads present contained => exact .read reads present contained ih

def Ready (program : Program) (text : List Char) (position : Nat) (thread : Thread) : Prop :=
  program[thread.address]? = some .accept ∨
    ∃ set next c, program[thread.address]? = some (.read set next) ∧ text[position]? = some c ∧
      set.contains c = true ∧ Leads program text (position + 1) next

/-! ### The closure of threads -/

private theorem moves_address (program : Program) (place : Place) {thread other : Thread}
    (same : thread.address = other.address) :
    (program.moves place thread).map Thread.address =
      (program.moves place other).map Thread.address := by
  simp only [moves, same]
  cases program[other.address]? with
  | none => rfl
  | some instruction =>
    cases instruction with
    | check condition next =>
      simp only
      split <;> rfl
    | _ => rfl

private theorem length_moves (program : Program) (place : Place) (thread : Thread) :
    (program.moves place thread).length ≤ 2 := by
  unfold moves
  split
  · simp
  · split <;> simp
  all_goals simp

/-- An exploration has not lost anything: what it has seen leads to what it has seen or to
what still waits, and what it has seen at rest it has found. -/
structure Covers (program : Program) (place : Place) (threads : List Thread) (seen : Array Bool)
    (found : List Thread) : Prop where
  moves : ∀ thread next : Thread, seen.getD thread.address true = true →
    next ∈ program.moves place thread →
    seen.getD next.address true = true ∨ ∃ waiting ∈ threads, waiting.address = next.address
  rests : ∀ thread : Thread, seen.getD thread.address true = true → program.rests thread = true →
    ∃ known ∈ found, known.address = thread.address

private theorem getD_setIfInBounds (seen : Array Bool) (here there : Nat) :
    (seen.setIfInBounds here true).getD there true = true ↔
      here = there ∨ seen.getD there true = true := by
  by_cases same : here = there
  · subst same
    by_cases bound : here < seen.size <;> simp [Array.getD, bound]
  · by_cases bound : there < seen.size <;>
      simp [Array.getD, bound, same]

def unseen (seen : Array Bool) : Nat := seen.count false

private theorem unseen_setIfInBounds {seen : Array Bool} (new : seen.getD address true = false) :
    unseen (seen.setIfInBounds address true) + 1 = unseen seen := by
  have bound : address < seen.size := by
    apply Decidable.byContradiction
    intro outside
    simp [Array.getD, outside] at new
  have here : seen[address] = false := by simpa [Array.getD, bound] using new
  have positive : 0 < seen.count false := Array.count_pos_iff.mpr (here ▸ Array.getElem_mem bound)
  rw [unseen, Array.setIfInBounds_def, dif_pos bound, Array.count_set, here, unseen]
  simp only [beq_self_eq_true, if_true, Bool.true_beq, Bool.false_eq_true, if_false]
  omega

theorem Covers.drop {thread : Thread} {rest found : List Thread} {seen : Array Bool}
    (covers : Covers program place (thread :: rest) seen found)
    (old : seen.getD thread.address true = true) : Covers program place rest seen found := by
  refine ⟨fun other next known member => ?_, covers.rests⟩
  rcases covers.moves other next known member with seenNext | ⟨waiting, inside, same⟩
  · exact .inl seenNext
  · rcases List.mem_cons.mp inside with rfl | later
    · exact .inl (same ▸ old)
    · exact .inr ⟨waiting, later, same⟩

/-- A thread can be replaced by its moves, if it is kept where it rests. -/
theorem Covers.visit {thread : Thread} {rest found : List Thread} {seen : Array Bool}
    (covers : Covers program place (thread :: rest) seen found) :
    Covers program place (program.moves place thread ++ rest)
      (seen.setIfInBounds thread.address true)
      (if program.rests thread then thread :: found else found) := by
  constructor
  · intro other next known member
    rw [getD_setIfInBounds] at known ⊢
    rcases known with here | known
    · have inside : next.address ∈ (program.moves place thread).map Thread.address := by
        rw [moves_address program place here]
        exact List.mem_map_of_mem member
      obtain ⟨waiting, front, same⟩ := List.mem_map.mp inside
      exact .inr ⟨waiting, List.mem_append_left _ front, same⟩
    · rcases covers.moves other next known member with seenNext | ⟨waiting, inside, same⟩
      · exact .inl (.inr seenNext)
      · rcases List.mem_cons.mp inside with rfl | later
        · exact .inl (.inl same)
        · exact .inr ⟨waiting, List.mem_append_right _ later, same⟩
  · intro other known resting
    rw [getD_setIfInBounds] at known
    rcases known with here | known
    · have same : program.rests thread = true := by
        simpa only [Program.rests, here] using resting
      exact ⟨thread, by simp [same], here⟩
    · obtain ⟨old, member, same⟩ := covers.rests other known resting
      refine ⟨old, ?_, same⟩
      split
      · exact List.mem_cons_of_mem _ member
      · exact member

/-- With enough fuel an exploration ends with nothing waiting, and all that waited seen. -/
theorem explore_covers {fuel : Nat} {threads found : List Thread} {seen : Array Bool}
    (enough : threads.length + 2 * unseen seen < fuel)
    (covers : Covers program place threads seen found) :
    ∃ all : Array Bool, (∀ here, seen.getD here true = true → all.getD here true = true) ∧
      (∀ thread ∈ threads, all.getD thread.address true = true) ∧
      Covers program place [] all (program.explore place fuel threads seen found) := by
  induction fuel generalizing threads seen found with
  | zero => omega
  | succ fuel ih =>
    cases threads with
    | nil =>
      refine ⟨seen, fun _ => id, by simp, covers.moves, fun thread known resting => ?_⟩
      obtain ⟨old, member, same⟩ := covers.rests thread known resting
      exact ⟨old, by simpa [explore] using member, same⟩
    | cons thread rest =>
      rw [explore]
      rw [List.length_cons] at enough
      split
      next old =>
        obtain ⟨all, keeps, waited, final⟩ := ih (by omega) (covers.drop old)
        exact ⟨all, keeps, List.forall_mem_cons.mpr ⟨keeps _ old, waited⟩, final⟩
      next new =>
        -- a visit takes up one address and adds at most two threads
        have fewer := unseen_setIfInBounds (Bool.eq_false_iff.mpr new)
        have few := length_moves program place thread
        obtain ⟨all, keeps, waited, final⟩ := ih (by rw [List.length_append]; omega) covers.visit
        refine ⟨all, fun here known => keeps here ?_, ?_, final⟩
        · exact (getD_setIfInBounds _ _ _).mpr (.inr known)
        · refine List.forall_mem_cons.mpr ⟨keeps _ ((getD_setIfInBounds _ _ _).mpr (.inl rfl)), ?_⟩
          exact fun other member => waited other (List.mem_append_right _ member)

private theorem covers_nothing (program : Program) (place : Place) (threads : List Thread) :
    Covers program place threads (Array.replicate program.size false) [] := by
  have out : ∀ thread : Thread, (Array.replicate program.size false).getD thread.address true = true →
      program[thread.address]? = none := by
    intro thread known
    rw [Array.getElem?_eq_none_iff]
    apply Nat.le_of_not_lt
    intro bound
    simp [Array.getD, bound] at known
  constructor
  · intro thread next known member
    simp [moves, out thread known] at member
  · intro thread known resting
    simp [Program.rests, out thread known] at resting

private theorem closure_ready {threads : List Thread} {thread : Thread} (member : thread ∈ threads)
    (leads : Leads program text position thread.address) :
    ∃ known ∈ program.closure (placeAt text position) threads, Ready program text position known := by
  have start : threads.length + 2 * unseen (Array.replicate program.size false) <
      threads.length + 2 * program.size + 1 := by
    simp [unseen]
  obtain ⟨all, _, waited, covers⟩ :=
    explore_covers start (covers_nothing program (placeAt text position) threads)
  have seen := waited thread member
  generalize thread.address = address at leads seen
  clear member
  have rested : ∀ thread : Thread, program.rests thread = true →
      all.getD thread.address true = true → Ready program text position thread →
      ∃ known ∈ program.closure (placeAt text position) threads, Ready program text position known := by
    intro thread resting known ready
    obtain ⟨same, inside, equal⟩ := covers.rests thread known resting
    refine ⟨same, inside, ?_⟩
    rwa [Ready, equal]
  induction leads with
  | accept accepts => exact rested ⟨_, []⟩ (by simp [Program.rests, accepts]) seen (.inl accepts)
  | move inside _ ih =>
    obtain known | ⟨_, none, _⟩ := covers.moves _ _ seen inside
    · exact ih covers known rested
    · cases none
  | read reads present contained rest =>
    exact rested ⟨_, []⟩ (by simp [Program.rests, reads]) seen
      (.inr ⟨_, _, _, reads, present, contained, rest⟩)

/-! ### The run over a text -/

private theorem advance_ready {threads : List Thread} {thread : Thread} (member : thread ∈ threads)
    (ready : Ready program text position thread) :
    (program.advance text[position]? threads).2.isSome = true ∨
      (∃ c, text[position]? = some c) ∧
        ∃ next ∈ (program.advance text[position]? threads).1,
          Leads program text (position + 1) next.address := by
  induction threads with
  | nil => cases member
  | cons first rest ih =>
    rw [advance]
    split
    next => exact .inl rfl
    next set next reads =>
      have others := fun inside => ih inside
      cases present : text[position]? with
      | none =>
        rw [present] at others
        rcases List.mem_cons.mp member with rfl | later
        · obtain accepts | ⟨_, _, _, _, here, _⟩ := ready
          · cases reads.symm.trans accepts
          · cases present.symm.trans here
        · exact others later
      | some c =>
        rw [present] at others
        rcases List.mem_cons.mp member with rfl | later
        · obtain accepts | ⟨_, _, _, again, here, contained, leads⟩ := ready
          · cases reads.symm.trans accepts
          · cases reads.symm.trans again
            cases present.symm.trans here
            simp only [contained, if_true]
            exact .inr ⟨⟨c, rfl⟩, _, List.mem_cons_self, leads⟩
        · simp only
          split
          · obtain found | ⟨here, next, inside, leads⟩ := others later
            · exact .inl found
            · exact .inr ⟨here, next, List.mem_cons_of_mem _ inside, leads⟩
          · exact others later
    next noAccept noRead =>
      rcases List.mem_cons.mp member with rfl | later
      · obtain accepts | ⟨_, _, _, reads, _⟩ := ready
        · exact absurd accepts noAccept
        · exact absurd reads (noRead _ _)
      · exact ih later

private theorem orElse_isSome {first second : Option Marks}
    (either : first.isSome = true ∨ second.isSome = true) : (first <|> second).isSome = true := by
  cases first with
  | none => exact either.resolve_left (by simp)
  | some marks => rfl

private theorem run_found {before : Option Char} {threads : List Thread} {found : Option Marks}
    {rest : List Char} (some : found.isSome = true) :
    (program.run position before threads found rest).isSome = true := by
  induction rest generalizing position before threads found with
  | nil => exact orElse_isSome (.inr some)
  | cons c rest ih =>
    simp only [run]
    generalize program.closure _ _ = resting
    split
    · exact orElse_isSome (.inr some)
    · exact ih (orElse_isSome (.inr some))

/-- There is still a way to a match: from one of the threads, or from the start of the
program at the present position or later. -/
def Hopes (program : Program) (text : List Char) (position : Nat) (threads : List Thread) : Prop :=
  (∃ thread ∈ threads, Leads program text position thread.address) ∨
    ∃ start, position ≤ start ∧ start ≤ text.length ∧ Leads program text start 0

/-- Starting a thread at the present position turns every hope into that of a thread, or
into that of a later start. -/
theorem Hopes.started {threads : List Thread} (hopes : Hopes program text position threads) :
    (∃ thread ∈ threads ++ [⟨0, [(0, position)]⟩], Leads program text position thread.address) ∨
      ∃ start, position < start ∧ start ≤ text.length ∧ Leads program text start 0 := by
  obtain ⟨thread, member, leads⟩ | ⟨start, later, inside, leads⟩ := hopes
  · exact .inl ⟨thread, List.mem_append_left _ member, leads⟩
  · rcases Nat.eq_or_lt_of_le later with rfl | later
    · exact .inl ⟨_, List.mem_append_right _ (List.mem_singleton.mpr rfl), leads⟩
    · exact .inr ⟨start, later, inside, leads⟩

private theorem run_hopes {before rest : List Char} {threads : List Thread}
    (hopes : Hopes program (before ++ rest) before.length threads) :
    (program.run before.length before.getLast? threads none rest).isSome = true := by
  induction rest generalizing before threads with
  | nil =>
    simp only [run, Option.isNone_none, if_true]
    apply orElse_isSome
    obtain ⟨thread, member, leads⟩ | ⟨start, later, inside, _⟩ := hopes.started
    · obtain ⟨known, inside, ready⟩ := closure_ready member leads
      have present : (before ++ [])[before.length]? = none := by simp
      have advanced := advance_ready inside ready
      rw [placeAt_append, present] at advanced
      obtain found | ⟨⟨_, impossible⟩, _⟩ := advanced
      · exact .inl found
      · cases impossible
    · rw [List.append_nil] at inside
      exact absurd inside (Nat.not_le_of_lt later)
  | cons c rest ih =>
    have whole : before ++ c :: rest = before ++ [c] ++ rest := by simp
    have further := @ih (before ++ [c])
    rw [← whole, List.length_append, List.length_singleton, List.getLast?_concat] at further
    simp only [run, Option.isNone_none, if_true]
    have advanced := @advance_ready program (before ++ c :: rest) before.length
    have present : (before ++ c :: rest)[before.length]? = some c := by simp
    rw [present] at advanced
    have closed := @closure_ready program (before ++ c :: rest) before.length
      (threads ++ [⟨0, [(0, before.length)]⟩])
    rw [placeAt_append, List.head?_cons] at closed
    generalize program.closure _ _ = resting at closed ⊢
    cases accepted : (program.advance (some c) resting).2 with
    | some marks =>
      split
      · rfl
      · exact run_found rfl
    | none =>
      have nothing : ((none : Option Marks) <|> none) = none := rfl
      simp only [nothing, Option.isSome_none, Bool.and_false, Bool.false_eq_true, if_false]
      apply further
      obtain ⟨thread, member, leads⟩ | ⟨start, later, inside, leads⟩ := hopes.started
      · obtain ⟨known, inside, ready⟩ := closed member leads
        obtain found | ⟨_, next, moved, leads⟩ := advanced inside ready
        · simp [accepted] at found
        · exact .inl ⟨next, moved, leads⟩
      · exact .inr ⟨start, later, inside, leads⟩

/-- A search finds a match exactly if there is one. -/
theorem find?_isSome_iff : (program.find? text).isSome = true ↔ ∃ marks, Accepted program text marks := by
  constructor
  · intro found
    obtain ⟨marks, found⟩ := Option.isSome_iff_exists.mp found
    exact ⟨marks, find?_accepted found⟩
  · rintro ⟨marks, position, address, accepts, start, inside, walk⟩
    exact @run_hopes program [] text []
      (.inr ⟨start, Nat.zero_le _, inside, leads_of_walk walk accepts⟩)

end PathRouting.Regex.Program
