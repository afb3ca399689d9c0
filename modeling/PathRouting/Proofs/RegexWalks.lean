import Mathlib.Logic.Relation
import PathRouting.Regex.Search

/-! Walks through a matching program. The search advances many threads together and
drops some of them, but every thread it holds has come by a walk of single steps
from the start of the program, and a match it reports is the end of such a walk. -/

namespace PathRouting.Regex

namespace Program

def placeAt (text : List Char) (position : Nat) : Place where
  position := position
  before := if position = 0 then none else text[position - 1]?
  after := text[position]?

/-- One step of a thread: it moves without reading, or reads the next character. -/
inductive Step (program : Program) (text : List Char) : Nat × Thread → Nat × Thread → Prop where
  | move {position : Nat} {thread next : Thread}
      (member : next ∈ program.moves (placeAt text position) thread) :
      Step program text (position, thread) (position, next)
  | read {position : Nat} {thread : Thread} {set : CharSet} {next : Nat} {c : Char}
      (instruction : program[thread.address]? = some (.read set next))
      (present : text[position]? = some c) (contained : set.contains c = true) :
      Step program text (position, thread) (position + 1, ⟨next, thread.marks⟩)

abbrev Walk (program : Program) (text : List Char) : Nat × Thread → Nat × Thread → Prop :=
  Relation.ReflTransGen (Step program text)

/-- A thread that has come by a walk from the start of the program. -/
def Reached (program : Program) (text : List Char) (position : Nat) (thread : Thread) : Prop :=
  ∃ start ≤ text.length, Walk program text (start, ⟨0, [(0, start)]⟩) (position, thread)

variable {program : Program} {text : List Char} {position : Nat}

theorem Reached.step {thread next : Thread} {later : Nat}
    (reached : Reached program text position thread)
    (step : Step program text (position, thread) (later, next)) :
    Reached program text later next := by
  obtain ⟨start, inside, walk⟩ := reached
  exact ⟨start, inside, walk.tail step⟩

private theorem explore_reached {fuel : Nat} {threads : List Thread} {seen : Array Bool}
    {found : List Thread} (waiting : ∀ thread ∈ threads, Reached program text position thread)
    (known : ∀ thread ∈ found, Reached program text position thread) :
    ∀ thread ∈ program.explore (placeAt text position) fuel threads seen found,
      Reached program text position thread := by
  induction fuel generalizing threads seen found with
  | zero => simpa [explore] using known
  | succ fuel ih =>
    cases threads with
    | nil => simpa [explore] using known
    | cons thread rest =>
      have others : ∀ other ∈ rest, Reached program text position other :=
        fun other member => waiting other (List.mem_cons_of_mem _ member)
      rw [explore]
      split
      · exact ih others known
      · apply ih
        · intro next member
          rcases List.mem_append.mp member with moved | old
          · exact (waiting thread List.mem_cons_self).step (.move moved)
          · exact others next old
        · split
          · intro next member
            rcases List.mem_cons.mp member with rfl | old
            · exact waiting next List.mem_cons_self
            · exact known next old
          · exact known

private theorem closure_reached {threads : List Thread}
    (waiting : ∀ thread ∈ threads, Reached program text position thread) :
    ∀ thread ∈ program.closure (placeAt text position) threads,
      Reached program text position thread :=
  explore_reached waiting (by simp)

def Accepted (program : Program) (text : List Char) (marks : Marks) : Prop :=
  ∃ position address, program[address]? = some .accept ∧
    Reached program text position ⟨address, marks⟩

private theorem advance_reached {threads : List Thread}
    (resting : ∀ thread ∈ threads, Reached program text position thread) :
    (∀ thread ∈ (program.advance text[position]? threads).1,
      Reached program text (position + 1) thread) ∧
    ∀ marks, (program.advance text[position]? threads).2 = some marks →
      Accepted program text marks := by
  induction threads with
  | nil => simp [advance]
  | cons thread rest ih =>
    obtain ⟨moved, ended⟩ := ih fun other member => resting other (List.mem_cons_of_mem _ member)
    have here := resting thread List.mem_cons_self
    rw [advance]
    split
    next accepts =>
      refine ⟨by simp, fun marks equal => ?_⟩
      cases equal
      exact ⟨position, thread.address, accepts, here⟩
    next set next reads =>
      cases present : text[position]? with
      | none =>
        rw [present] at moved ended
        exact ⟨moved, ended⟩
      | some c =>
        rw [present] at moved ended
        simp only
        split
        next contained =>
          refine ⟨fun other member => ?_, ended⟩
          rcases List.mem_cons.mp member with rfl | old
          · exact here.step (.read reads present contained)
          · exact moved other old
        next => exact ⟨moved, ended⟩
    next => exact ⟨moved, ended⟩

theorem placeAt_append (before rest : List Char) :
    placeAt (before ++ rest) before.length = ⟨before.length, before.getLast?, rest.head?⟩ := by
  have after : (before ++ rest)[before.length]? = rest.head? := by
    rw [List.getElem?_append_right (Nat.le_refl _), Nat.sub_self, List.head?_eq_getElem?]
  rw [placeAt, after]
  split
  next empty => rw [List.length_eq_zero_iff.mp empty]; rfl
  next => rw [List.getElem?_append_left (by omega), List.getLast?_eq_getElem?]

private theorem started_reached {threads : List Thread} (found : Option Marks)
    (inside : position ≤ text.length)
    (waiting : ∀ thread ∈ threads, Reached program text position thread) :
    ∀ thread ∈ (if found.isNone then threads ++ [⟨0, [(0, position)]⟩] else threads),
      Reached program text position thread := by
  intro thread member
  split at member
  · rcases List.mem_append.mp member with old | new
    · exact waiting thread old
    · rw [List.mem_singleton.mp new]
      exact ⟨position, inside, .refl⟩
  · exact waiting thread member

private theorem accepted_orElse {first second : Option Marks}
    (new : ∀ marks, first = some marks → Accepted program text marks)
    (old : ∀ marks, second = some marks → Accepted program text marks) :
    ∀ marks, (first <|> second) = some marks → Accepted program text marks := by
  intro marks equal
  cases first with
  | none => exact old marks equal
  | some found => exact new marks equal

private theorem run_accepted {before rest : List Char} {threads : List Thread} {found : Option Marks}
    (waiting : ∀ thread ∈ threads, Reached program (before ++ rest) before.length thread)
    (known : ∀ marks, found = some marks → Accepted program (before ++ rest) marks) :
    ∀ marks, program.run before.length before.getLast? threads found rest = some marks →
      Accepted program (before ++ rest) marks := by
  induction rest generalizing before threads found with
  | nil =>
    have started := started_reached found (by simp) waiting
    have ended := (advance_reached (closure_reached started)).2
    have present : (before ++ [])[before.length]? = none := by simp
    rw [placeAt_append, present] at ended
    exact accepted_orElse ended known
  | cons c rest ih =>
    have started := started_reached found (by simp) waiting
    obtain ⟨moved, ended⟩ := advance_reached (closure_reached started)
    have present : (before ++ c :: rest)[before.length]? = some c := by simp
    rw [placeAt_append, present] at moved ended
    have accepted := accepted_orElse ended known
    intro marks result
    simp only [run] at result
    generalize (if found.isNone then threads ++ [⟨0, [(0, before.length)]⟩] else threads) = all
      at moved accepted result
    split at result
    · exact accepted marks result
    · have whole : before ++ c :: rest = before ++ [c] ++ rest := by simp
      have further := @ih (before ++ [c])
      rw [← whole, List.length_append, List.length_singleton, List.getLast?_concat] at further
      exact further moved accepted marks result

/-- A match that is found is the end of a walk. -/
theorem find?_accepted {marks : Marks} (found : program.find? text = some marks) :
    Accepted program text marks := by
  have accepted := @run_accepted program [] text [] none (by simp) (by simp)
  exact accepted marks found

end Program

end PathRouting.Regex
