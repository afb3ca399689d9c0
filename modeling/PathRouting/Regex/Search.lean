import PathRouting.Regex.Program

/-! Search for the leftmost match of a program, and among those that start there
for the preferred one. All ways through the program advance together, one
character at a time, in order of preference; of two that reach one address at one
position only the preferred one goes on. The work at a position is therefore
bounded by the size of the program. -/

namespace PathRouting.Regex

/-- Positions by slot, latest first. -/
abbrev Marks := List (Nat × Nat)

/-- A way through the program: where it stands, and what it has recorded. -/
structure Thread where
  address : Nat
  marks : Marks
  deriving DecidableEq, Repr

/-- A place in the text: its position and the characters around it. -/
structure Place where
  position : Nat
  before : Option Char
  after : Option Char

namespace Program

/-- Where a thread can go without reading, preferred ways first. -/
def moves (program : Program) (place : Place) (thread : Thread) : List Thread :=
  match program[thread.address]? with
  | some (.jump next) => [⟨next, thread.marks⟩]
  | some (.check condition next) =>
    if condition.holds place.before place.after then [⟨next, thread.marks⟩] else []
  | some (.mark slot next) => [⟨next, (slot, place.position) :: thread.marks⟩]
  | some (.split first second) => [⟨first, thread.marks⟩, ⟨second, thread.marks⟩]
  | _ => []

/-- Whether a thread waits for a character or has found a match. -/
def rests (program : Program) (thread : Thread) : Bool :=
  match program[thread.address]? with
  | some (.read _ _) | some .accept => true
  | _ => false

/-- Follows all threads as far as they get without reading. Threads are taken up
in order of preference, and an address that has been seen is not visited again. -/
def explore (program : Program) (place : Place) :
    Nat → List Thread → Array Bool → List Thread → List Thread
  | 0, _, _, found => found.reverse
  | _, [], _, found => found.reverse
  | fuel + 1, thread :: rest, seen, found =>
    if seen.getD thread.address true then explore program place fuel rest seen found
    else
      explore program place fuel (program.moves place thread ++ rest)
        (seen.setIfInBounds thread.address true)
        (if program.rests thread then thread :: found else found)

/-- The resting threads that the given threads lead to. Every step either drops a
thread or visits a new address and adds at most two threads. -/
def closure (program : Program) (place : Place) (threads : List Thread) : List Thread :=
  program.explore place (threads.length + 2 * program.size + 1) threads
    (Array.replicate program.size false) []

/-- The threads after reading a character, and the marks of a match that ends
before it. A match puts an end to all threads that are less preferred. -/
def advance (program : Program) (after : Option Char) :
    List Thread → List Thread × Option Marks
  | [] => ([], none)
  | thread :: rest =>
    match program[thread.address]? with
    | some .accept => ([], some thread.marks)
    | some (.read set next) =>
      let later := advance program after rest
      match after with
      | some c =>
        if set.contains c then (⟨next, thread.marks⟩ :: later.1, later.2) else later
      | none => later
    | _ => advance program after rest

/-- Runs the threads over the rest of the text. As long as nothing has been found a
match may also start at the present position. -/
def run (program : Program) (position : Nat) (before : Option Char) (threads : List Thread)
    (found : Option Marks) : List Char → Option Marks
  | [] =>
    let started := if found.isNone then threads ++ [⟨0, [(0, position)]⟩] else threads
    let resting := program.closure ⟨position, before, none⟩ started
    (program.advance none resting).2 <|> found
  | c :: rest =>
    let started := if found.isNone then threads ++ [⟨0, [(0, position)]⟩] else threads
    let resting := program.closure ⟨position, before, some c⟩ started
    let (threads, accepted) := program.advance (some c) resting
    let found := accepted <|> found
    if threads.isEmpty && found.isSome then found
    else run program (position + 1) (some c) threads found rest

def find? (program : Program) (text : List Char) : Option Marks :=
  program.run 0 none [] none text

end Program

/-- The text between the two marks of a group, if the group took part. -/
def Marks.text? (marks : Marks) (group : Nat) (text : List Char) : Option (List Char) := do
  let first ← marks.lookup (2 * group)
  let last ← marks.lookup (2 * group + 1)
  return (text.drop first).take (last - first)

end PathRouting.Regex
