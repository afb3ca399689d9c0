import PathRouting.Regex.Expr

/-! Matching programs. An expression becomes a row of instructions; every part of
the expression takes up one stretch of the row, is entered at its first
instruction and left to a given address. -/

namespace PathRouting.Regex

inductive Instruction where
  | jump (next : Nat)
  | read (set : CharSet) (next : Nat)
  | check (condition : Look) (next : Nat)
  /-- Records the present position in a slot. -/
  | mark (slot next : Nat)
  /-- Goes on in two ways and prefers the first. -/
  | split (first second : Nat)
  | accept
  deriving DecidableEq, Repr, Inhabited

abbrev Program := Array Instruction

namespace Program

/-- The instructions of a part, by its own address and the address after it. -/
abbrev Block := Nat → Nat → List Instruction

/-- Prefers to go on with a round, or without one if the repetition is lazy. -/
def fork (isLazy : Bool) (round done : Nat) : Instruction :=
  if isLazy then .split done round else .split round done

def exactly (block : Block) (size : Nat) : Nat → Block
  | 0, _, next => [.jump next]
  | rounds + 1, here, next =>
    block here (here + size) ++ exactly block size rounds (here + size) next

def atMost (isLazy : Bool) (block : Block) (size : Nat) : Nat → Block
  | 0, _, next => [.jump next]
  | rounds + 1, here, next =>
    fork isLazy (here + 1) next ::
      (block (here + 1) (here + 1 + size) ++
        atMost isLazy block size rounds (here + 1 + size) next)

def oneOrMore (isLazy : Bool) (block : Block) (size : Nat) : Block := fun here next =>
  block here (here + size) ++ [fork isLazy here next]

/-- Any number of rounds. If a round may be empty this is one or more rounds or
none at all, which keeps the order of preference. -/
def zeroOrMore (isLazy consumes : Bool) (block : Block) (size : Nat) : Block := fun here next =>
  if consumes then fork isLazy (here + 1) next :: block (here + 1) here
  else fork isLazy (here + 1) next :: oneOrMore isLazy block size (here + 1) next

/-- The number of instructions of a repetition whose round takes `size`. -/
def repetitionSize (least : Nat) (most : Option Nat) (consumes : Bool) (size : Nat) : Nat :=
  match most with
  | some most => least * size + 1 + ((most - least) * (size + 1) + 1)
  | none =>
    match least with
    | 0 => if consumes then size + 1 else size + 2
    | rounds + 1 => rounds * size + 1 + (size + 1)

def repetition (least : Nat) (most : Option Nat) (isLazy consumes : Bool) (block : Block)
    (size : Nat) : Block := fun here next =>
  match most with
  | some most =>
    let rest := here + (least * size + 1)
    exactly block size least here rest ++ atMost isLazy block size (most - least) rest next
  | none =>
    match least with
    | 0 => zeroOrMore isLazy consumes block size here next
    | rounds + 1 =>
      let last := here + (rounds * size + 1)
      exactly block size rounds here last ++ oneOrMore isLazy block size last next

end Program

namespace Expr

open Program

def size : Expr → Nat
  | empty => 1
  | literal chars => chars.length + 1
  | one _ => 1
  | look _ => 1
  | group _ _ body => body.size + 2
  | repeated least most _ body => repetitionSize least most body.consumes body.size
  | seq first second => first.size + second.size
  | alt first second => 1 + first.size + second.size

/-- Reads the given characters in order. -/
def emitLiteral : List Char → Block
  | [], _, next => [.jump next]
  | c :: rest, here, next =>
    .read (CharSet.singleton c) (here + 1) :: emitLiteral rest (here + 1) next

def emit : Expr → Block
  | empty, _, next => [.jump next]
  | literal chars, here, next => emitLiteral chars here next
  | one set, _, next => [.read set next]
  | look condition, _, next => [.check condition next]
  | group index _ body, here, next =>
    .mark (2 * index) (here + 1) ::
      (body.emit (here + 1) (here + 1 + body.size) ++ [.mark (2 * index + 1) next])
  | repeated least most isLazy body, here, next =>
    repetition least most isLazy body.consumes (fun here next => body.emit here next) body.size
      here next
  | seq first second, here, next =>
    first.emit here (here + first.size) ++ second.emit (here + first.size) next
  | alt first second, here, next =>
    .split (here + 1) (here + 1 + first.size) ::
      (first.emit (here + 1) next ++ second.emit (here + 1 + first.size) next)

/-- The program of an expression; it is entered at address 0. -/
def program (expr : Expr) : Program := (expr.emit 0 expr.size ++ [Instruction.accept]).toArray

end Expr

end PathRouting.Regex
