/-! Sets of characters as rows of code point ranges. Rows are kept in ascending
order with a gap between any two ranges, so equal sets have equal rows. -/

namespace PathRouting

/-- A set of characters, as inclusive ranges of code points in ascending order. -/
structure CharSet where
  ranges : List (Nat × Nat)
  deriving DecidableEq, Repr, Inhabited

namespace CharSet

def lastCode : Nat := 0x10ffff

def hasCode (set : CharSet) (code : Nat) : Bool :=
  set.ranges.any fun range => range.1 ≤ code && code ≤ range.2

def contains (set : CharSet) (c : Char) : Bool := set.hasCode c.toNat

def empty : CharSet := ⟨[]⟩

/-- Adds a range to an ascending row, joining it with all that it touches. -/
def insertRange (low high : Nat) : List (Nat × Nat) → List (Nat × Nat)
  | [] => [(low, high)]
  | range :: rest =>
    if high + 1 < range.1 then (low, high) :: range :: rest
    else if range.2 + 1 < low then range :: insertRange low high rest
    else insertRange (min low range.1) (max high range.2) rest

def insert (set : CharSet) (low high : Nat) : CharSet := ⟨insertRange low high set.ranges⟩

/-- The set of the given ranges, in whatever order. -/
def ofRanges (ranges : List (Nat × Nat)) : CharSet :=
  ranges.foldl (fun set range => set.insert range.1 range.2) empty

def singleton (c : Char) : CharSet := ⟨[(c.toNat, c.toNat)]⟩

def interval (first last : Char) : CharSet := ⟨[(first.toNat, last.toNat)]⟩

def full : CharSet := ⟨[(0, lastCode)]⟩

/-- The code points in either row; both are ascending. -/
def mergeRanges : List (Nat × Nat) → List (Nat × Nat) → List (Nat × Nat)
  | [], second => second
  | first, [] => first
  | a :: first, b :: second =>
    if a.1 ≤ b.1 then a :: mergeRanges first (b :: second)
    else b :: mergeRanges (a :: first) second
termination_by first second => first.length + second.length

/-- Joins neighbouring ranges of a row that is ascending by its lower ends. -/
def joinRanges : List (Nat × Nat) → List (Nat × Nat)
  | [] => []
  | [range] => [range]
  | a :: b :: rest =>
    if a.2 + 1 < b.1 then a :: joinRanges (b :: rest)
    else joinRanges ((a.1, max a.2 b.2) :: rest)
termination_by ranges => ranges.length

def union (first second : CharSet) : CharSet :=
  ⟨joinRanges (mergeRanges first.ranges second.ranges)⟩

/-- The code points from `start` on that an ascending row leaves out. -/
def gaps (start : Nat) : List (Nat × Nat) → List (Nat × Nat)
  | [] => if start ≤ lastCode then [(start, lastCode)] else []
  | range :: rest =>
    if start < range.1 then (start, range.1 - 1) :: gaps (range.2 + 1) rest
    else gaps (max start (range.2 + 1)) rest

def complement (set : CharSet) : CharSet := ⟨gaps 0 set.ranges⟩

def inter (first second : CharSet) : CharSet :=
  (first.complement.union second.complement).complement

def diff (first second : CharSet) : CharSet := first.inter second.complement

def symmDiff (first second : CharSet) : CharSet :=
  (first.diff second).union (second.diff first)

/-- The only character of a set that has just one. -/
def only? (set : CharSet) : Option Char :=
  match set.ranges with
  | [(low, high)] => if low = high then some (Char.ofNat low) else none
  | _ => none

theorem contains_singleton (c other : Char) :
    (singleton c).contains other = decide (other = c) := by
  simp only [contains, hasCode, singleton, List.any_cons, List.any_nil, Bool.or_false]
  rw [Bool.eq_iff_iff]
  simp only [Bool.and_eq_true, decide_eq_true_eq]
  constructor
  · intro between
    exact Char.ext (UInt32.toNat_inj.1 (Nat.le_antisymm between.2 between.1))
  · rintro rfl
    exact ⟨Nat.le_refl _, Nat.le_refl _⟩

end CharSet

end PathRouting
