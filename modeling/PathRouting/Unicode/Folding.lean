import PathRouting.Unicode.CaseGroup
import PathRouting.Unicode.Ranges

/-! Sets of characters closed under case: a character brings along all that have
the same simple case folding. -/

namespace PathRouting.Unicode

/-- The groups of characters that differ in case only, as code points. -/
def caseGroups : List (List Nat) :=
  foldGroups.flatMap fun row =>
    (splitAt ' ' row.toList).map fun group => (splitAt '-' group).filterMap Text.hexNumber?

/-- The characters that differ from the given one in case only, itself among them. -/
def sameCase (c : Char) : List Nat :=
  (caseGroups.find? fun group => group.contains c.toNat).getD [c.toNat]

/-- Adds, for every character of a set, those that differ from it in case only. -/
def closeCase (set : CharSet) : CharSet :=
  caseGroups.foldl (fun closed group =>
    if group.any set.hasCode then group.foldl (fun closed code => closed.insert code code) closed
    else closed) set

/-- Adds the other case of every ASCII letter of a set. -/
def closeAsciiCase (set : CharSet) : CharSet :=
  (List.range 26).foldl (fun closed i =>
    if set.hasCode (0x41 + i) || set.hasCode (0x61 + i) then
      (closed.insert (0x41 + i) (0x41 + i)).insert (0x61 + i) (0x61 + i)
    else closed) set

end PathRouting.Unicode
