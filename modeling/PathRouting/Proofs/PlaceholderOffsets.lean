import PathRouting.Proofs.CharacterBytes
import PathRouting.Proofs.PlaceholderGrammar

/-! Placeholders by byte offsets. A scanner that goes over the bytes of a route finds exactly
the placeholders of the grammar, as scanning the characters does. It never cuts the route
inside a character, it never closes a brace that is not open, and what stands behind a
placeholder does not count. -/

namespace PathRouting.Placeholder

open Text

/-- What a scan of bytes must not do. -/
inductive Fault where
  /-- The route is to be cut inside a character, outside of it, or backwards. -/
  | misplacedSlice (first last : Nat)
  /-- One brace more is to be closed than is open. -/
  | negativeDepth
  deriving DecidableEq, Repr

def slice (route : String) (first last : Nat) : Except Fault String :=
  match slice? first last route.toList with
  | some text => .ok (String.ofList text)
  | none => .error (.misplacedSlice first last)

def lower : Nat → Except Fault Nat
  | 0 => .error .negativeDepth
  | depth + 1 => .ok depth

def runEnd (test : Char → Bool) (bytes : List UInt8) (offset : Nat) : Nat :=
  offset + ((bytes.drop offset).takeWhile (ascii test)).length

/-- The offset of the closing brace that balances the open ones, in bytes that begin at
`offset`. -/
def closingOffset (depth offset : Nat) : List UInt8 → Except Fault (Option Nat)
  | [] => .ok none
  | byte :: rest =>
    if byte = '{'.toUInt8 then closingOffset (depth + 1) (offset + 1) rest
    else if byte = '}'.toUInt8 then
      if depth = 0 then .ok (some offset)
      else do closingOffset (← lower depth) (offset + 1) rest
    else closingOffset depth (offset + 1) rest

def scanTailAt (route name : String) (offset : Nat) : Except Fault (Option (Placeholder × Nat)) :=
  match (utf8 route)[offset]? with
  | none => .ok none
  | some byte =>
    if byte = '}'.toUInt8 then .ok (some (⟨name, none⟩, offset + 1))
    else if byte = ':'.toUInt8 then do
      match ← closingOffset 0 (offset + 1) ((utf8 route).drop (offset + 1)) with
      | none => return none
      | some last =>
        let pattern ← slice route (offset + 1) last
        return some (⟨name, some (trimmed pattern)⟩, last + 1)
    else .ok none

/-- Reads a placeholder whose opening brace stands at a byte offset: the placeholder and the
offset behind it. -/
def scanAt (route : String) (start : Nat) : Except Fault (Option (Placeholder × Nat)) :=
  let first := runEnd isBlank (utf8 route) (start + 1)
  match (utf8 route)[first]? with
  | none => .ok none
  | some byte =>
    if ascii startsName byte then do
      let last := runEnd continuesName (utf8 route) (first + 1)
      let name ← slice route first last
      scanTailAt route name (runEnd isBlank (utf8 route) last)
    else .ok none

/-! ### The tests of the scanner -/

private theorem narrow_isBlank : Narrow isBlank := by
  intro c blank
  simp only [isBlank, Bool.or_eq_true, decide_eq_true_eq] at blank
  rcases blank with (((rfl | rfl) | rfl) | rfl) | rfl <;> decide

private theorem narrow_continuesName : Narrow continuesName := by
  intro c continues
  simp only [continuesName, isLetter, isDigit, Bool.or_eq_true, Bool.and_eq_true,
    decide_eq_true_eq] at continues
  have below : ∀ {top : Char}, top.toNat < 128 → c ≤ top → c.toNat < 128 :=
    fun small le => Nat.lt_of_le_of_lt le small
  rcases continues with (((⟨_, le⟩ | ⟨_, le⟩) | ⟨_, le⟩) | rfl) | rfl
  · exact below (by decide) le
  · exact below (by decide) le
  · exact below (by decide) le
  · decide
  · decide

private theorem narrow_startsName : Narrow startsName := by
  intro c starts
  refine narrow_continuesName c ?_
  simp only [startsName, continuesName, Bool.or_eq_true] at starts ⊢
  tauto

/-! ### Bytes and characters side by side -/

private theorem slice_eq_ok_iff {route middle : String} {first last : Nat} :
    slice route first last = .ok middle ↔ ∃ before after,
      route.toList = before ++ (middle.toList ++ after) ∧ (bytes before).length = first ∧
        first + (bytes middle.toList).length = last := by
  rw [← slice?_eq_some_iff, slice]
  cases slice? first last route.toList with
  | none => simp
  | some text =>
    rw [Except.ok.injEq, Option.some.injEq, ← String.toList_inj, String.toList_ofList]

private theorem closingOffset_append {code : List UInt8}
    (other : ∀ byte ∈ code, byte ≠ '{'.toUInt8 ∧ byte ≠ '}'.toUInt8) (depth offset : Nat)
    (rest : List UInt8) :
    closingOffset depth offset (code ++ rest) = closingOffset depth (offset + code.length) rest := by
  induction code generalizing offset with
  | nil => rfl
  | cons byte code ih =>
    obtain ⟨⟨opening, closing⟩, later⟩ := List.forall_mem_cons.mp other
    have further : offset + (byte :: code).length = offset + 1 + code.length := by
      rw [List.length_cons]
      omega
    rw [List.cons_append, closingOffset, if_neg opening, if_neg closing, ih later, further]

/-- The closing brace among the bytes is the one among the characters. -/
theorem closingOffset_bytes (depth offset : Nat) (text : List Char) :
    closingOffset depth offset (bytes text) =
      .ok ((closing? depth text).map fun found => offset + (bytes found.1).length) := by
  induction text generalizing depth offset with
  | nil => rfl
  | cons c text ih =>
    have passes : ∀ next, closingOffset next (offset + c.utf8Size) (bytes text) =
        .ok (((closing? next text).map fun found => (c :: found.1, found.2)).map
          fun found => offset + (bytes found.1).length) := by
      intro next
      rw [ih, Option.map_map]
      congr 2
      funext found
      simp only [Function.comp_apply, bytes_cons, List.length_append, String.length_utf8EncodeChar]
      omega
    unfold closing?
    split
    next opens =>
      subst opens
      exact passes (depth + 1)
    next noOpening =>
      split
      next closes =>
        subst closes
        cases depth with
        | zero => rfl
        | succ depth => exact passes depth
      next noClosing =>
        have other : ∀ byte ∈ String.utf8EncodeChar c, byte ≠ '{'.toUInt8 ∧ byte ≠ '}'.toUInt8 :=
          fun byte member => ⟨fun same => noOpening ((eq_toUInt8_iff (by decide) member).mp same),
            fun same => noClosing ((eq_toUInt8_iff (by decide) member).mp same)⟩
        rw [bytes_cons, closingOffset_append other, String.length_utf8EncodeChar]
        exact passes depth

section

variable {route : String} {before rest : List Char} (whole : route.toList = before ++ rest)
include whole

private theorem utf8_eq_append : utf8 route = bytes before ++ bytes rest := by
  rw [utf8_eq_flatMap, whole]
  exact bytes_append before rest

private theorem drop_utf8 : (utf8 route).drop (bytes before).length = bytes rest := by
  rw [utf8_eq_append whole, List.drop_left]

private theorem runEnd_utf8 {test : Char → Bool} (narrow : Narrow test) :
    runEnd test (utf8 route) (bytes before).length =
        (bytes (before ++ rest.takeWhile test)).length ∧
      route.toList = (before ++ rest.takeWhile test) ++ rest.dropWhile test := by
  constructor
  · rw [runEnd, drop_utf8 whole, takeWhile_bytes narrow, bytes_append, List.length_append]
  · rw [whole, List.append_assoc, List.takeWhile_append_dropWhile]

private theorem getElem?_utf8 : (utf8 route)[(bytes before).length]? = (bytes rest).head? := by
  rw [utf8_eq_append whole, List.getElem?_append_right (Nat.le_refl _), Nat.sub_self,
    List.head?_eq_getElem?]

end

private theorem head?_bytes (c : Char) (rest : List Char) :
    ∃ byte ∈ String.utf8EncodeChar c, (bytes (c :: rest)).head? = some byte := by
  obtain ⟨byte, more, code⟩ := List.exists_cons_of_ne_nil (String.utf8EncodeChar_ne_nil (c := c))
  exact ⟨byte, code ▸ List.mem_cons_self, by rw [bytes_cons, code]; rfl⟩

private theorem length_bytes_concat {c : Char} (low : c.toNat < 128) (text : List Char) :
    (bytes (text ++ [c])).length = (bytes text).length + 1 := by
  rw [bytes_append, bytes_cons, utf8EncodeChar_of_low low, bytes_nil, List.append_nil,
    List.length_append, List.length_singleton]

def located (route : String) (found : Placeholder × List Char) : Placeholder × Nat :=
  (found.1, (utf8 route).length - (bytes found.2).length)

private theorem located_eq {route : String} {before after : List Char}
    (whole : route.toList = before ++ after) (found : Placeholder) :
    located route (found, after) = (found, (bytes before).length) := by
  rw [located, utf8_eq_append whole, List.length_append, Nat.add_sub_cancel]

private theorem scanTailAt_eq {route : String} {before rest : List Char}
    (whole : route.toList = before ++ rest) (name : List Char) :
    scanTailAt route (String.ofList name) (bytes before).length =
      .ok ((scanTail? name rest).map (located route)) := by
  rw [scanTailAt, getElem?_utf8 whole]
  cases rest with
  | nil => rfl
  | cons c rest =>
    obtain ⟨byte, member, first⟩ := head?_bytes c rest
    have behind : route.toList = (before ++ [c]) ++ rest := by rw [whole]; simp
    rw [first]
    simp only [eq_toUInt8_iff (d := '}') (by decide) member,
      eq_toUInt8_iff (d := ':') (by decide) member]
    by_cases ends : c = '}'
    · subst ends
      rw [if_pos rfl, scanTail?, Option.map_some, located_eq behind,
        length_bytes_concat (by decide)]
    rw [if_neg ends]
    by_cases opens : c = ':'
    · subst opens
      rw [if_pos rfl, scanTail?, ← length_bytes_concat (c := ':') (by decide), drop_utf8 behind,
        closingOffset_bytes]
      cases closed : closing? 0 rest with
      | none => rfl
      | some found =>
        obtain ⟨inner, after⟩ := found
        obtain ⟨rfl, _⟩ := closing?_eq_some_iff.mp closed
        have cut : slice route (bytes (before ++ [':'])).length
            ((bytes (before ++ [':'])).length + (bytes inner).length) = .ok (String.ofList inner) :=
          slice_eq_ok_iff.mpr ⟨_, '}' :: after, by rw [behind, String.toList_ofList], rfl,
            by rw [String.toList_ofList]⟩
        have split : route.toList = ((before ++ [':'] ++ inner) ++ ['}']) ++ after := by
          rw [behind]
          simp
        have last : (bytes (before ++ [':'])).length + (bytes inner).length + 1 =
            (bytes ((before ++ [':'] ++ inner) ++ ['}'])).length := by
          rw [length_bytes_concat (c := '}') (by decide), bytes_append (before ++ [':']),
            List.length_append]
        simp only [Option.map_some, bind, Except.bind, cut, pure, Except.pure, trimmed,
          String.toList_ofList, located_eq split, last]
    · rw [if_neg opens, scanTail?.eq_3]
      · rfl
      · exact fun rest same => ends (List.cons.inj same).1
      · exact fun rest same => opens (List.cons.inj same).1

/-- Scanning the bytes at an opening brace finds what scanning the characters from there on
finds, and commits no fault. -/
theorem scanAt_eq {route : String} {before rest : List Char}
    (whole : route.toList = before ++ '{' :: rest) :
    scanAt route (bytes before).length = .ok ((scan? ('{' :: rest)).map (located route)) := by
  have brace : route.toList = (before ++ ['{']) ++ rest := by rw [whole]; simp
  obtain ⟨end_, blanks⟩ := runEnd_utf8 brace narrow_isBlank
  rw [scanAt, ← length_bytes_concat (c := '{') (by decide), end_, scan?, scanBody?]
  generalize (before ++ ['{']) ++ rest.takeWhile isBlank = front at blanks
  generalize rest.dropWhile isBlank = body at blanks
  simp only [getElem?_utf8 blanks]
  cases body with
  | nil => rfl
  | cons c later =>
    obtain ⟨byte, member, first⟩ := head?_bytes c later
    rw [first]
    simp only [ascii_of_mem narrow_startsName member]
    cases starts : startsName c with
    | false => rfl
    | true =>
      have begun : route.toList = (front ++ [c]) ++ later := by rw [blanks]; simp
      obtain ⟨nameEnd, named⟩ := runEnd_utf8 begun narrow_continuesName
      obtain ⟨tailStart, spaced⟩ := runEnd_utf8 named narrow_isBlank
      have cut : slice route (bytes front).length
          (bytes ((front ++ [c]) ++ later.takeWhile continuesName)).length =
            .ok (String.ofList (c :: later.takeWhile continuesName)) := by
        refine slice_eq_ok_iff.mpr ⟨front, later.dropWhile continuesName, ?_, rfl, ?_⟩
        · rw [named, String.toList_ofList]
          simp
        · rw [String.toList_ofList, ← List.length_append, ← bytes_append]
          simp
      rw [if_pos rfl, if_pos rfl, ← length_bytes_concat (narrow_startsName c starts), nameEnd,
        tailStart]
      simp only [bind, Except.bind, cut]
      exact scanTailAt_eq spaced _

/-! ### The grammar -/

/-- The scan of bytes finds a placeholder exactly where a slice of the route is its written
form, and gives the end of this slice. -/
theorem scanAt_eq_some_iff {route : String} {before rest : List Char}
    (whole : route.toList = before ++ '{' :: rest) {found : Placeholder} {stop : Nat} :
    scanAt route (bytes before).length = .ok (some (found, stop)) ↔
      ∃ written, slice route (bytes before).length stop = .ok written ∧
        Writes written.toList found := by
  rw [scanAt_eq whole, Except.ok.injEq, Option.map_eq_some_iff]
  constructor
  · rintro ⟨⟨placeholder, after⟩, scanned, same⟩
    obtain ⟨written, writes, split⟩ := scan?_eq_some_iff.mp scanned
    have joined : route.toList = (before ++ written) ++ after := by
      rw [whole, split, List.append_assoc]
    rw [located_eq joined] at same
    cases same
    refine ⟨String.ofList written, slice_eq_ok_iff.mpr ⟨before, after, ?_, rfl, ?_⟩, ?_⟩
    · rw [joined, String.toList_ofList, List.append_assoc]
    · rw [String.toList_ofList, bytes_append, List.length_append]
    · rwa [String.toList_ofList]
  · rintro ⟨written, cut, writes⟩
    obtain ⟨front, after, split, size, rfl⟩ := slice_eq_ok_iff.mp cut
    obtain ⟨rfl, body⟩ := eq_of_length_bytes (whole.symm.trans split) size.symm
    refine ⟨(found, after), scan?_eq_some_iff.mpr ⟨_, writes, body⟩, ?_⟩
    have joined : route.toList = (before ++ written.toList) ++ after := by
      rw [split, List.append_assoc]
    rw [located_eq joined, bytes_append, List.length_append]

/-- A placeholder is found in every text that is the same up to its end. -/
theorem scanAt_of_same_start {route other : String} {before rest : List Char}
    (whole : route.toList = before ++ '{' :: rest) {found : Placeholder} {stop : Nat}
    (scanned : scanAt route (bytes before).length = .ok (some (found, stop)))
    (same : (utf8 other).take stop = (utf8 route).take stop) :
    scanAt other (bytes before).length = .ok (some (found, stop)) := by
  obtain ⟨written, cut, writes⟩ := (scanAt_eq_some_iff whole).mp scanned
  obtain ⟨front, after, split, size, rfl⟩ := slice_eq_ok_iff.mp cut
  obtain ⟨rfl, _⟩ := eq_of_length_bytes (whole.symm.trans split) size.symm
  have begins : bytes (before ++ written.toList) <+: bytes other.toList := by
    have joined : route.toList = (before ++ written.toList) ++ after := by
      rw [split, List.append_assoc]
    rw [← List.length_append, ← bytes_append, utf8_eq_append joined, List.take_left,
      utf8_eq_flatMap] at same
    exact ⟨_, same ▸ List.take_append_drop _ _⟩
  obtain ⟨more, continued⟩ := isPrefix_of_bytes begins
  obtain ⟨inner, brace⟩ := writes.head
  have there : other.toList = before ++ '{' :: (inner ++ more) := by
    rw [← continued, brace, List.append_assoc, List.cons_append]
  refine (scanAt_eq_some_iff there).mpr ⟨written, slice_eq_ok_iff.mpr ⟨before, more, ?_, rfl, rfl⟩, writes⟩
  rw [← continued, List.append_assoc]

/-- Scanning at an opening brace recognises exactly the placeholders of the grammar. For every
route and every byte offset of an opening brace in it: the route is cut between characters
only, and no brace is closed that is not open; a placeholder is found if and only if a slice
of the route that begins there is its written form, and then the end of this slice is given;
there is at most one such slice; the scan of the characters from there on finds the same; and
what is found depends on the route up to the end of the placeholder only. -/
theorem scanAt_recognises (route : String) (start : Nat)
    (opens : (utf8 route)[start]? = some '{'.toUInt8) :
    ∃ result, scanAt route start = .ok result ∧
      (∀ found stop, result = some (found, stop) ↔
        ∃ written, slice route start stop = .ok written ∧ Writes written.toList found) ∧
      (∀ stop other written later found another,
        slice route start stop = .ok written → Writes written.toList found →
        slice route start other = .ok later → Writes later.toList another →
          stop = other ∧ written = later ∧ found = another) ∧
      (∀ before rest, route.toList = before ++ rest → (bytes before).length = start →
        result = (scan? rest).map (located route)) ∧
      ∀ found stop, result = some (found, stop) →
        ∀ other, (utf8 other).take stop = (utf8 route).take stop →
          scanAt other start = .ok (some (found, stop)) := by
  rw [utf8_eq_flatMap] at opens
  obtain ⟨before, rest, whole, rfl⟩ := exists_split_of_byte (by decide) opens
  have ran := scanAt_eq whole
  have finds : ∀ found stop, (scan? ('{' :: rest)).map (located route) = some (found, stop) ↔
      ∃ written, slice route (bytes before).length stop = .ok written ∧
        Writes written.toList found := by
    intro found stop
    rw [← scanAt_eq_some_iff whole, ran, Except.ok.injEq]
  refine ⟨_, ran, finds, ?_, ?_, ?_⟩
  · intro stop other written later found another cut writes cutLater writesLater
    have one := (finds found stop).mpr ⟨written, cut, writes⟩
    have two := (finds another other).mpr ⟨later, cutLater, writesLater⟩
    obtain ⟨rfl, rfl⟩ := Prod.mk.inj (Option.some.inj (one.symm.trans two))
    exact ⟨rfl, Except.ok.inj (cut.symm.trans cutLater), rfl⟩
  · intro front body split size
    obtain ⟨rfl, rfl⟩ := eq_of_length_bytes (split.symm.trans whole) size
    rfl
  · intro found stop scanned other same
    exact scanAt_of_same_start whole (ran.trans (congrArg Except.ok scanned)) same

/-- A placeholder behind a character of two bytes, with a form feed behind its name, such a
character in its braces and a wide blank at its end; and another route that begins alike. -/
theorem scanAt_recognises_spaced :
    let route := "\u00e9\x7b na-1\x0c: \x7b\u00e9\x7d\x7b2\x7d\u00a0\x7d/\u00e9\x7d"
    let other := "\u00e9\x7b na-1\x0c: \x7b\u00e9\x7d\x7b2\x7d\u00a0\x7d"
    let found : Placeholder := ⟨"na-1", some "\x7b\u00e9\x7d\x7b2\x7d"⟩
    (utf8 route)[2]? = some '{'.toUInt8 ∧
    slice route 2 21 = .ok "\x7b na-1\x0c: \x7b\u00e9\x7d\x7b2\x7d\u00a0\x7d" ∧
    scanAt route 2 = .ok (some (found, 21)) ∧ scanAt other 2 = .ok (some (found, 21)) := by
  intro route other found
  have opens : (utf8 route)[2]? = some '{'.toUInt8 := by decide +kernel
  have cut : slice route 2 21 = .ok "\x7b na-1\x0c: \x7b\u00e9\x7d\x7b2\x7d\u00a0\x7d" := by
    decide +kernel
  have balanced : Balanced 0 " \x7b\u00e9\x7d\x7b2\x7d\u00a0".toList :=
    (closing?_eq_some_iff.mp (by decide : closing? 0 " \x7b\u00e9\x7d\x7b2\x7d\u00a0\x7d".toList =
      some (" \x7b\u00e9\x7d\x7b2\x7d\u00a0".toList, []))).2
  have writes : Writes ('{' :: ([' '] ++ ("na-1".toList ++ (['\x0c'] ++
      ':' :: (" \x7b\u00e9\x7d\x7b2\x7d\u00a0".toList ++ ['}']))))) found :=
    .patterned (List.all_eq_true.mp (by decide))
      ⟨'n', "a-1".toList, by decide, by decide, List.all_eq_true.mp (by decide)⟩
      (List.all_eq_true.mp (by decide)) balanced
  obtain ⟨result, ran, finds, _, _, stable⟩ := scanAt_recognises route 2 opens
  have read := (finds found 21).mpr ⟨_, cut, writes⟩
  refine ⟨opens, cut, ran.trans (congrArg Except.ok read), ?_⟩
  exact stable found 21 read other (by decide +kernel)

end PathRouting.Placeholder
