import PathRouting.Proofs.ByteOrder

/-! Texts and their bytes. A text can be cut at a byte offset only between two characters.
Characters of one byte are found byte by byte, as their bytes are not part of the code of
any other character. -/

namespace PathRouting.Text

def bytes (text : List Char) : List UInt8 := text.flatMap String.utf8EncodeChar

@[simp] theorem bytes_nil : bytes [] = [] := rfl

theorem bytes_cons (c : Char) (text : List Char) :
    bytes (c :: text) = String.utf8EncodeChar c ++ bytes text := rfl

@[simp] theorem bytes_append (first second : List Char) :
    bytes (first ++ second) = bytes first ++ bytes second :=
  List.flatMap_append

/-! ### Cutting -/

/-- The text in front of a byte offset and the text from there on, unless the offset lies
inside a character or outside the text. -/
def cut? : Nat → List Char → Option (List Char × List Char)
  | 0, text => some ([], text)
  | _ + 1, [] => none
  | offset + 1, c :: rest =>
    if c.utf8Size ≤ offset + 1 then
      (cut? (offset + 1 - c.utf8Size) rest).map fun found => (c :: found.1, found.2)
    else none

def slice? (first last : Nat) (text : List Char) : Option (List Char) :=
  if last < first then none
  else (cut? first text).bind fun found => (cut? (last - first) found.2).map Prod.fst

private theorem cut?_eq_some_iff {offset : Nat} {text before after : List Char} :
    cut? offset text = some (before, after) ↔
      text = before ++ after ∧ (bytes before).length = offset := by
  induction text generalizing offset before with
  | nil =>
    cases offset with
    | zero => cases before <;> simp [cut?, bytes_cons]
    | succ offset => cases before <;> simp [cut?]
  | cons c text ih =>
    have positive := c.utf8Size_pos
    cases offset with
    | zero =>
      cases before with
      | nil => simp [cut?]
      | cons d before =>
        have some := d.utf8Size_pos
        simp only [cut?, bytes_cons, List.length_append, String.length_utf8EncodeChar]
        simp
        omega
    | succ offset =>
      cases before with
      | nil =>
        simp only [cut?]
        split <;> simp
      | cons d before =>
        simp only [cut?, bytes_cons, List.length_append, String.length_utf8EncodeChar,
          List.cons_append, List.cons.injEq]
        split
        next fits =>
          simp only [Option.map_eq_some_iff, Prod.exists, Prod.mk.injEq, List.cons.injEq]
          constructor
          · rintro ⟨front, back, found, ⟨rfl, rfl⟩, rfl⟩
            obtain ⟨rfl, size⟩ := ih.mp found
            exact ⟨⟨rfl, rfl⟩, by omega⟩
          · rintro ⟨⟨rfl, rfl⟩, size⟩
            exact ⟨before, after, ih.mpr ⟨rfl, by omega⟩, ⟨rfl, rfl⟩, rfl⟩
        next long =>
          constructor
          · intro none
            cases none
          · rintro ⟨⟨rfl, _⟩, size⟩
            omega

theorem eq_of_length_bytes {before after first rest : List Char}
    (same : before ++ after = first ++ rest) (size : (bytes before).length = (bytes first).length) :
    before = first ∧ after = rest := by
  have cut := cut?_eq_some_iff.mpr ⟨same, size.symm⟩
  rw [cut?_eq_some_iff.mpr ⟨rfl, rfl⟩] at cut
  exact Prod.mk.inj (Option.some.inj cut)

theorem slice?_eq_some_iff {first last : Nat} {text middle : List Char} :
    slice? first last text = some middle ↔ ∃ before after, text = before ++ (middle ++ after) ∧
      (bytes before).length = first ∧ first + (bytes middle).length = last := by
  rw [slice?]
  split
  next behind =>
    constructor
    · intro none
      cases none
    · rintro ⟨_, _, _, _, size⟩
      omega
  next ordered =>
    simp only [Option.bind_eq_some_iff, Option.map_eq_some_iff, Prod.exists, cut?_eq_some_iff]
    constructor
    · rintro ⟨before, rest, ⟨rfl, front⟩, found, after, ⟨rfl, size⟩, rfl⟩
      exact ⟨before, after, rfl, front, by omega⟩
    · rintro ⟨before, after, rfl, front, size⟩
      exact ⟨before, middle ++ after, ⟨rfl, front⟩, middle, after, ⟨rfl, by omega⟩, rfl⟩

/-! ### Characters of one byte -/

theorem utf8EncodeChar_of_low {c : Char} (low : c.toNat < 128) :
    String.utf8EncodeChar c = [c.toUInt8] := by
  have single : c.utf8Size = 1 := by
    rw [Char.utf8Size_eq_one_iff, UInt32.le_iff_toNat_le]
    exact Nat.le_of_lt_succ low
  exact String.utf8EncodeChar_eq_singleton single

private theorem toNat_toUInt8 {c : Char} (low : c.toNat < 128) : c.toUInt8.toNat = c.toNat :=
  Nat.mod_eq_of_lt (Nat.lt_trans low (by decide))

/-- All bytes of a longer character are above those of characters of one byte. -/
theorem high_of_mem {c : Char} (high : 128 ≤ c.toNat) {byte : UInt8}
    (member : byte ∈ String.utf8EncodeChar c) : 128 ≤ byte.toNat := by
  have code : 128 ≤ c.val.toNat := high
  unfold String.utf8EncodeChar at member
  generalize c.val.toNat = n at code member
  have above : ∀ digit, digit < 128 → 128 ≤ (UInt8.ofNat (digit + 128)).toNat := by
    intro digit small
    rw [UInt8.toNat_ofNat', Nat.mod_eq_of_lt (by omega)]
    omega
  simp only at member
  split at member
  · omega
  split at member
  · rcases List.mem_pair.mp member with rfl | rfl
    · exact above (n / 64 % 32 + 64) (by omega)
    · exact above (n % 64) (by omega)
  split at member
  · rcases List.mem_cons.mp member with rfl | later
    · exact above (n / 4096 % 16 + 96) (by omega)
    rcases List.mem_pair.mp later with rfl | rfl
    · exact above (n / 64 % 64) (by omega)
    · exact above (n % 64) (by omega)
  · rcases List.mem_cons.mp member with rfl | later
    · exact above (n / 262144 % 8 + 112) (by omega)
    rcases List.mem_cons.mp later with rfl | later
    · exact above (n / 4096 % 64) (by omega)
    rcases List.mem_pair.mp later with rfl | rfl
    · exact above (n / 64 % 64) (by omega)
    · exact above (n % 64) (by omega)

/-- A byte is that of a character of one byte only where this character stands. -/
theorem eq_toUInt8_iff {c d : Char} (low : d.toNat < 128) {byte : UInt8}
    (member : byte ∈ String.utf8EncodeChar c) : byte = d.toUInt8 ↔ c = d := by
  by_cases short : c.toNat < 128
  · rw [utf8EncodeChar_of_low short] at member
    rw [List.mem_singleton.mp member, ← UInt8.toNat_inj, toNat_toUInt8 short, toNat_toUInt8 low]
    exact Char.toNat_inj
  · have high := high_of_mem (by omega) member
    constructor
    · rintro rfl
      rw [toNat_toUInt8 low] at high
      omega
    · rintro rfl
      exact absurd low short

/-- Whether a byte stands alone for a character that passes a test. -/
def ascii (test : Char → Bool) (byte : UInt8) : Bool := byte < 128 && test (Char.ofUInt8 byte)

def Narrow (test : Char → Bool) : Prop := ∀ c, test c = true → c.toNat < 128

/-- A test that passes characters of one byte only can be made on any byte of a character. -/
theorem ascii_of_mem {test : Char → Bool} (narrow : Narrow test) {c : Char} {byte : UInt8}
    (member : byte ∈ String.utf8EncodeChar c) : ascii test byte = test c := by
  by_cases short : c.toNat < 128
  · rw [utf8EncodeChar_of_low short] at member
    rw [List.mem_singleton.mp member, ascii]
    have small : c.toUInt8 < 128 := by
      rw [UInt8.lt_iff_toNat_lt, toNat_toUInt8 short]
      exact short
    have same : Char.ofUInt8 c.toUInt8 = c := by
      rw [← Char.toNat_inj]
      exact toNat_toUInt8 short
    simp [small, same]
  · have high := high_of_mem (by omega) member
    have fails : test c = false := Bool.eq_false_iff.mpr fun passes => short (narrow c passes)
    have large : ¬ byte < 128 := by
      rw [UInt8.lt_iff_toNat_lt]
      exact Nat.not_lt.mpr high
    rw [fails, ascii, decide_eq_false large, Bool.false_and]

theorem takeWhile_bytes {test : Char → Bool} (narrow : Narrow test) (text : List Char) :
    (bytes text).takeWhile (ascii test) = bytes (text.takeWhile test) := by
  induction text with
  | nil => rfl
  | cons c text ih =>
    rw [bytes_cons]
    by_cases passes : test c = true
    · rw [List.takeWhile_append_of_pos fun byte member => (ascii_of_mem narrow member).trans passes,
        ih, List.takeWhile_cons_of_pos passes, bytes_cons]
    · obtain ⟨byte, more, code⟩ := List.exists_cons_of_ne_nil (String.utf8EncodeChar_ne_nil (c := c))
      have fails : ascii test byte = false := by
        rw [ascii_of_mem narrow (c := c) (code ▸ List.mem_cons_self)]
        exact Bool.eq_false_iff.mpr passes
      rw [code, List.cons_append, List.takeWhile_cons_of_neg (by simp [fails]),
        List.takeWhile_cons_of_neg passes, bytes_nil]

/-- A byte of a character of one byte lies between two parts of the text. -/
theorem exists_split_of_byte {text : List Char} {offset : Nat} {d : Char} (low : d.toNat < 128)
    (there : (bytes text)[offset]? = some d.toUInt8) :
    ∃ before after, text = before ++ d :: after ∧ (bytes before).length = offset := by
  induction text generalizing offset with
  | nil => cases there
  | cons c text ih =>
    rw [bytes_cons] at there
    by_cases inside : offset < (String.utf8EncodeChar c).length
    · rw [List.getElem?_append_left inside] at there
      obtain rfl := (eq_toUInt8_iff low (List.mem_of_getElem? there)).mp rfl
      rw [utf8EncodeChar_of_low low, List.length_singleton] at inside
      exact ⟨[], text, rfl, by simp; omega⟩
    · rw [List.getElem?_append_right (Nat.not_lt.mp inside)] at there
      obtain ⟨before, after, rfl, size⟩ := ih there
      exact ⟨c :: before, after, rfl, by rw [bytes_cons, List.length_append]; omega⟩

theorem isPrefix_of_bytes {first text : List Char} (begins : bytes first <+: bytes text) :
    first <+: text := by
  induction first generalizing text with
  | nil => exact List.nil_prefix
  | cons c first ih =>
    obtain ⟨rest, whole⟩ := begins
    cases text with
    | nil => simp [bytes_cons] at whole
    | cons d text =>
      rw [bytes_cons, bytes_cons, List.append_assoc] at whole
      rcases lt_trichotomy c d with less | rfl | greater
      · have apart := (decides_utf8EncodeChar less).append_lt (bytes first ++ rest) (bytes text)
        rw [whole] at apart
        exact absurd apart (List.lt_irrefl _)
      · exact List.cons_prefix_cons.mpr ⟨rfl, ih ⟨rest, List.append_cancel_left whole⟩⟩
      · have apart := (decides_utf8EncodeChar greater).append_lt (bytes text) (bytes first ++ rest)
        rw [whole] at apart
        exact absurd apart (List.lt_irrefl _)

end PathRouting.Text
