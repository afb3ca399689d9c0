import Mathlib.Data.String.Basic

/-! Text in the order of its UTF-8 bytes. Comparing two texts byte by byte is comparing
them code point by code point, so entries that are sorted by key are sorted by the bytes
of their keys. -/

namespace PathRouting.Text

def utf8 (text : String) : List UInt8 := text.toUTF8.data.toList

theorem utf8_eq_flatMap (text : String) :
    utf8 text = text.toList.flatMap String.utf8EncodeChar := by
  conv => lhs; rw [← String.ofList_toList (s := text)]
  rw [utf8, String.toUTF8_eq_toByteArray, String.toByteArray_ofList, List.utf8Encode,
    List.toList_data_toByteArray]

/-- The first place at which two rows of bytes differ lies inside both, and decides. -/
def Decides : List UInt8 → List UInt8 → Prop
  | byte :: bytes, other :: others => byte < other ∨ byte = other ∧ Decides bytes others
  | _, _ => False

theorem Decides.append_lt {bytes others : List UInt8} (decides : Decides bytes others)
    (rest later : List UInt8) : bytes ++ rest < others ++ later := by
  induction bytes generalizing others with
  | nil => exact decides.elim
  | cons byte bytes ih =>
    cases others with
    | nil => exact decides.elim
    | cons other others =>
      rw [List.cons_append, List.cons_append, List.cons_lt_cons_iff]
      exact decides.imp_right fun ⟨same, further⟩ => ⟨same, ih further⟩

private theorem ofNat_lt_ofNat {m n : Nat} (low : m < 256) (high : n < 256) :
    UInt8.ofNat m < UInt8.ofNat n ↔ m < n := by
  rw [UInt8.lt_iff_toNat_lt, UInt8.toNat_ofNat', UInt8.toNat_ofNat', Nat.mod_eq_of_lt low,
    Nat.mod_eq_of_lt high]

private theorem ofNat_eq_ofNat {m n : Nat} (low : m < 256) (high : n < 256) :
    UInt8.ofNat m = UInt8.ofNat n ↔ m = n := by
  rw [← UInt8.toNat_inj, UInt8.toNat_ofNat', UInt8.toNat_ofNat', Nat.mod_eq_of_lt low,
    Nat.mod_eq_of_lt high]

/-- Of two code points the lower one has the lower bytes. Codes of one length differ in a
digit to the base 64, and a longer code has a higher first byte. -/
theorem decides_utf8EncodeChar {c d : Char} (less : c < d) :
    Decides (String.utf8EncodeChar c) (String.utf8EncodeChar d) := by
  have bound : d.val.toNat < 0x110000 := by
    rcases d.valid with low | ⟨_, high⟩
    · exact Nat.lt_trans low (by decide)
    · exact high
  have codes : c.val.toNat < d.val.toNat := less
  unfold String.utf8EncodeChar
  generalize c.val.toNat = m at codes
  generalize d.val.toNat = n at codes bound
  have twice (k : Nat) : k / 4096 = k / 64 / 64 := by rw [Nat.div_div_eq_div_mul]
  have thrice (k : Nat) : k / 262144 = k / 64 / 64 / 64 := by
    rw [Nat.div_div_eq_div_mul, Nat.div_div_eq_div_mul]
  simp only [twice, thrice]
  repeat' split
  any_goals omega
  all_goals
    simp (disch := omega) only [Decides, ofNat_lt_ofNat, ofNat_eq_ofNat]
    omega

private theorem flatMap_lt {chars others : List Char} (less : chars < others) :
    chars.flatMap String.utf8EncodeChar < others.flatMap String.utf8EncodeChar := by
  induction less with
  | nil =>
    rw [List.flatMap_nil, List.flatMap_cons]
    obtain ⟨byte, bytes, same⟩ := List.exists_cons_of_ne_nil (String.utf8EncodeChar_ne_nil)
    rw [same, List.cons_append]
    exact List.nil_lt_cons _ _
  | rel first =>
    rw [List.flatMap_cons, List.flatMap_cons]
    exact (decides_utf8EncodeChar first).append_lt _ _
  | cons _ ih =>
    rw [List.flatMap_cons, List.flatMap_cons]
    exact List.append_left_lt ih

/-- The order of texts is the order of their bytes. -/
theorem utf8_lt_iff {text other : String} : utf8 text < utf8 other ↔ text < other := by
  have bytes : ∀ {text other : String}, text < other → utf8 text < utf8 other := by
    intro text other less
    rw [utf8_eq_flatMap, utf8_eq_flatMap]
    exact flatMap_lt (String.lt_iff.mp less)
  refine ⟨fun less => ?_, bytes⟩
  rcases lt_trichotomy text other with before | rfl | after
  · exact before
  · exact absurd less (List.lt_irrefl _)
  · exact absurd less (List.lt_asymm (bytes after))

end PathRouting.Text
