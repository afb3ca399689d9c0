import Mathlib.Data.List.TakeWhile
import PathRouting.Json.Decode
import PathRouting.Json.Writer

/-! Written JSON reads back. A value without fractions, written in one line and
followed by whatever may follow a value, is read as its own tree: strings survive
all escapes, whole numbers below 2^64 stay exact, and entries keep their order. -/

namespace PathRouting.Json

/-- What may follow a value: the end of the text, or the end of an item or entry. -/
def Ends : List Char → Prop
  | [] => True
  | c :: _ => c = ',' ∨ c = ']' ∨ c = '}'

def writtenUnit (c : Char) : TextUnit :=
  if c.toNat < 32 ∧ c ∉ ['\n', '\r', '\t', '\x08', '\x0c'] then .code c.toNat else .char c

private theorem hexNumber?_control : ∀ code < 32,
    Text.hexNumber? ['0', '0', hexDigit (code / 16), hexDigit (code % 16)] = some code := by
  decide

private theorem readUnits_plain {c : Char} (quote : c ≠ '"') (slash : c ≠ '\\')
    (visible : ¬ c.toNat < 32) (rest : List Char) :
    readUnits (c :: rest) = (readUnits rest).map fun found => (.char c :: found.1, found.2) := by
  rw [readUnits.eq_def]
  split
  · contradiction
  next same => exact absurd (List.cons.inj same).1 quote
  next same => exact absurd (List.cons.inj same).1 slash
  next same => exact absurd (List.cons.inj same).1 slash
  next other later _ _ same =>
    obtain ⟨rfl, rfl⟩ := List.cons.inj same
    rw [if_neg (by simp [visible, slash])]
    cases readUnits rest <;> rfl

private theorem readUnits_escapeChar (c : Char) (rest : List Char) :
    readUnits (escapeChar c ++ rest) =
      (readUnits rest).map fun found => (writtenUnit c :: found.1, found.2) := by
  have escaped : ∀ special ∈ ['"', '\\', '\n', '\r', '\t', '\x08', '\x0c'],
      readUnits (escapeChar special ++ rest) =
        (readUnits rest).map fun found => (writtenUnit special :: found.1, found.2) := by
    intro special member
    simp only [List.mem_cons, List.not_mem_nil, or_false] at member
    rcases member with rfl | rfl | rfl | rfl | rfl | rfl | rfl
    all_goals
      simp [escapeChar, readUnits, writtenUnit]
      cases readUnits rest <;> rfl
  by_cases special : c ∈ ['"', '\\', '\n', '\r', '\t', '\x08', '\x0c']
  · exact escaped c special
  simp only [List.mem_cons, List.not_mem_nil, or_false, not_or] at special
  obtain ⟨quote, slash, line, back, tab, bell, form⟩ := special
  by_cases control : c.toNat < 32
  · have written : escapeChar c =
        ['\\', 'u', '0', '0', hexDigit (c.toNat / 16), hexDigit (c.toNat % 16)] := by
      simp [escapeChar, quote, slash, line, back, tab, bell, form, control]
    have unit : writtenUnit c = .code c.toNat := by
      simp [writtenUnit, control, line, back, tab, bell, form]
    rw [written, unit, readUnits.eq_def]
    simp only [List.cons_append, List.nil_append, hexNumber?_control c.toNat control]
    cases readUnits rest <;> rfl
  · have written : escapeChar c = [c] := by
      simp [escapeChar, quote, slash, line, back, tab, bell, form, control]
    have unit : writtenUnit c = .char c := by
      simp [writtenUnit, control]
    rw [written, unit]
    exact readUnits_plain quote slash control rest

private theorem joinUnits_code {code : Nat} (small : code < 0xd800) (units : List TextUnit) :
    joinUnits (.code code :: units) = (joinUnits units).map (Char.ofNat code :: ·) := by
  have notHigh : ¬ (0xd800 ≤ code ∧ code < 0xdc00) := by omega
  have notLow : ¬ (0xdc00 ≤ code ∧ code < 0xe000) := by omega
  have notAny : ¬ (0xd800 ≤ code ∧ code < 0xe000) := by omega
  rcases units with _ | ⟨_ | other, units⟩
  · simp only [joinUnits, if_neg notAny]
  · simp only [joinUnits, if_neg notAny]
  · rw [joinUnits, if_neg notHigh, if_neg notLow]

private theorem joinUnits_writtenUnit (chars : List Char) :
    joinUnits (chars.map writtenUnit) = some chars := by
  induction chars with
  | nil => rfl
  | cons c chars ih =>
    rw [List.map_cons, writtenUnit]
    split
    next control => rw [joinUnits_code (by omega), ih, Option.map_some, Char.ofNat_toNat]
    next => rw [joinUnits, ih, Option.map_some]

private theorem readUnits_quote (chars rest : List Char) :
    readUnits (chars.flatMap escapeChar ++ '"' :: rest) = some (chars.map writtenUnit, rest) := by
  induction chars with
  | nil => rw [readUnits.eq_def]; rfl
  | cons c chars ih =>
    rw [List.flatMap_cons, List.append_assoc, readUnits_escapeChar, ih]
    rfl

/-- A quoted string reads back, whatever follows it. -/
theorem readString_quote (text : String) (rest : List Char) :
    readString (text.toList.flatMap escapeChar ++ '"' :: rest) = some (some text, rest) := by
  simp only [readString, readUnits_quote, Option.map_some, joinUnits_writtenUnit, String.ofList_toList]

private theorem isDigit_digitChar : ∀ digit < 10, Text.isDigit (Nat.digitChar digit) = true := by
  decide

private theorem value_digitChar : ∀ digit < 10, (Nat.digitChar digit).toNat - '0'.toNat = digit := by
  decide

private theorem digits_induction {motive : Nat → Prop} (small : ∀ digit < 10, motive digit)
    (large : ∀ n, 10 ≤ n → motive (n / 10) → motive n) (n : Nat) : motive n := by
  induction n using Nat.strongRecOn with
  | ind n ih =>
    by_cases one : n < 10
    · exact small n one
    · exact large n (by omega) (ih (n / 10) (by omega))

private theorem digits_small {n : Nat} (small : n < 10) : Nat.toDigits 10 n = [Nat.digitChar n] :=
  Nat.toDigits_of_lt_base small

private theorem digits_large {n : Nat} (large : 10 ≤ n) :
    Nat.toDigits 10 n = Nat.toDigits 10 (n / 10) ++ [Nat.digitChar (n % 10)] :=
  Nat.toDigits_of_base_le (by decide) large

private theorem isDigit_digits (n : Nat) : ∀ c ∈ Nat.toDigits 10 n, Text.isDigit c = true := by
  induction n using digits_induction with
  | small digit less =>
    rw [digits_small less]
    simpa using isDigit_digitChar digit less
  | large n least ih =>
    rw [digits_large least]
    intro c member
    rcases List.mem_append.mp member with before | last
    · exact ih c before
    · rw [List.mem_singleton.mp last]
      exact isDigit_digitChar _ (by omega)

private theorem digits_ne_nil (n : Nat) : Nat.toDigits 10 n ≠ [] := by
  induction n using digits_induction with
  | small digit less => simp [digits_small less]
  | large n least _ => simp [digits_large least]

private theorem head_digits {n : Nat} (zero : (Nat.toDigits 10 n).head? = some '0') : n = 0 := by
  induction n using digits_induction with
  | small digit less =>
    rw [digits_small less, List.head?_cons, Option.some.injEq] at zero
    have value := value_digitChar digit less
    rw [zero] at value
    simpa using value.symm
  | large n least ih =>
    obtain ⟨first, later, equal⟩ := List.exists_cons_of_ne_nil (digits_ne_nil (n / 10))
    rw [digits_large least, equal, List.cons_append, List.head?_cons] at zero
    have := ih (by rw [equal, List.head?_cons, zero])
    omega

private theorem significand_concat {start value : Nat} {digits : List Char} {c : Char}
    (read : significand start digits = (value, []))
    (fits : value * 10 + (c.toNat - '0'.toNat) < 0x10000000000000000) :
    significand start (digits ++ [c]) = (value * 10 + (c.toNat - '0'.toNat), []) := by
  induction digits generalizing start with
  | nil =>
    cases read
    simp only [List.nil_append, significand, if_pos fits]
  | cons digit digits ih =>
    simp only [significand, List.cons_append] at read ⊢
    split at read
    next less => rw [if_pos less]; exact ih read
    next => cases read

private theorem significand_digits {n : Nat} (fits : n < 0x10000000000000000) :
    significand 0 (Nat.toDigits 10 n) = (n, []) := by
  induction n using digits_induction with
  | small digit less =>
    have value := value_digitChar digit less
    rw [digits_small less]
    simp only [significand, value, Nat.zero_mul, Nat.zero_add, if_pos fits]
  | large n least ih =>
    have value := value_digitChar (n % 10) (by omega)
    have whole : n / 10 * 10 + n % 10 = n := by omega
    rw [digits_large least, significand_concat (ih (by omega))]
    · rw [value, whole]
    · rw [value, whole]
      exact fits

theorem Ends.not_digit {rest : List Char} (ends : Ends rest) :
    rest.takeWhile Text.isDigit = [] ∧ rest.dropWhile Text.isDigit = rest := by
  cases rest with
  | nil => exact ⟨rfl, rfl⟩
  | cons c rest =>
    have other : Text.isDigit c = false := by
      rcases ends with rfl | rfl | rfl <;> decide
    simp [other]

/-- The digits of a whole number read back as that number. -/
theorem readNumber_digits (n : Nat) {rest : List Char} (ends : Ends rest) :
    readNumber (Nat.toDigits 10 n ++ rest) = some (⟨false, Nat.toDigits 10 n, [], none⟩, rest) := by
  have digits := isDigit_digits n
  have whole : (Nat.toDigits 10 n ++ rest).takeWhile Text.isDigit = Nat.toDigits 10 n := by
    rw [List.takeWhile_append_of_pos digits, ends.not_digit.1, List.append_nil]
  have after : (Nat.toDigits 10 n ++ rest).dropWhile Text.isDigit = rest := by
    rw [List.dropWhile_append_of_pos digits, ends.not_digit.2]
  have shortest : (decide ((Nat.toDigits 10 n).head? = some '0') &&
      decide (1 < (Nat.toDigits 10 n).length)) = false := by
    by_contra both
    simp only [Bool.not_eq_false, Bool.and_eq_true, decide_eq_true_eq] at both
    rw [head_digits both.1] at both
    simp at both
  obtain ⟨first, later, equal⟩ := List.exists_cons_of_ne_nil (digits_ne_nil n)
  rw [equal] at digits whole after shortest ⊢
  have positive : first ≠ '-' := by
    rintro rfl
    exact absurd (digits '-' (.head _)) (by decide)
  unfold readNumber
  simp only []
  split
  next same => exact absurd (List.cons.inj same).1 positive
  next =>
    simp only [whole, after, shortest, List.isEmpty_cons, Bool.or_self, Bool.false_eq_true, if_false]
    rcases rest with _ | ⟨c, rest⟩
    · rfl
    · rcases ends with rfl | rfl | rfl <;> rfl

private theorem value?_digits {n : Nat} (fits : n < 0x10000000000000000) :
    NumberText.value? ⟨false, Nat.toDigits 10 n, [], none⟩ = some (.natural n) := by
  simp [NumberText.value?, significand_digits fits]

mutual

/-- A value whose numbers are whole and below 2^64. -/
def IsWhole : Json → Prop
  | number (.natural n) => n < 0x10000000000000000
  | number _ => False
  | array items => WholeItems items
  | object entries => WholeFields entries
  | _ => True

def WholeItems : List Json → Prop
  | [] => True
  | item :: rest => IsWhole item ∧ WholeItems rest

def WholeFields : List (String × Json) → Prop
  | [] => True
  | (_, value) :: rest => IsWhole value ∧ WholeFields rest

end

private theorem skipSpace_cons {c : Char} (visible : isSpace c = false) (rest : List Char) :
    skipSpace (c :: rest) = c :: rest := by
  simp [skipSpace, visible]

private theorem digit_visible {c : Char} (digit : Text.isDigit c = true) :
    isSpace c = false ∧ ∀ mark ∈ ['n', 't', 'f', '"', '[', '{', ']'], c ≠ mark := by
  constructor
  · cases space : isSpace c with
    | false => rfl
    | true =>
      simp only [isSpace, Bool.or_eq_true, decide_eq_true_eq] at space
      rcases space with ((rfl | rfl) | rfl) | rfl <;> exact absurd digit (by decide)
  · rintro mark member rfl
    revert digit
    simp only [List.mem_cons, List.not_mem_nil, or_false] at member
    rcases member with rfl | rfl | rfl | rfl | rfl | rfl | rfl <;> decide

private theorem head_compactText : ∀ {value : Json}, IsWhole value →
    ∃ c rest, compactText value = c :: rest ∧ isSpace c = false ∧ c ≠ ']'
  | null, _ => ⟨_, _, rfl, by decide, by decide⟩
  | bool true, _ => ⟨_, _, rfl, by decide, by decide⟩
  | bool false, _ => ⟨_, _, rfl, by decide, by decide⟩
  | string _, _ => ⟨_, _, rfl, by decide, by decide⟩
  | array _, _ => ⟨_, _, rfl, by decide, by decide⟩
  | object _, _ => ⟨_, _, rfl, by decide, by decide⟩
  | number (.natural n), _ => by
    obtain ⟨first, later, equal⟩ := List.exists_cons_of_ne_nil (digits_ne_nil n)
    have digit := isDigit_digits n first (equal ▸ List.mem_cons_self)
    exact ⟨first, later, equal, (digit_visible digit).1, (digit_visible digit).2 _ (by decide)⟩

private theorem readTree_digits {n fuel : Nat} (fits : n < 0x10000000000000000) {rest : List Char}
    (ends : Ends rest) :
    readTree (fuel + 1) (Nat.toDigits 10 n ++ rest) = some (.number (some (.natural n)), rest) := by
  have read := readNumber_digits n ends
  obtain ⟨first, later, equal⟩ := List.exists_cons_of_ne_nil (digits_ne_nil n)
  obtain ⟨visible, apart⟩ := digit_visible (isDigit_digits n first (equal ▸ List.mem_cons_self))
  have value := value?_digits fits
  rw [equal] at read value ⊢
  rw [readTree, List.cons_append, skipSpace_cons visible]
  split
  next same => exact absurd (List.cons.inj same).1 (apart _ (by decide))
  next same => exact absurd (List.cons.inj same).1 (apart _ (by decide))
  next same => exact absurd (List.cons.inj same).1 (apart _ (by decide))
  next same => exact absurd (List.cons.inj same).1 (apart _ (by decide))
  next same => exact absurd (List.cons.inj same).1 (apart _ (by decide))
  next same => exact absurd (List.cons.inj same).1 (apart _ (by decide))
  next => simp only [← List.cons_append, read, Option.map_some, value]

private theorem compactItems_cons (item : Json) (items : List Json) :
    compactItems (item :: items) =
      compactText item ++ if items = [] then [] else ',' :: compactItems items := by
  cases items with
  | nil => simp [compactItems]
  | cons next later => simp [compactItems]

private theorem compactFields_cons (key : String) (value : Json) (fields : List (String × Json)) :
    compactFields ((key, value) :: fields) =
      quote key ++ ':' :: (compactText value ++
        if fields = [] then [] else ',' :: compactFields fields) := by
  cases fields with
  | nil => simp [compactFields]
  | cons next later => simp [compactFields]

private theorem readTree_items {c : Char} (visible : isSpace c = false) (more : c ≠ ']') (fuel : Nat)
    (rest : List Char) :
    readTree (fuel + 1) ('[' :: c :: rest) =
      (readItems fuel (c :: rest)).map fun found => (.array found.1, found.2) := by
  rw [readTree, skipSpace_cons (by decide)]
  simp only [skipSpace_cons visible]
  split
  next same => exact absurd (List.cons.inj same).1 more
  next => rfl

private theorem readTree_fields (fuel : Nat) (rest : List Char) :
    readTree (fuel + 1) ('{' :: '"' :: rest) =
      (readFields fuel ('"' :: rest)).map fun found => (.object found.1, found.2) := by
  rw [readTree, skipSpace_cons (by decide)]
  rfl

mutual

/-- A written value reads back as its tree, and the text after it is left. -/
theorem readTree_compactText : ∀ {value : Json} {fuel : Nat} {rest : List Char}, IsWhole value →
    (compactText value).length ≤ fuel → Ends rest →
    readTree fuel (compactText value ++ rest) = some (toTree value, rest)
  | null, fuel + 1, rest, _, _, _ => rfl
  | bool true, fuel + 1, rest, _, _, _ => rfl
  | bool false, fuel + 1, rest, _, _, _ => rfl
  | number (.natural n), 0, rest, _, enough, _ => by
    exact absurd (List.length_eq_zero_iff.mp (Nat.le_zero.mp enough)) (digits_ne_nil n)
  | number (.natural n), fuel + 1, rest, whole, _, ends => readTree_digits whole ends
  | string text, fuel + 1, rest, _, _, _ => by
    simp only [compactText, quote, List.cons_append, List.append_assoc, List.nil_append, readTree,
      skipSpace_cons (c := '"') (by decide), readString_quote, Option.map_some, toTree]
  | array [], fuel + 1, rest, _, _, _ => rfl
  | array (item :: items), fuel + 1, rest, whole, enough, _ => by
    simp only [compactText, List.length_cons, List.length_append, List.length_nil] at enough
    have read : readItems fuel (compactItems (item :: items) ++ ']' :: rest) =
        some (treeItems (item :: items), rest) :=
      readItems_compactItems whole (List.cons_ne_nil _ _) (by omega)
    obtain ⟨c, later, equal, visible, more⟩ := head_compactText whole.1
    rw [compactItems_cons, equal, List.cons_append, List.cons_append] at read
    rw [compactText, compactItems_cons, equal, List.cons_append, List.append_assoc,
      List.singleton_append, List.cons_append, List.cons_append, readTree_items visible more,
      read, Option.map_some, toTree]
  | object [], fuel + 1, rest, _, _, _ => rfl
  | object ((key, value) :: fields), fuel + 1, rest, whole, enough, _ => by
    simp only [compactText, List.length_cons, List.length_append, List.length_nil] at enough
    have read : readFields fuel (compactFields ((key, value) :: fields) ++ '}' :: rest) =
        some (treeFields ((key, value) :: fields), rest) :=
      readFields_compactFields whole (List.cons_ne_nil _ _) (by omega)
    rw [compactFields_cons, quote, List.cons_append, List.cons_append] at read
    rw [compactText, compactFields_cons, quote, List.cons_append, List.append_assoc,
      List.singleton_append, List.cons_append, List.cons_append, readTree_fields, read,
      Option.map_some, toTree]

private theorem readItems_compactItems : ∀ {items : List Json} {fuel : Nat} {rest : List Char},
    WholeItems items → items ≠ [] → (compactItems items).length + 1 ≤ fuel →
    readItems fuel (compactItems items ++ ']' :: rest) = some (treeItems items, rest)
  | [item], fuel + 1, rest, whole, _, enough => by
    have read : readTree fuel (compactText item ++ ']' :: rest) = some (toTree item, ']' :: rest) :=
      readTree_compactText whole.1 (Nat.le_of_succ_le_succ enough) (.inr (.inl rfl))
    simp only [readItems, compactItems, read, skipSpace_cons (c := ']') (by decide), treeItems]
  | item :: next :: later, fuel + 1, rest, whole, _, enough => by
    simp only [compactItems, List.length_append, List.length_cons] at enough
    have first : readTree fuel
        (compactText item ++ ',' :: (compactItems (next :: later) ++ ']' :: rest)) =
        some (toTree item, ',' :: (compactItems (next :: later) ++ ']' :: rest)) :=
      readTree_compactText whole.1 (by omega) (.inl rfl)
    have others : readItems fuel (compactItems (next :: later) ++ ']' :: rest) =
        some (treeItems (next :: later), rest) :=
      readItems_compactItems whole.2 (List.cons_ne_nil _ _) (by omega)
    simp only [readItems, compactItems, List.append_assoc, List.cons_append, first,
      skipSpace_cons (c := ',') (by decide), others, Option.map_some]
    rfl

private theorem readFields_compactFields : ∀ {fields : List (String × Json)} {fuel : Nat}
    {rest : List Char}, WholeFields fields → fields ≠ [] →
    (compactFields fields).length + 1 ≤ fuel →
    readFields fuel (compactFields fields ++ '}' :: rest) = some (treeFields fields, rest)
  | [(key, value)], fuel + 1, rest, whole, _, enough => by
    simp only [compactFields, List.length_append, List.length_cons] at enough
    have read : readTree fuel (compactText value ++ '}' :: rest) = some (toTree value, '}' :: rest) :=
      readTree_compactText whole.1 (by omega) (.inr (.inr rfl))
    simp only [readFields, compactFields, quote, List.append_assoc, List.cons_append,
      List.nil_append, skipSpace_cons (c := '"') (by decide), readString_quote,
      skipSpace_cons (c := ':') (by decide), skipSpace_cons (c := '}') (by decide), read, treeFields]
  | (key, value) :: next :: later, fuel + 1, rest, whole, _, enough => by
    simp only [compactFields, List.length_append, List.length_cons] at enough
    have first : readTree fuel
        (compactText value ++ ',' :: (compactFields (next :: later) ++ '}' :: rest)) =
        some (toTree value, ',' :: (compactFields (next :: later) ++ '}' :: rest)) :=
      readTree_compactText whole.1 (by omega) (.inl rfl)
    have others : readFields fuel (compactFields (next :: later) ++ '}' :: rest) =
        some (treeFields (next :: later), rest) :=
      readFields_compactFields whole.2 (List.cons_ne_nil _ _) (by omega)
    simp only [readFields, compactFields, quote, List.append_assoc, List.cons_append,
      List.nil_append, skipSpace_cons (c := '"') (by decide), readString_quote,
      skipSpace_cons (c := ':') (by decide), skipSpace_cons (c := ',') (by decide), first, others,
      Option.map_some]
    rfl

end

/-- The text of a value in one line reads back as the tree of that value. -/
theorem Tree.read?_compact {value : Json} (whole : IsWhole value) :
    Tree.read? value.compact = some value.toTree := by
  have read : readTree (2 * (compactText value).length + 2) (compactText value) =
      some (toTree value, []) := by
    have found : readTree (2 * (compactText value).length + 2) (compactText value ++ []) =
        some (toTree value, []) :=
      readTree_compactText whole (by omega) trivial
    rwa [List.append_nil] at found
  simp only [Tree.read?, compact, String.toList_ofList, read]
  rfl

mutual

/-- A tree of a value gives that value with its entries by key, if there is room. -/
theorem value?_toTree : ∀ {value : Json} {room : Nat}, (toTree value).depth ≤ room →
    (toTree value).value? room = some (sorted value)
  | null, _, _ => rfl
  | bool _, _, _ => rfl
  | number _, _, _ => rfl
  | string _, _, _ => rfl
  | array items, room + 1, enough => by
    rw [toTree, Tree.value?, valueItems_treeItems (Nat.le_of_succ_le_succ enough), sorted]
    rfl
  | object fields, room + 1, enough => by
    rw [toTree, Tree.value?, valueFields_treeFields (Nat.le_of_succ_le_succ enough), sorted]
    rfl

private theorem valueItems_treeItems : ∀ {items : List Json} {room : Nat},
    depthItems (treeItems items) ≤ room → valueItems room (treeItems items) = some (sortedItems items)
  | [], _, _ => rfl
  | item :: rest, room, enough => by
    have both := Nat.max_le.mp enough
    rw [treeItems, valueItems, value?_toTree both.1, valueItems_treeItems both.2]
    rfl

private theorem valueFields_treeFields : ∀ {fields : List (String × Json)} {room : Nat},
    depthFields (treeFields fields) ≤ room →
    valueFields room (treeFields fields) = some (sortedFields fields)
  | [], _, _ => rfl
  | (key, value) :: rest, room, enough => by
    have both := Nat.max_le.mp enough
    rw [treeFields, valueFields, value?_toTree both.1, valueFields_treeFields both.2]
    rfl

end

end PathRouting.Json
