import Mathlib.Data.List.Induction
import Mathlib.Data.List.Nodup
import PathRouting.Table

/-! Ordered maps seen through lookups and through the order of their keys. Two maps
that agree on both are equal, and a map written entry by entry is known from the
list of writes: keys stand in order of first appearance and hold their last value. -/

namespace PathRouting

namespace OrderedMap

variable {κ β γ : Type} [DecidableEq κ]

omit [DecidableEq κ] in
theorem ext_entries {first second : OrderedMap κ β} (same : first.entries = second.entries) :
    first = second := by
  cases first
  cases second
  cases same
  rfl

theorem get?_eq_some_iff {map : OrderedMap κ β} {key : κ} {value : β} :
    map.get? key = some value ↔ (key, value) ∈ map.entries := by
  constructor
  · intro found
    obtain ⟨entry, selected, rfl⟩ := Option.map_eq_some_iff.mp found
    have same : entry.1 = key := by simpa using List.find?_some selected
    subst key
    exact List.mem_of_find?_eq_some selected
  · intro member
    have present : (map.entries.find? fun entry => decide (entry.1 = key)).isSome :=
      List.find?_isSome.mpr ⟨_, member, by simp⟩
    obtain ⟨entry, selected⟩ := Option.isSome_iff_exists.mp present
    have same : entry.1 = key := by simpa using List.find?_some selected
    have equal : entry = (key, value) :=
      List.inj_on_of_nodup_map map.distinct (List.mem_of_find?_eq_some selected) member same
    simp [get?, selected, equal]

theorem get?_isSome_iff {map : OrderedMap κ β} {key : κ} :
    (map.get? key).isSome ↔ key ∈ map.keys := by
  rw [Option.isSome_iff_exists]
  constructor
  · rintro ⟨value, found⟩
    exact List.mem_map.mpr ⟨_, get?_eq_some_iff.mp found, rfl⟩
  · intro member
    obtain ⟨entry, present, rfl⟩ := List.mem_map.mp member
    exact ⟨entry.2, get?_eq_some_iff.mpr present⟩

/-- The entries are the keys in order, each with the value it looks up. -/
theorem entries_eq_filterMap (map : OrderedMap κ β) :
    map.entries = map.keys.filterMap fun key => (map.get? key).map fun value => (key, value) := by
  have found : ∀ entry ∈ map.entries,
      (map.get? entry.1).map (fun value => (entry.1, value)) = some entry := by
    intro entry member
    rw [get?_eq_some_iff.mpr member]
    rfl
  rw [keys, List.filterMap_map]
  exact ((List.filterMap_congr found).trans (by simp)).symm

/-- A map is given by its keys in order and by what it looks up. -/
theorem ext_lookup {first second : OrderedMap κ β} (keys : first.keys = second.keys)
    (lookup : ∀ key, first.get? key = second.get? key) : first = second := by
  apply ext_entries
  rw [entries_eq_filterMap first, entries_eq_filterMap second, keys]
  simp only [lookup]

theorem get?_of_mem {map : OrderedMap κ β} {entry : κ × β} (member : entry ∈ map.entries) :
    map.get? entry.1 = some entry.2 :=
  get?_eq_some_iff.mpr member

omit [DecidableEq κ] in
theorem findSome?_congr {items : List κ} {f g : κ → Option β}
    (same : ∀ item ∈ items, f item = g item) : items.findSome? f = items.findSome? g := by
  induction items with
  | nil => rfl
  | cons item items ih =>
    rw [List.findSome?_cons, List.findSome?_cons, same item (by simp),
      ih (fun other member => same other (by simp [member]))]

theorem findSome?_values (map : OrderedMap κ β) (f : β → Option γ) :
    map.values.findSome? f = map.keys.findSome? fun key => (map.get? key).bind f := by
  rw [values, keys, List.findSome?_map, List.findSome?_map]
  apply findSome?_congr
  intro entry member
  simp [get?_of_mem member]

theorem any_values (map : OrderedMap κ β) (test : β → Bool) :
    map.values.any test = map.keys.any fun key => (map.get? key).any test := by
  rw [values, keys, List.any_map, List.any_map]
  rw [Bool.eq_iff_iff, List.any_eq_true, List.any_eq_true]
  apply exists_congr
  intro entry
  apply and_congr_right
  intro member
  simp [get?_of_mem member]

/-- The keys of selected entries, in terms of lookups. -/
theorem keys_filter (map : OrderedMap κ β) (test : κ → β → Bool) :
    (map.entries.filter fun entry => test entry.1 entry.2).map Prod.fst =
      map.keys.filter fun key => (map.get? key).any (test key) := by
  rw [keys, List.filter_map]
  congr 1
  apply List.filter_congr
  intro entry member
  simp [get?_of_mem member]

private theorem keys_insertEntry (key : κ) (value : β) (entries : List (κ × β)) :
    (insertEntry key value entries).map Prod.fst =
      if key ∈ entries.map Prod.fst then entries.map Prod.fst else entries.map Prod.fst ++ [key] := by
  induction entries with
  | nil => simp [insertEntry]
  | cons entry rest ih =>
    by_cases same : entry.1 = key
    · simp [insertEntry, same]
    · have apart : key ≠ entry.1 := fun equal => same equal.symm
      simp only [insertEntry, same, if_false, List.map_cons, ih, List.mem_cons, apart, false_or]
      split <;> rfl

/-- A key that is present keeps its place, and a new one comes last. -/
theorem keys_insert (map : OrderedMap κ β) (key : κ) (value : β) :
    (map.insert key value).keys = if key ∈ map.keys then map.keys else map.keys ++ [key] :=
  keys_insertEntry key value map.entries

private theorem insertEntry_of_absent {key : κ} (value : β) {entries : List (κ × β)}
    (absent : key ∉ entries.map Prod.fst) :
    insertEntry key value entries = entries ++ [(key, value)] := by
  induction entries with
  | nil => rfl
  | cons entry rest ih =>
    have apart : entry.1 ≠ key := fun equal => absent (by simp [equal])
    have further := ih (fun member => absent (by simp [member]))
    simp [insertEntry, apart, further]

@[simp] theorem get?_mapValues (f : β → γ) (map : OrderedMap κ β) (key : κ) :
    (map.mapValues f).get? key = (map.get? key).map f := by
  simp only [get?, mapValues, List.find?_map, Option.map_map]
  rfl

omit [DecidableEq κ] in
theorem mapValues_mapValues {δ : Type} (f : β → γ) (g : γ → δ) (map : OrderedMap κ β) :
    (map.mapValues f).mapValues g = map.mapValues fun value => g (f value) :=
  ext_entries (by simp [mapValues])

private theorem mapValues_insert (f : β → γ) (map : OrderedMap κ β) (key : κ) (value : β) :
    (map.insert key value).mapValues f = (map.mapValues f).insert key (f value) := by
  apply ext_lookup
  · simp only [keys_mapValues, keys_insert]
  · intro other
    simp only [get?_mapValues, get?_insert]
    split <;> rfl

omit [DecidableEq κ] in
def lastValue? (key : κ) (entries : List (κ × β)) : Option β :=
  (entries.reverse.find? fun entry => decide (entry.1 = key)).map Prod.snd

private theorem lastValue?_concat (key : κ) (entries : List (κ × β)) (entry : κ × β) :
    lastValue? key (entries ++ [entry]) =
      if entry.1 = key then some entry.2 else lastValue? key entries := by
  by_cases same : entry.1 = key <;> simp [lastValue?, same]

theorem lastValue?_filter (key : κ) (entries : List (κ × β)) :
    lastValue? key (entries.filter fun entry => decide (entry.1 = key)) = lastValue? key entries := by
  simp only [lastValue?, ← List.filter_reverse, List.find?_filter, and_self, Bool.decide_eq_true]

theorem ofList_concat (entries : List (κ × β)) (entry : κ × β) :
    ofList (entries ++ [entry]) = (ofList entries).insert entry.1 entry.2 := by
  simp [ofList, insertAll]

/-- A key that is written holds the value that was written last, any other key its old one. -/
theorem get?_insertAll (map : OrderedMap κ β) (entries : List (κ × β)) (key : κ) :
    (map.insertAll entries).get? key = (lastValue? key entries).or (map.get? key) := by
  induction entries using List.reverseRecOn with
  | nil => rfl
  | append_singleton entries entry ih =>
    have last : map.insertAll (entries ++ [entry]) =
        (map.insertAll entries).insert entry.1 entry.2 := by simp [insertAll]
    rw [last, get?_insert, lastValue?_concat, ih]
    split <;> rfl

theorem get?_ofList (entries : List (κ × β)) (key : κ) :
    (ofList entries).get? key = lastValue? key entries := by
  rw [ofList, get?_insertAll]
  exact Option.or_none

theorem eraseDups_concat (keys : List κ) (key : κ) :
    (keys ++ [key]).eraseDups = if key ∈ keys then keys.eraseDups else keys.eraseDups ++ [key] := by
  rw [List.eraseDups_append]
  by_cases present : key ∈ keys <;> simp [List.removeAll, present, List.eraseDups_cons]

omit [DecidableEq κ] in
theorem nodup_eraseDups [BEq κ] [LawfulBEq κ] (keys : List κ) : keys.eraseDups.Nodup := by
  induction keys using List.reverseRecOn with
  | nil => exact List.nodup_nil
  | append_singleton keys key ih =>
    rw [List.eraseDups_append]
    by_cases present : key ∈ keys
    · simpa [List.removeAll, present] using ih
    · simpa [List.removeAll, present, List.eraseDups_cons, ← List.concat_eq_append] using
        ih.concat fun member => present (List.mem_eraseDups.mp member)

theorem keys_ofList (entries : List (κ × β)) :
    (ofList entries).keys = (entries.map Prod.fst).eraseDups := by
  induction entries using List.reverseRecOn with
  | nil => rfl
  | append_singleton entries entry ih =>
    rw [ofList_concat, keys_insert, ih, List.map_append, List.map_singleton, eraseDups_concat]
    simp only [List.mem_eraseDups]

theorem entries_ofList {entries : List (κ × β)} (distinct : (entries.map Prod.fst).Nodup) :
    (ofList entries).entries = entries := by
  have same : ofList entries = ⟨entries, distinct⟩ := by
    induction entries using List.reverseRecOn with
    | nil => rfl
    | append_singleton entries entry ih =>
      have before : (entries.map Prod.fst).Nodup := by
        rw [List.map_append] at distinct
        exact distinct.of_append_left
      have absent : entry.1 ∉ entries.map Prod.fst := by
        rw [List.map_append, List.nodup_append] at distinct
        exact fun member => distinct.2.2 _ member _ (by simp) rfl
      rw [ofList_concat, ih before]
      exact ext_entries (insertEntry_of_absent entry.2 absent)
  rw [same]

/-- Writing the entries of another map puts its values over those that are there. -/
theorem get?_insertAll_entries (map later : OrderedMap κ β) (key : κ) :
    (map.insertAll later.entries).get? key = (later.get? key).or (map.get? key) := by
  have same : ofList later.entries = later := ext_entries (entries_ofList later.distinct)
  rw [get?_insertAll, ← get?_ofList, same]

end OrderedMap

namespace ByMethod

variable {β γ : Type}

/-- The tables that result from writing the given entries in order: method, key, value. -/
def ofEntries (entries : List (String × String × β)) : ByMethod β :=
  entries.foldl (fun table entry => put table entry.1 entry.2.1 entry.2.2) OrderedMap.empty

def ofMethod (method : String) (entries : List (String × String × β)) : List (String × β) :=
  (entries.filter fun entry => decide (entry.1 = method)).map Prod.snd

private theorem ofMethod_concat (method : String) (entries : List (String × String × β))
    (entry : String × String × β) :
    ofMethod method (entries ++ [entry]) =
      if entry.1 = method then ofMethod method entries ++ [entry.2] else ofMethod method entries := by
  by_cases same : entry.1 = method <;> simp [ofMethod, same]

theorem ofMethod_of_absent {method : String} {entries : List (String × String × β)}
    (absent : method ∉ entries.map Prod.fst) : ofMethod method entries = [] := by
  rw [ofMethod, List.map_eq_nil_iff, List.filter_eq_nil_iff]
  intro entry member same
  exact absent (List.mem_map.mpr ⟨entry, member, by simpa using same⟩)

theorem ofEntries_concat (entries : List (String × String × β)) (entry : String × String × β) :
    ofEntries (entries ++ [entry]) = put (ofEntries entries) entry.1 entry.2.1 entry.2.2 := by
  simp [ofEntries]

theorem keys_ofEntries (entries : List (String × String × β)) :
    (ofEntries entries).keys = (entries.map Prod.fst).eraseDups := by
  induction entries using List.reverseRecOn with
  | nil => rfl
  | append_singleton entries entry ih =>
    rw [ofEntries_concat, put, OrderedMap.keys_insert, ih, List.map_append, List.map_singleton,
      OrderedMap.eraseDups_concat]
    simp only [List.mem_eraseDups]

theorem get?_ofEntries (entries : List (String × String × β)) (method : String) :
    (ofEntries entries).get? method =
      if method ∈ entries.map Prod.fst then some (OrderedMap.ofList (ofMethod method entries))
      else none := by
  induction entries using List.reverseRecOn with
  | nil => rfl
  | append_singleton entries entry ih =>
    rw [ofEntries_concat, put, OrderedMap.get?_insert, ofMethod_concat, List.map_append,
      List.map_singleton]
    by_cases same : entry.1 = method
    · subst same
      by_cases present : entry.1 ∈ entries.map Prod.fst
      · simp [ih, present, OrderedMap.ofList_concat]
      · simp [ih, present, ofMethod_of_absent present, OrderedMap.ofList, OrderedMap.insertAll]
    · have apart : method ≠ entry.1 := fun equal => same equal.symm
      simp only [same, if_false, ih, List.mem_append, List.mem_singleton, apart, or_false]

theorem find?_ofEntries (entries : List (String × String × β)) (method key : String) :
    find? (ofEntries entries) method key = OrderedMap.lastValue? key (ofMethod method entries) := by
  rw [find?, get?_ofEntries]
  split
  next => exact OrderedMap.get?_ofList _ _
  next missing =>
    rw [ofMethod_of_absent missing]
    rfl

/-- Changes every value; methods, keys and their order stay. -/
def mapEach (f : β → γ) (table : ByMethod β) : ByMethod γ :=
  OrderedMap.mapValues (fun bucket => bucket.mapValues f) table

theorem find?_mapEach (f : β → γ) (table : ByMethod β) (method key : String) :
    find? (mapEach f table) method key = (find? table method key).map f := by
  simp only [find?, mapEach, OrderedMap.get?_mapValues]
  cases table.get? method with
  | none => rfl
  | some bucket => exact OrderedMap.get?_mapValues f bucket key

theorem mapEach_put (f : β → γ) (table : ByMethod β) (method key : String) (value : β) :
    mapEach f (put table method key value) = put (mapEach f table) method key (f value) := by
  have bucket : (OrderedMap.mapValues f ((table.get? method).getD OrderedMap.empty)) =
      ((mapEach f table).get? method).getD OrderedMap.empty := by
    rw [mapEach, OrderedMap.get?_mapValues]
    cases table.get? method <;> rfl
  rw [mapEach, put, OrderedMap.mapValues_insert, OrderedMap.mapValues_insert, bucket]
  rfl

end ByMethod

end PathRouting
