import Mathlib.Data.String.Basic
import PathRouting.Proofs.OrderedMaps
import PathRouting.Json

/-! Entries in the order of their keys. Sorting entries with distinct keys moves them
and does nothing else, so a map that comes back sorted looks up what it held
before; only the order of its keys is another. -/

namespace PathRouting

namespace Json

variable {β γ : Type}

def Ascending (entries : List (String × β)) : Prop :=
  entries.Pairwise fun first second => first.1 < second.1

private theorem mem_keys_insertSorted {key other : String} {value : β} (entries : List (String × β)) :
    other ∈ (insertSorted key value entries).map Prod.fst ↔
      other = key ∨ other ∈ entries.map Prod.fst := by
  induction entries with
  | nil => simp [insertSorted]
  | cons entry rest ih =>
    unfold insertSorted
    split
    next same => simp [same]
    next =>
      split
      · simp
      · rw [List.map_cons, List.mem_cons, ih, List.map_cons, List.mem_cons]
        exact or_left_comm

theorem Ascending.insertSorted {entries : List (String × β)} (sorted : Ascending entries)
    (key : String) (value : β) : Ascending (insertSorted key value entries) := by
  induction entries with
  | nil => exact List.pairwise_singleton _ _
  | cons entry rest ih =>
    obtain ⟨first, later⟩ := List.pairwise_cons.mp sorted
    unfold Json.insertSorted
    split
    next same =>
      refine List.pairwise_cons.mpr ⟨fun other member => ?_, later⟩
      rw [same]
      exact first other member
    next apart =>
      split
      next less =>
        refine List.pairwise_cons.mpr ⟨fun other member => ?_, sorted⟩
        rcases List.mem_cons.mp member with rfl | inside
        · exact less
        · exact lt_trans less (first other inside)
      next notLess =>
        refine List.pairwise_cons.mpr ⟨fun other member => ?_, ih later⟩
        have greater : entry.1 < key := lt_of_le_of_ne (not_lt.mp notLess) fun same => apart same.symm
        rcases (mem_keys_insertSorted rest).mp (List.mem_map_of_mem member) with same | inside
        · rw [same]
          exact greater
        · obtain ⟨found, present, equal⟩ := List.mem_map.mp inside
          rw [← equal]
          exact first found present

private theorem insertSorted_perm {key : String} {value : β} {entries : List (String × β)}
    (absent : key ∉ entries.map Prod.fst) :
    (insertSorted key value entries).Perm ((key, value) :: entries) := by
  induction entries with
  | nil => exact List.Perm.refl _
  | cons entry rest ih =>
    have apart : key ≠ entry.1 := fun same => absent (by simp [same])
    have missing : key ∉ rest.map Prod.fst := fun member => absent (by simp [member])
    rw [insertSorted, if_neg apart]
    split
    · exact List.Perm.refl _
    · exact ((ih missing).cons entry).trans (List.Perm.swap _ _ _)

private theorem sortEntries_concat (entries : List (String × β)) (entry : String × β) :
    sortEntries (entries ++ [entry]) = insertSorted entry.1 entry.2 (sortEntries entries) := by
  simp [sortEntries]

theorem ascending_sortEntries (entries : List (String × β)) : Ascending (sortEntries entries) := by
  induction entries using List.reverseRecOn with
  | nil => exact List.Pairwise.nil
  | append_singleton entries entry ih =>
    rw [sortEntries_concat]
    exact ih.insertSorted entry.1 entry.2

theorem sortEntries_perm {entries : List (String × β)} (distinct : (entries.map Prod.fst).Nodup) :
    (sortEntries entries).Perm entries := by
  induction entries using List.reverseRecOn with
  | nil => exact List.Perm.refl _
  | append_singleton entries entry ih =>
    rw [List.map_append, List.nodup_append] at distinct
    have sorted := ih distinct.1
    have absent : entry.1 ∉ (sortEntries entries).map Prod.fst := by
      rw [(sorted.map Prod.fst).mem_iff]
      exact fun member => distinct.2.2 _ member _ (by simp) rfl
    rw [sortEntries_concat]
    exact (insertSorted_perm absent).trans ((sorted.cons entry).trans (List.perm_append_singleton _ _).symm)

theorem Ascending.distinct {entries : List (String × β)} (sorted : Ascending entries) :
    (entries.map Prod.fst).Nodup :=
  List.pairwise_map.mpr (sorted.imp fun less => ne_of_lt less)

/-- Entries with distinct keys can be put in ascending order in one way only. -/
theorem Ascending.eq_of_perm {first second : List (String × β)} (sorted : Ascending first)
    (other : Ascending second) (same : first.Perm second) : first = second := by
  apply same.eq_of_pairwise _ sorted other
  intro a b _ _ less greater
  exact absurd less (lt_asymm greater)

theorem Ascending.sortEntries_eq {entries : List (String × β)} (sorted : Ascending entries) :
    sortEntries entries = entries :=
  (ascending_sortEntries entries).eq_of_perm sorted (sortEntries_perm sorted.distinct)

private theorem insertSorted_map (f : β → γ) (key : String) (value : β) (entries : List (String × β)) :
    insertSorted key (f value) (entries.map fun entry => (entry.1, f entry.2)) =
      (insertSorted key value entries).map fun entry => (entry.1, f entry.2) := by
  induction entries with
  | nil => rfl
  | cons entry rest ih =>
    simp only [List.map_cons, insertSorted, ih]
    split
    · rfl
    · split <;> rfl

/-- Sorting by key does not look at the values. -/
theorem sortEntries_map (f : β → γ) (entries : List (String × β)) :
    sortEntries (entries.map fun entry => (entry.1, f entry.2)) =
      (sortEntries entries).map fun entry => (entry.1, f entry.2) := by
  induction entries using List.reverseRecOn with
  | nil => rfl
  | append_singleton entries entry ih =>
    rw [List.map_append, List.map_singleton, sortEntries_concat, sortEntries_concat, ih]
    exact insertSorted_map f entry.1 entry.2 _

theorem mem_head?_sortEntries {entries : List (String × β)}
    (distinct : (entries.map Prod.fst).Nodup) {least : String × β} :
    least ∈ (sortEntries entries).head? ↔
      least ∈ entries ∧ ∀ other ∈ entries, least.1 ≤ other.1 := by
  have same := sortEntries_perm distinct
  have ascending := ascending_sortEntries entries
  cases sorted : sortEntries entries with
  | nil =>
    rw [sorted] at same
    simp [same.symm.eq_nil]
  | cons first later =>
    rw [sorted] at same ascending
    have smallest : ∀ other ∈ entries, first.1 ≤ other.1 := by
      intro other member
      rcases List.mem_cons.mp (same.mem_iff.mpr member) with rfl | after
      · exact le_refl _
      · exact le_of_lt ((List.pairwise_cons.mp ascending).1 other after)
    have inside : first ∈ entries := same.mem_iff.mp List.mem_cons_self
    rw [List.head?_cons, Option.mem_some_iff]
    constructor
    · rintro rfl
      exact ⟨inside, smallest⟩
    · rintro ⟨member, least_⟩
      exact List.inj_on_of_nodup_map distinct inside member
        (le_antisymm (smallest _ member) (least_ _ inside))

theorem isSome_head?_sortEntries {entries : List (String × β)}
    (distinct : (entries.map Prod.fst).Nodup) :
    (sortEntries entries).head?.isSome = entries.head?.isSome := by
  rw [Bool.eq_iff_iff, List.isSome_head?, List.isSome_head?, Ne, Ne, ← List.isEmpty_iff,
    ← List.isEmpty_iff, (sortEntries_perm distinct).isEmpty_eq]

end Json

namespace OrderedMap

variable {β γ : Type}

def byKey (map : OrderedMap String β) : OrderedMap String β :=
  ⟨Json.sortEntries map.entries, (Json.ascending_sortEntries map.entries).distinct⟩

theorem byKey_perm (map : OrderedMap String β) : map.byKey.entries.Perm map.entries :=
  Json.sortEntries_perm map.distinct

@[simp] theorem get?_byKey (map : OrderedMap String β) (key : String) :
    map.byKey.get? key = map.get? key := by
  apply Option.ext
  intro value
  rw [get?_eq_some_iff, get?_eq_some_iff, map.byKey_perm.mem_iff]

theorem keys_byKey_ascending (map : OrderedMap String β) : map.byKey.keys.Pairwise (· < ·) :=
  List.pairwise_map.mpr (Json.ascending_sortEntries map.entries)

private theorem byKey_mapValues (map : OrderedMap String β) (f : β → γ) :
    (map.mapValues f).byKey = map.byKey.mapValues f :=
  ext_entries (Json.sortEntries_map f map.entries)

end OrderedMap

/-- A table with its methods, and the keys of every method, in order. -/
def ByMethod.byKey {β : Type} (table : ByMethod β) : ByMethod β :=
  OrderedMap.mapValues OrderedMap.byKey (OrderedMap.byKey table)

namespace ByMethod

variable {β γ : Type}

theorem get?_byKey (table : ByMethod β) (method : String) :
    table.byKey.get? method = (table.get? method).map OrderedMap.byKey := by
  rw [byKey, OrderedMap.get?_mapValues, OrderedMap.get?_byKey]

theorem keys_byKey_ascending (table : ByMethod β) : table.byKey.keys.Pairwise (· < ·) := by
  rw [byKey, OrderedMap.keys_mapValues]
  exact OrderedMap.keys_byKey_ascending table

theorem find?_byKey (table : ByMethod β) (method key : String) :
    find? table.byKey method key = find? table method key := by
  rw [find?, find?, get?_byKey]
  cases table.get? method with
  | none => rfl
  | some bucket => exact bucket.get?_byKey key

theorem byKey_mapEach (f : β → γ) (table : ByMethod β) :
    byKey (mapEach f table) = mapEach f table.byKey := by
  simp only [byKey, mapEach, OrderedMap.byKey_mapValues, OrderedMap.mapValues_mapValues]

end ByMethod

end PathRouting
