/-! Finite maps that remember the order in which their keys first arrived.
Writing a key again replaces its value and keeps its place, so the order of the
entries is the order of first insertion. That order is what gives one route
priority over another. -/

namespace PathRouting

/-- Entries in order of first insertion; no key occurs twice. -/
structure OrderedMap (κ β : Type) where
  entries : List (κ × β)
  distinct : (entries.map Prod.fst).Nodup
  deriving DecidableEq

namespace OrderedMap

variable {κ β γ : Type} [DecidableEq κ]

/-- Replaces the value of a key that is present, and appends one that is not. -/
def insertEntry (key : κ) (value : β) : List (κ × β) → List (κ × β)
  | [] => [(key, value)]
  | entry :: rest =>
    if entry.1 = key then (key, value) :: rest else entry :: insertEntry key value rest

theorem mem_keys_insertEntry {key other : κ} {value : β} (entries : List (κ × β)) :
    other ∈ (insertEntry key value entries).map Prod.fst ↔
      other = key ∨ other ∈ entries.map Prod.fst := by
  induction entries with
  | nil => simp [insertEntry]
  | cons entry rest ih =>
    by_cases same : entry.1 = key
    · simp [insertEntry, same]
    · simp only [insertEntry, same, if_false, List.map_cons, List.mem_cons, ih]
      constructor
      · rintro (first | first | later)
        · exact .inr (.inl first)
        · exact .inl first
        · exact .inr (.inr later)
      · rintro (first | first | later)
        · exact .inr (.inl first)
        · exact .inl first
        · exact .inr (.inr later)

theorem distinct_insertEntry {key : κ} {value : β} (entries : List (κ × β))
    (distinct : (entries.map Prod.fst).Nodup) :
    ((insertEntry key value entries).map Prod.fst).Nodup := by
  induction entries with
  | nil => simp [insertEntry]
  | cons entry rest ih =>
    obtain ⟨absent, later⟩ := List.nodup_cons.1 distinct
    by_cases same : entry.1 = key
    · simpa [insertEntry, same] using distinct
    · simp only [insertEntry, same, if_false, List.map_cons, List.nodup_cons]
      refine ⟨fun found => ?_, ih later⟩
      rcases (mem_keys_insertEntry rest).1 found with equal | found
      · exact same equal
      · exact absent found

def empty : OrderedMap κ β := ⟨[], List.nodup_nil⟩

instance : Inhabited (OrderedMap κ β) := ⟨empty⟩

/-- Writes one entry. A key that is present keeps its place. -/
def insert (map : OrderedMap κ β) (key : κ) (value : β) : OrderedMap κ β :=
  ⟨insertEntry key value map.entries, distinct_insertEntry map.entries map.distinct⟩

def insertAll (map : OrderedMap κ β) (entries : List (κ × β)) : OrderedMap κ β :=
  entries.foldl (fun map entry => map.insert entry.1 entry.2) map

def ofList (entries : List (κ × β)) : OrderedMap κ β := empty.insertAll entries

def get? (map : OrderedMap κ β) (key : κ) : Option β :=
  (map.entries.find? fun entry => decide (entry.1 = key)).map Prod.snd

def contains (map : OrderedMap κ β) (key : κ) : Bool := (map.get? key).isSome

/-- The keys in order of first insertion. -/
def keys (map : OrderedMap κ β) : List κ := map.entries.map Prod.fst

def values (map : OrderedMap κ β) : List β := map.entries.map Prod.snd

def size (map : OrderedMap κ β) : Nat := map.entries.length

def isEmpty (map : OrderedMap κ β) : Bool := map.entries.isEmpty

/-- Changes every value; keys and their order stay. -/
def mapValues (f : β → γ) (map : OrderedMap κ β) : OrderedMap κ γ :=
  ⟨map.entries.map fun entry => (entry.1, f entry.2), by
    simpa [List.map_map, Function.comp_def] using map.distinct⟩

/-- Whether two maps hold the same entries, in whatever order. -/
def sameEntries [DecidableEq β] (first second : OrderedMap κ β) : Bool :=
  first.size == second.size &&
    first.entries.all fun entry => decide (second.get? entry.1 = some entry.2)

omit [DecidableEq κ] in
@[simp] theorem entries_empty : (empty : OrderedMap κ β).entries = [] := rfl

@[simp] theorem entries_insert (map : OrderedMap κ β) (key : κ) (value : β) :
    (map.insert key value).entries = insertEntry key value map.entries := rfl

omit [DecidableEq κ] in
@[simp] theorem keys_mapValues (f : β → γ) (map : OrderedMap κ β) :
    (map.mapValues f).keys = map.keys := by
  simp [keys, mapValues, List.map_map, Function.comp_def]

theorem find?_insertEntry (key other : κ) (value : β) (entries : List (κ × β)) :
    (insertEntry key value entries).find? (fun entry => decide (entry.1 = other)) =
      if key = other then some (key, value)
      else entries.find? fun entry => decide (entry.1 = other) := by
  induction entries with
  | nil => by_cases same : key = other <;> simp [insertEntry, same]
  | cons entry rest ih =>
    by_cases same : entry.1 = key
    · by_cases equal : key = other
      · simp [insertEntry, same, equal]
      · simp [insertEntry, same, equal]
    · simp only [insertEntry, same, if_false, List.find?_cons, ih]
      by_cases equal : key = other
      · have apart : entry.1 ≠ other := fun h => same (h.trans equal.symm)
        simp [apart, equal]
      · simp only [equal, if_false]

/-- Reading after writing gives the new value under the written key and the old
one elsewhere. -/
theorem get?_insert (map : OrderedMap κ β) (key other : κ) (value : β) :
    (map.insert key value).get? other = if key = other then some value else map.get? other := by
  simp only [get?, entries_insert, find?_insertEntry]
  split <;> rfl

end OrderedMap

end PathRouting
