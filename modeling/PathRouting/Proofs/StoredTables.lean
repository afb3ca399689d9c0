import PathRouting.Proofs.JsonText
import PathRouting.Proofs.KeyOrder
import PathRouting.Proofs.RegistrationLog

/-! What a table is after it has been kept and read back. Nothing is lost on the way
through JSON, its text and a store, but entries come back in the order of their
keys, and every expression is read anew from the text it is stored under. -/

namespace PathRouting

namespace Json

private theorem sortedFields_eq_map (fields : List (String × Json)) :
    sortedFields fields = fields.map fun entry => (entry.1, sorted entry.2) := by
  induction fields with
  | nil => rfl
  | cons entry fields ih =>
    rw [sortedFields, ih]
    rfl

private theorem treeFields_eq_map (fields : List (String × Json)) :
    treeFields fields = fields.map fun entry => (some entry.1, toTree entry.2) := by
  induction fields with
  | nil => rfl
  | cons entry fields ih =>
    rw [treeFields, ih]
    rfl

def ofMap {β : Type} (f : β → Json) (map : OrderedMap String β) : Json :=
  .object (map.entries.map fun entry => (entry.1, f entry.2))

private theorem sorted_ofMap {β : Type} (f : β → Json) (map : OrderedMap String β) :
    (ofMap f map).sorted = ofMap (fun value => (f value).sorted) map.byKey := by
  rw [ofMap, sorted, sortedFields_eq_map, List.map_map]
  exact congrArg Json.object (sortEntries_map (fun value => (f value).sorted) map.entries)

private theorem ofMap_mapValues {β γ : Type} (f : γ → Json) (g : β → γ) (map : OrderedMap String β) :
    ofMap f (map.mapValues g) = ofMap (fun value => f (g value)) map := by
  simp [ofMap, OrderedMap.mapValues]

/-- An object reads back as the map it was written from, if its values do. -/
theorem map?_ofMap {β : Type} {f : β → Json} {decode : Nat → Tree → Option β} {room : Nat}
    (read : ∀ value, decode room (f value).toTree = some value) (map : OrderedMap String β) :
    Tree.map? decode (room + 1) (ofMap f map).toTree = some map := by
  have found : ∀ entries : List (String × β),
      (entries.map fun entry => (some entry.1, (f entry.2).toTree)).mapM (fun entry => do
        return (← entry.1, ← decode room entry.2)) = some entries := by
    intro entries
    induction entries with
    | nil => rfl
    | cons entry entries ih =>
      rw [List.map_cons, List.mapM_cons, ih, read]
      rfl
  have entries := found map.entries
  rw [ofMap, toTree, treeFields_eq_map, List.map_map, Tree.map?]
  simp only [Function.comp_def]
  rw [entries, Option.map_some]
  exact congrArg some (OrderedMap.ext_entries (OrderedMap.entries_ofList map.distinct))

private theorem isWhole_ofMap {β : Type} {f : β → Json} (whole : ∀ value, IsWhole (f value))
    (map : OrderedMap String β) : IsWhole (ofMap f map) := by
  have all : ∀ entries : List (String × β),
      WholeFields (entries.map fun entry => (entry.1, f entry.2)) := by
    intro entries
    induction entries with
    | nil => trivial
    | cons entry entries ih => exact ⟨whole entry.2, ih⟩
  exact all map.entries

private theorem depth_ofMap {β : Type} {f : β → Json} {bound : Nat}
    (shallow : ∀ value, (f value).toTree.depth ≤ bound) (map : OrderedMap String β) :
    (ofMap f map).toTree.depth ≤ bound + 1 := by
  have all : ∀ entries : List (String × β),
      depthFields (treeFields (entries.map fun entry => (entry.1, f entry.2))) ≤ bound := by
    intro entries
    induction entries with
    | nil => exact Nat.zero_le _
    | cons entry entries ih => exact Nat.max_le.mpr ⟨shallow entry.2, ih⟩
  exact Nat.succ_le_succ (all map.entries)

mutual

theorem sorted_sorted : ∀ value : Json, value.sorted.sorted = value.sorted
  | null => rfl
  | bool _ => rfl
  | number _ => rfl
  | string _ => rfl
  | array items => by rw [sorted, sorted, sortedItems_sortedItems items]
  | object fields => by
    have fixed : (sortEntries (sortedFields fields)).map (fun entry => (entry.1, entry.2.sorted)) =
        sortEntries (sortedFields fields) := by
      rw [← sortEntries_map, ← sortedFields_eq_map, sortedFields_sortedFields fields]
    rw [sorted, sorted, sortedFields_eq_map, fixed, (ascending_sortEntries _).sortEntries_eq]

private theorem sortedItems_sortedItems : ∀ items : List Json,
    sortedItems (sortedItems items) = sortedItems items
  | [] => rfl
  | item :: rest => by
    rw [sortedItems, sortedItems, sorted_sorted item, sortedItems_sortedItems rest]

private theorem sortedFields_sortedFields : ∀ fields : List (String × Json),
    sortedFields (sortedFields fields) = sortedFields fields
  | [] => rfl
  | (key, value) :: rest => by
    rw [sortedFields, sortedFields, sorted_sorted value, sortedFields_sortedFields rest]

end

end Json

namespace Snapshot

def byKey (snapshot : Snapshot) : Snapshot where
  static := ByMethod.byKey snapshot.static
  dynamic := ByMethod.byKey snapshot.dynamic
  fallbacks := snapshot.fallbacks.byKey

private theorem sorted_handlersJson (handlers : OrderedMap String Handler) :
    (handlersJson handlers).sorted = handlersJson handlers.byKey :=
  Json.sorted_ofMap .string handlers

private theorem sorted_byMethodJson (table : ByMethod Handler) :
    (byMethodJson table).sorted = byMethodJson table.byKey := by
  have buckets : (fun bucket => (handlersJson bucket).sorted) =
      fun bucket : OrderedMap String Handler => handlersJson bucket.byKey :=
    funext sorted_handlersJson
  have moved := Json.sorted_ofMap handlersJson table
  rw [buckets] at moved
  exact moved.trans (Json.ofMap_mapValues handlersJson OrderedMap.byKey _).symm

private theorem sorted_toJson (snapshot : Snapshot) :
    snapshot.toJson.sorted = .object [("dynamic", byMethodJson snapshot.byKey.dynamic),
      ("errors", handlersJson snapshot.byKey.fallbacks),
      ("static", byMethodJson snapshot.byKey.static)] := by
  have parts : ∀ first second third : Json,
      Json.sortEntries [("static", first), ("dynamic", second), ("errors", third)] =
        [("dynamic", second), ("errors", third), ("static", first)] := by
    intro first second third
    have before : "dynamic" < "static" := by decide
    have between : ¬ "errors" < "dynamic" ∧ "errors" < "static" := by decide
    simp only [Json.sortEntries, List.foldl_cons, List.foldl_nil, Json.insertSorted, String.reduceEq,
      before, between.1, between.2, if_true, if_false]
  simp only [toJson, Json.sorted, Json.sortedFields, sorted_byMethodJson, sorted_handlersJson, parts]
  rfl

theorem handlers?_handlersJson (room : Nat) (handlers : OrderedMap String Handler) :
    handlers? (room + 1) (handlersJson handlers).toTree = some handlers :=
  Json.map?_ofMap (fun _ => rfl) handlers

theorem map?_byMethodJson (room : Nat) (table : ByMethod Handler) :
    (byMethodJson table).toTree.map? handlers? (room + 2) = some table :=
  Json.map?_ofMap (handlers?_handlersJson room) table

theorem isWhole_handlersJson (handlers : OrderedMap String Handler) :
    Json.IsWhole (handlersJson handlers) :=
  Json.isWhole_ofMap (f := Json.string) (fun _ => trivial) handlers

theorem isWhole_byMethodJson (table : ByMethod Handler) : Json.IsWhole (byMethodJson table) :=
  Json.isWhole_ofMap isWhole_handlersJson table

private theorem fields?_sorted (room : Nat) (static dynamic fallbacks : Json.Tree) :
    (Json.Tree.object [(some "dynamic", dynamic), (some "errors", fallbacks),
      (some "static", static)]).fields? ["static", "dynamic", "errors"] (room + 1) =
      some (room, [some static, some dynamic, some fallbacks]) := by
  simp [Json.Tree.fields?, Json.Tree.field?]

/-- A snapshot that has been kept as a sorted value is read with its entries sorted. -/
theorem ofJson?_sorted (snapshot : Snapshot) :
    ofJson? snapshot.toJson.sorted = some snapshot.byKey := by
  rw [sorted_toJson, ofJson?, Json.toTree, ofTree?]
  simp only [Json.treeFields]
  rw [Json.maxDepth, fields?_sorted]
  simp only [Option.bind_eq_bind, Option.bind_some, map?_byMethodJson 124, handlers?_handlersJson 125]
  rfl

end Snapshot

/-- The matcher as it is read back from its text: all named groups count as its names. -/
def Matcher.reread (matcher : Matcher) : Matcher :=
  ⟨matcher.regex, matcher.regex.namedGroups.map Prod.snd⟩

def DynamicRoute.reread (route : DynamicRoute) : DynamicRoute :=
  ⟨route.matcher.reread, route.handler⟩

def Table.reread (table : Table) : Table where
  routes := {
    static := table.routes.static
    dynamic := ByMethod.mapEach DynamicRoute.reread table.routes.dynamic }
  fallbacks := table.fallbacks

/-- The table as it comes back from a store: entries stand in the order of their keys. -/
def Table.reloaded (table : Table) : Table where
  routes := {
    static := ByMethod.byKey table.routes.static
    dynamic := ByMethod.mapEach DynamicRoute.reread (ByMethod.byKey table.routes.dynamic) }
  fallbacks := table.fallbacks.byKey

theorem Matcher.ofSource_reread {source : String} {matcher again : Matcher}
    (read : Matcher.ofSource source = .ok again) (same : again.regex = matcher.regex) :
    Matcher.ofSource source = .ok matcher.reread := by
  rw [read]
  simp only [Matcher.ofSource] at read
  split at read
  · cases read
  · cases read
    rw [Matcher.reread, ← same]

theorem Snapshot.readBucket_handlers {bucket : OrderedMap String DynamicRoute}
    (readable : ∀ source route, bucket.get? source = some route →
      ∃ again, Matcher.ofSource source = .ok again ∧ again.regex = route.matcher.regex) :
    Snapshot.readBucket (bucket.mapValues DynamicRoute.handler).entries =
      .ok (bucket.mapValues DynamicRoute.reread) := by
  have all : ∀ entry ∈ bucket.entries,
      ((Matcher.ofSource entry.1).map fun matcher =>
        (entry.1, DynamicRoute.mk matcher entry.2.handler)) = .ok (entry.1, entry.2.reread) := by
    intro entry member
    obtain ⟨again, read, same⟩ := readable _ _ (OrderedMap.get?_of_mem member)
    rw [Matcher.ofSource_reread read same]
    rfl
  rw [Snapshot.readBucket, OrderedMap.mapValues, mapM_map_ok all, Except.map]
  exact congrArg Except.ok (OrderedMap.ext_entries
    (OrderedMap.entries_ofList (bucket.mapValues DynamicRoute.reread).distinct))

/-- The snapshot of a table whose expressions can be read stands for that table. -/
theorem Snapshot.toTable_ofTable {table : Table} (readable : table.routes.Readable) :
    (ofTable table).toTable = .ok table.reread := by
  have buckets : ∀ entry ∈ table.routes.dynamic.entries,
      ((readBucket (entry.2.mapValues DynamicRoute.handler).entries).map fun bucket =>
        (entry.1, bucket)) = .ok (entry.1, entry.2.mapValues DynamicRoute.reread) := by
    intro entry member
    rw [readBucket_handlers]
    · rfl
    · intro source route found
      apply readable entry.1
      rw [ByMethod.find?, OrderedMap.get?_of_mem member]
      exact found
  have rebuilt : OrderedMap.ofList (table.routes.dynamic.entries.map fun entry =>
      (entry.1, entry.2.mapValues DynamicRoute.reread)) =
        ByMethod.mapEach DynamicRoute.reread table.routes.dynamic :=
    OrderedMap.ext_entries (OrderedMap.entries_ofList (OrderedMap.mapValues _ _).distinct)
  simp only [toTable, ofTable]
  rw [OrderedMap.mapValues, mapM_map_ok buckets]
  simp only [bind, Except.bind, rebuilt]
  rfl

namespace Table

variable {table : Table}

private theorem byKey_ofTable (table : Table) :
    (Snapshot.ofTable table).byKey = Snapshot.ofTable
      ⟨⟨ByMethod.byKey table.routes.static, ByMethod.byKey table.routes.dynamic⟩,
        table.fallbacks.byKey⟩ :=
  congrArg (fun dynamic => Snapshot.mk (ByMethod.byKey table.routes.static) dynamic
    table.fallbacks.byKey) (ByMethod.byKey_mapEach DynamicRoute.handler table.routes.dynamic)

theorem isWhole_encode (table : Table) : Json.IsWhole table.encode := by
  rw [encode, Snapshot.sorted_toJson]
  exact ⟨Snapshot.isWhole_byMethodJson _, Snapshot.isWhole_handlersJson _,
    Snapshot.isWhole_byMethodJson _, trivial⟩

theorem depth_encode (table : Table) : table.encode.toTree.depth ≤ 3 := by
  have handlers : ∀ handlers, (Snapshot.handlersJson handlers).toTree.depth ≤ 1 := fun handlers =>
    Json.depth_ofMap (fun _ => Nat.le_refl 0) handlers
  have methods : ∀ table, (Snapshot.byMethodJson table).toTree.depth ≤ 2 := fun table =>
    Json.depth_ofMap handlers table
  rw [encode, Snapshot.sorted_toJson]
  refine Nat.succ_le_succ (Nat.max_le.mpr ⟨methods _, Nat.max_le.mpr ⟨?_, Nat.max_le.mpr ⟨methods _, ?_⟩⟩⟩)
  · exact (handlers _).trans (by decide)
  · exact Nat.zero_le _

/-- A table whose expressions can be read is decoded from its own encoding, with its
entries in the order of their keys. -/
theorem decode_encode (readable : table.routes.Readable) :
    decode table.encode = .ok table.reloaded := by
  have sorted : RouteSet.Readable
      ⟨ByMethod.byKey table.routes.static, ByMethod.byKey table.routes.dynamic⟩ := by
    intro method source route found
    rw [ByMethod.find?_byKey] at found
    exact readable method source route found
  have rebuilt := @Snapshot.toTable_ofTable ⟨_, table.fallbacks.byKey⟩ sorted
  rw [decode, encode, Snapshot.ofJson?_sorted, byKey_ofTable]
  simp only [rebuilt]
  rfl

end Table

namespace StoredTable

private theorem fields?_written (room : Nat) (savedAt table : Json.Tree) :
    (Json.Tree.object [(some "saved_at", savedAt), (some "table", table)]).fields?
      ["saved_at", "table"] (room + 1) = some (room, [some savedAt, some table]) := by
  simp [Json.Tree.fields?, Json.Tree.field?]

private theorem read?_compact {stored : StoredTable} (clock : stored.savedAt < 0x10000000000000000)
    (whole : Json.IsWhole stored.table) (shallow : stored.table.toTree.depth ≤ 126) :
    read? stored.toJson.compact = some ⟨stored.savedAt, stored.table.sorted⟩ := by
  have text : Json.IsWhole stored.toJson := ⟨clock, whole, trivial⟩
  rw [read?, Json.Tree.read?_compact text, Option.bind_some, ofTree?, Json.maxDepth]
  rw [toJson, Json.toTree, Json.treeFields, Json.treeFields, Json.treeFields, fields?_written]
  simp only [Option.bind_eq_bind, Option.bind_some, Json.value?_toTree shallow]
  rfl

end StoredTable

namespace Files

private theorem at?_insert (files : Files) {location : List String} (inside : location ≠ [])
    (content : String) (other : List String) :
    (Files.mk (files.entries.insert location (.text content))).at? other =
      if location = other then some (.text content) else files.at? other := by
  by_cases same : location = other
  · subst same
    simp [at?, inside, OrderedMap.get?_insert]
  · simp [at?, OrderedMap.get?_insert, same]

private theorem locate_insert {files : Files} {location : List String} (inside : location ≠ [])
    (absent : files.at? location ≠ some .directory) (content path : String) :
    (Files.mk (files.entries.insert location (.text content))).locate path = files.locate path := by
  have steps : (Files.mk (files.entries.insert location (.text content))).step = files.step := by
    funext other name
    rw [step, step, at?_insert files inside]
    by_cases same : location = other
    · subst same
      simp [absent]
    · simp [same]
  rw [locate, locate, steps]

/-- A text that has been written is what its path names. -/
theorem get?_write? {files after : Files} {path content : String}
    (written : files.write? path content = some after) : after.get? path = some (.text content) := by
  rw [write?] at written
  split at written
  · cases written
  next file =>
    split at written
    · cases written
    next location located =>
      split at written
      · cases written
      next absent =>
        cases written
        have inside : location ≠ [] := by
          rintro rfl
          exact absent rfl
        have found : (Files.mk (files.entries.insert location (.text content))).at? location =
            some (.text content) := by
          rw [at?_insert files inside, if_pos rfl]
        rw [get?, locate_insert inside absent, located, Option.bind_some, found]
        simp only [file]
        rfl

end Files

def Host.reported (host : Host) (news : List Report) : Host :=
  { host with journal := ⟨news ++ host.journal.reports⟩ }

namespace Store

/-- Reading a store gives what it holds, and does nothing but log. -/
theorem load_eq (store : Store) (host : Host) : ∃ events : List Event,
    store.load host = (store.content host, host.reported (events.map Report.event)) := by
  simp only [load]
  split
  next path stored kept => exact ⟨[_], by rw [kept]; rfl⟩
  next => exact ⟨[], rfl⟩

theorem load_fst (store : Store) (host : Host) : (store.load host).1 = store.content host := by
  obtain ⟨_, read⟩ := store.load_eq host
  rw [read]

theorem save_fst_journal (store : Store) (stored : StoredTable) (host : Host) (journal : Journal) :
    (store.save stored { host with journal }).1 = (store.save stored host).1 := by
  cases store with
  | memory => rfl
  | file path =>
    simp only [save]
    cases host.files.write? path stored.toJson.compact <;> rfl

theorem content_save {store : Store} {stored : StoredTable} {host after : Host}
    (clock : stored.savedAt < 0x10000000000000000) (whole : Json.IsWhole stored.table)
    (shallow : stored.table.toTree.depth ≤ 126) (fixed : stored.table.sorted = stored.table)
    (saved : store.save stored host = (.ok (), after)) : store.content after = .ok (some stored) := by
  cases store with
  | memory =>
    cases saved
    rfl
  | file path =>
    simp only [save] at saved
    split at saved
    · cases saved
    next files written =>
      cases saved
      have read := StoredTable.read?_compact clock whole shallow
      rw [fixed] at read
      simp only [content, Host.log, Host.report, Files.get?_write? written, read]

end Store

end PathRouting
