import PathRouting.Proofs.ByteOrder
import PathRouting.Proofs.FrozenTable
import PathRouting.Proofs.LogDispatch
import PathRouting.Proofs.StoredTables

/-! Saving a table to a file and reading it back. In all that a router can do, a table
holds only expressions that can be read again from the text they are stored under, also
if the table itself has come from a store. So nothing is lost in a file, and nothing is
altered: the table comes back with its entries in the order of their keys. -/

namespace PathRouting

theorem OrderedMap.mem_of_get?_ofList {κ β : Type} [DecidableEq κ] {entries : List (κ × β)} {key : κ}
    {value : β} (found : (ofList entries).get? key = some value) : (key, value) ∈ entries := by
  rw [get?_ofList, lastValue?] at found
  obtain ⟨entry, selected, rfl⟩ := Option.map_eq_some_iff.mp found
  obtain rfl : entry.1 = key := by simpa using List.find?_some selected
  exact List.mem_reverse.mp (List.mem_of_find?_eq_some selected)

/-! ### Tables that can be read again -/

theorem Snapshot.mem_readBucket {entries : List (String × Handler)}
    {bucket : OrderedMap String DynamicRoute} (read : readBucket entries = .ok bucket)
    {source : String} {route : DynamicRoute} (found : bucket.get? source = some route) :
    Matcher.ofSource source = .ok route.matcher := by
  obtain ⟨routes, listed, rfl⟩ := exists_of_map_ok read
  obtain ⟨entry, _, made⟩ := mem_of_mapM_ok listed (OrderedMap.mem_of_get?_ofList found)
  obtain ⟨matcher, readSource, same⟩ := exists_of_map_ok made
  cases same
  exact readSource

/-- The expressions of a table that has been rebuilt are read from the texts they stand under. -/
theorem Snapshot.ofSource_toTable {snapshot : Snapshot} {table : Table}
    (rebuilt : snapshot.toTable = .ok table) {method source : String} {route : DynamicRoute}
    (found : ByMethod.find? table.routes.dynamic method source = some route) :
    Matcher.ofSource source = .ok route.matcher := by
  simp only [toTable, bind, Except.bind] at rebuilt
  split at rebuilt
  · cases rebuilt
  next dynamic buckets =>
    cases rebuilt
    obtain ⟨bucket, inside, stored⟩ := Option.bind_eq_some_iff.mp found
    obtain ⟨entry, _, made⟩ := mem_of_mapM_ok buckets (OrderedMap.mem_of_get?_ofList inside)
    obtain ⟨routes, read, same⟩ := exists_of_map_ok made
    cases same
    exact mem_readBucket read stored

theorem Snapshot.readable_toTable {snapshot : Snapshot} {table : Table}
    (rebuilt : snapshot.toTable = .ok table) : table.routes.Readable :=
  fun _ _ route found => ⟨route.matcher, ofSource_toTable rebuilt found, rfl⟩

theorem Table.readable_decode {value : Json} {table : Table} (decoded : decode value = .ok table) :
    table.routes.Readable := by
  rw [decode] at decoded
  split at decoded
  · cases decoded
  next snapshot _ =>
    split at decoded
    next rebuilt made =>
      cases decoded
      exact Snapshot.readable_toTable made
    · cases decoded

def Phase.Readable : Phase → Prop
  | .collecting routes _ => routes.Readable
  | .finished table => table.routes.Readable

namespace Service

variable {keep : Store → Keeper} {service : Service}

private theorem addRoute_readable {routes : RouteSet} {fallbacks : Fallbacks}
    (phase : service.router.phase = .collecting routes fallbacks) (readable : routes.Readable)
    (methods : List String) (template : String) (handler : Handler) :
    (service.addRoute methods template handler).2.router.phase.Readable := by
  have before : service.router.phase.Readable := by
    rw [phase]
    exact readable
  obtain ⟨_, host, unchanged⟩ | ⟨error, _, _, refused⟩ | ⟨compiled, _, good, stored⟩ :=
    addRoute_cases phase methods template handler
  · rw [unchanged]
    exact before
  · rw [refused]
    exact before
  · rw [stored]
    exact RouteSet.Readable.registered readable good methods handler

/-- No operation lets a router hold an expression that cannot be read again. -/
theorem operate_readable (keep : Store → Keeper) (readable : service.router.phase.Readable)
    (operation : Operation) :
    (service.operate keep operation).2.2.router.phase.Readable := by
  cases phase : service.router.phase with
  | finished table =>
    obtain ⟨after, same, router, _⟩ := operate_finished keep phase operation
    rw [same, router, Operation.phase_switched]
    exact readable
  | collecting routes fallbacks =>
    have stored : routes.Readable := by
      rw [phase] at readable
      exact readable
    cases operation with
    | register methods template handler => exact addRoute_readable phase stored methods template handler
    | registerFallback method handler =>
      obtain ⟨host, added⟩ := addFallback_collecting phase method handler
      simp only [operate, added]
      exact stored
    | loadCache =>
      have open_ : service.router.isFinished = false := by simp only [Router.isFinished, phase]
      simp only [operate, loadCacheBy, open_, Bool.false_eq_true, if_false]
      cases service.router.activeCache? with
      | none => exact readable
      | some cache =>
        simp only []
        obtain ⟨_, table, after, _, _, decoded, hit⟩ | ⟨_, after, missed⟩ :=
          received_cases service cache.expiry ((keep cache.store).load service.host).2
            ((keep cache.store).load service.host).1
        · rw [hit]
          exact Table.readable_decode decoded
        · rw [missed]
          exact readable
    | setCacheEnabled enabled => exact readable
    | finish =>
      obtain ⟨host, finished⟩ := finishBy_collecting keep phase
      simp only [operate, finished]
      exact stored
    | dispatch method path wantAllowed =>
      obtain ⟨host, finished⟩ := finishBy_collecting keep phase
      simp only [operate, finished]
      exact stored
    | elsewhere change => exact readable

end Service

/-- Whatever is done with a router, its table can be kept and read again. -/
theorem Ran.readable {keep : Store → Keeper} {first last : Phase} {steps : List Step}
    (ran : Ran keep first steps last) (readable : first.Readable) : last.Readable := by
  induction steps generalizing first with
  | nil =>
    obtain rfl : last = first := ran.linked
    exact readable
  | cons step rest ih =>
    obtain ⟨begins, performed⟩ := ran.head
    rw [← begins] at readable
    have after := Service.operate_readable keep readable step.operation
    rw [performed] at after
    exact ih ran.tail after

theorem Service.readable_finish {service : Service} (readable : service.router.phase.Readable) :
    service.finish.1.routes.Readable := by
  cases phase : service.router.phase with
  | finished table =>
    rw [phase] at readable
    rw [finish_finished phase]
    exact readable
  | collecting routes fallbacks =>
    rw [phase] at readable
    rw [finish_collecting phase]
    exact readable

/-! ### Copies in the order of keys -/

/-- The copy holds entries for the same keys, in the order of the bytes of these keys, and
each value is related to the one that it stands for. -/
structure OrderedMap.SortedCopy {β γ : Type} (same : γ → β → Prop) (copy : OrderedMap String γ)
    (map : OrderedMap String β) : Prop where
  ascending : copy.keys.Pairwise fun key later => Text.utf8 key < Text.utf8 later
  keys : copy.keys.Perm map.keys
  values : ∀ key value, map.get? key = some value →
    ∃ kept, copy.get? key = some kept ∧ same kept value

namespace OrderedMap

variable {β γ δ : Type}

private theorem sortedCopy_byKey (map : OrderedMap String β) : SortedCopy Eq map.byKey map where
  ascending := map.keys_byKey_ascending.imp fun less => Text.utf8_lt_iff.mpr less
  keys := map.byKey_perm.map Prod.fst
  values key value found := ⟨value, (get?_byKey map key).trans found, rfl⟩

theorem SortedCopy.mapValues {same : γ → β → Prop} {copy : OrderedMap String γ}
    {map : OrderedMap String β} (copied : SortedCopy same copy map) {f : γ → δ}
    {related : δ → β → Prop} (changed : ∀ kept value, same kept value → related (f kept) value) :
    SortedCopy related (copy.mapValues f) map where
  ascending := by
    rw [keys_mapValues]
    exact copied.ascending
  keys := by
    rw [keys_mapValues]
    exact copied.keys
  values key value found := by
    obtain ⟨kept, present, holds⟩ := copied.values key value found
    exact ⟨f kept, by rw [get?_mapValues, present]; rfl, changed kept value holds⟩

end OrderedMap

theorem ByMethod.sortedCopy_byKey {β : Type} (table : ByMethod β) :
    OrderedMap.SortedCopy (OrderedMap.SortedCopy Eq) table.byKey table :=
  (OrderedMap.sortedCopy_byKey table).mapValues <| by
    rintro bucket _ rfl
    exact bucket.sortedCopy_byKey

def DynamicRoute.ReadsAs (kept route : DynamicRoute) : Prop :=
  kept.handler = route.handler ∧
    ∀ path, kept.matcher.captures? path = route.matcher.captures? path

/-- The copy holds what the table holds, with methods and keys in the order of their
bytes. -/
structure Table.SortedCopy (copy table : Table) : Prop where
  static : OrderedMap.SortedCopy (OrderedMap.SortedCopy Eq) copy.routes.static table.routes.static
  dynamic : OrderedMap.SortedCopy (OrderedMap.SortedCopy DynamicRoute.ReadsAs)
    copy.routes.dynamic table.routes.dynamic
  fallbacks : OrderedMap.SortedCopy Eq copy.fallbacks table.fallbacks

theorem Table.sortedCopy_reloaded (table : Table) : table.reloaded.SortedCopy table where
  static := ByMethod.sortedCopy_byKey table.routes.static
  dynamic := by
    refine (ByMethod.sortedCopy_byKey table.routes.dynamic).mapValues fun kept bucket copied =>
      copied.mapValues ?_
    rintro route _ rfl
    exact ⟨rfl, Matcher.captures?_congr rfl⟩
  fallbacks := table.fallbacks.sortedCopy_byKey

/-! ### Files that can be written -/

/-- A file can be written: its directory is there, and no directory stands at its path. -/
def Files.Writable (files : Files) (path : String) : Prop :=
  wantsDirectory path = false ∧
    ∃ location, files.locate path = some location ∧ files.at? location ≠ some .directory

theorem Files.isSome_write?_iff {files : Files} {path : String} (content : String) :
    (files.write? path content).isSome ↔ files.Writable path := by
  rw [write?, Writable]
  cases wantsDirectory path with
  | true => simp
  | false =>
    cases files.locate path with
    | none => simp
    | some location =>
      simp only [Bool.false_eq_true, if_false, Option.some.injEq, true_and, exists_eq_left']
      split
      next directory => simp [directory]
      next other => simpa using other

theorem Files.get?_empty {path : String} (writable : empty.Writable path) :
    empty.get? path = none := by
  obtain ⟨_, location, located, absent⟩ := writable
  have nothing : empty.at? location = none := by
    cases location with
    | nil => exact absurd rfl absent
    | cons name rest => rfl
  rw [get?, located, Option.bind_some, nothing]

theorem Files.writable_empty : empty.Writable "c" := by
  have parts : "c".splitOn "/" = ["c"] := by
    rw [String.splitOn, if_neg (by decide), String.splitOnAux, if_neg (by decide +kernel),
      if_neg (by decide +kernel), String.splitOnAux, if_pos (by decide +kernel)]
    decide +kernel
  refine ⟨by simp [wantsDirectory, parts], ["c"], ?_, by decide⟩
  have names : components "c" = ["c"] := by simp [components, parts]
  simp only [locate, names, String.contains_char_eq]
  decide +kernel

/-- Where a file can be written, a table can be saved. -/
theorem Store.save_writable {path : String} {host : Host} (writable : host.files.Writable path)
    (stored : StoredTable) : ∃ after, (Store.file path).save stored host = (.ok (), after) := by
  have written := (Files.isSome_write?_iff stored.toJson.compact).mpr writable
  obtain ⟨files, written⟩ := Option.isSome_iff_exists.mp written
  exact ⟨_, by simp only [save, written]; rfl⟩

namespace Service

/-- A table that is saved to a file and loaded again has lost nothing. Whatever a router has
been through, over stores of any kind, its table can be saved in every file that can be
written; loading gives back the value that was saved, and that value stands for a table
with the same entries in the order of the bytes of their keys. -/
theorem load_save_lossless (keep : Store → Keeper) (aliases : AliasTable) (attached : Option Cache)
    (started : Host) (uses : List Use) {path : String} {host : Host} {savedAt : Nat}
    (clock : savedAt < 0x10000000000000000) (writable : host.files.Writable path) :
    let table := (traceAll keep ⟨{ aliases, cache := attached }, started⟩ uses).2.finish.1
    let stored : StoredTable := ⟨savedAt, table.encode⟩
    ∃ after again, (Store.file path).save stored host = (.ok (), after) ∧
      ((Store.file path).load after).1 = .ok (some stored) ∧
      Table.decode stored.table = .ok again ∧ again.SortedCopy table := by
  intro table stored
  have ran := ran_traceAll keep ⟨{ aliases, cache := attached }, started⟩ uses
  have readable : table.routes.Readable := readable_finish (ran.readable RouteSet.readable_empty)
  obtain ⟨after, saved⟩ := Store.save_writable writable stored
  refine ⟨after, table.reloaded, saved, ?_, Table.decode_encode readable, table.sortedCopy_reloaded⟩
  rw [Store.load_fst]
  exact Store.content_save clock table.isWhole_encode (table.depth_encode.trans (by decide))
    (Json.sorted_sorted _) saved

/-- Routes with quotes, a backslash, a line break and letters of several bytes, saved at the
latest time that can be told. -/
theorem load_save_lossless_text :
    let routes : List Use := [.once (.register ["get", "*"] "/{n:[0-9]+}[/\\☃]" "\"\n"),
      .once (.register ["ß"] "/\x7f" "\\")]
    let uses : List Use := [.group "/\"ü" routes, .once (.registerFallback "\t" "ä")]
    let table := (traceAll Store.keeper ⟨{}, {}⟩ uses).2.finish.1
    let stored : StoredTable := ⟨0xffffffffffffffff, table.encode⟩
    (table.staticCount = 1 ∧ table.dynamicCount = 12 ∧ Files.empty.Writable "c") ∧
    ∃ after again, (Store.file "c").save stored {} = (.ok (), after) ∧
      ((Store.file "c").load after).1 = .ok (some stored) ∧
      Table.decode stored.table = .ok again ∧ again.SortedCopy table :=
  ⟨⟨by decide +kernel, by decide +kernel, Files.writable_empty⟩,
    load_save_lossless Store.keeper _ _ _ _ (by decide) Files.writable_empty⟩

end Service

end PathRouting
