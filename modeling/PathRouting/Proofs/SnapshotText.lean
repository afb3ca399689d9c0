import PathRouting.Proofs.CachedDispatch
import PathRouting.Proofs.KeptTables

/-! The text of a snapshot as another form of its table. A snapshot is written with its
entries in their order and read back as it was, and the table that is rebuilt from it
answers every request as the first one does, since the order of the entries is the
priority of the routes. Unlike a value that has been kept in a store, the text loses
nothing of that order. -/

namespace PathRouting

/-! ### From the text to the snapshot -/

namespace Snapshot

private theorem fields?_written (room : Nat) (static dynamic fallbacks : Json.Tree) :
    (Json.Tree.object [(some "static", static), (some "dynamic", dynamic),
      (some "errors", fallbacks)]).fields? ["static", "dynamic", "errors"] (room + 1) =
      some (room, [some static, some dynamic, some fallbacks]) := by
  simp [Json.Tree.fields?, Json.Tree.field?]

private theorem read?_compact (snapshot : Snapshot) : read? snapshot.toJson.compact = some snapshot := by
  have whole : Json.IsWhole snapshot.toJson :=
    ⟨isWhole_byMethodJson _, isWhole_byMethodJson _, isWhole_handlersJson _, trivial⟩
  rw [read?, Json.Tree.read?_compact whole, Option.bind_some, toJson, Json.toTree, ofTree?]
  simp only [Json.treeFields]
  rw [Json.maxDepth, fields?_written]
  simp only [Option.bind_eq_bind, Option.bind_some, map?_byMethodJson 124, handlers?_handlersJson 125]
  rfl

end Snapshot

/-! ### From the table to the snapshot -/

theorem OrderedMap.mapValues_of_mapM {β γ ε : Type} {map : OrderedMap String β}
    {f : String × β → Except ε (String × γ)} {g : γ → β} {found : List (String × γ)}
    (done : map.entries.mapM f = .ok found)
    (back : ∀ entry result, f entry = .ok result → (result.1, g result.2) = entry) :
    (ofList found).mapValues g = map := by
  have entries : found.map (fun result => (result.1, g result.2)) = map.entries :=
    map_of_mapM_ok done back
  have distinct : (found.map Prod.fst).Nodup := by
    have keys : found.map Prod.fst = map.entries.map Prod.fst := by
      rw [← entries, List.map_map]
      rfl
    rw [keys]
    exact map.distinct
  apply ext_entries
  simp only [mapValues, entries_ofList distinct, entries]

namespace Snapshot

private theorem handlers_readBucket {bucket : OrderedMap String Handler}
    {routes : OrderedMap String DynamicRoute} (read : readBucket bucket.entries = .ok routes) :
    routes.mapValues DynamicRoute.handler = bucket := by
  obtain ⟨found, listed, rfl⟩ := exists_of_map_ok read
  refine OrderedMap.mapValues_of_mapM listed fun entry result made => ?_
  obtain ⟨matcher, _, rfl⟩ := exists_of_map_ok made
  rfl

/-- The snapshot of a table that has been rebuilt is the one it was rebuilt from. -/
theorem ofTable_toTable {snapshot : Snapshot} {table : Table}
    (rebuilt : snapshot.toTable = .ok table) : ofTable table = snapshot := by
  simp only [toTable, bind, Except.bind] at rebuilt
  split at rebuilt
  · cases rebuilt
  next found listed =>
    cases rebuilt
    have dynamic : (OrderedMap.ofList found).mapValues
        (fun bucket => bucket.mapValues DynamicRoute.handler) = snapshot.dynamic := by
      refine OrderedMap.mapValues_of_mapM listed fun entry result made => ?_
      obtain ⟨bucket, read, rfl⟩ := exists_of_map_ok made
      exact congrArg (Prod.mk entry.1) (handlers_readBucket read)
    simp only [ofTable, dynamic]

end Snapshot

/-! ### Answers from a table that has been rebuilt -/

namespace Table

variable (table : Table) (method path : String)

private theorem candidates_reread :
    table.reread.candidates method path = table.candidates method path := by
  rw [candidates, candidates, reread, ByMethod.mapEach, OrderedMap.get?_mapValues]
  cases table.routes.dynamic.get? method with
  | none => rfl
  | some bucket => exact candidatesIn_reread path bucket

private theorem matchMethod?_reread :
    table.reread.matchMethod? method path = table.matchMethod? method path := by
  rw [matchMethod?_eq_candidates, matchMethod?_eq_candidates, candidates_reread]
  rfl

private theorem dynamicMethods_reread :
    table.reread.dynamicMethods method path = table.dynamicMethods method path := by
  have accepts : ∀ bucket : OrderedMap String DynamicRoute,
      ((bucket.mapValues DynamicRoute.reread).values.any fun route => route.matcher.accepts path) =
        bucket.values.any fun route => route.matcher.accepts path := by
    intro bucket
    simp only [OrderedMap.values, OrderedMap.mapValues, List.map_map, List.any_map]
    rfl
  rw [dynamicMethods, dynamicMethods, reread, ByMethod.mapEach, OrderedMap.mapValues,
    List.filter_map, List.map_map]
  simp only [Function.comp_def, accepts]

private theorem allowedMethods_reread :
    table.reread.allowedMethods method path = table.allowedMethods method path := by
  simp only [allowedMethods, dynamicMethods_reread]
  rfl

/-- Reading the expressions of a table anew changes no answer. -/
theorem dispatch_reread (wantAllowed : Bool) :
    table.reread.dispatch method path wantAllowed = table.dispatch method path wantAllowed := by
  simp only [dispatch, resolve, matchMethod?_reread, allowedMethods_reread]
  rfl

end Table

/-! ### Tables that can be built -/

inductive Route.Made : Route → Prop where
  | static (path : String) : Made (static path)
  | ofTokens {tokens : List Token} {matcher : Matcher}
      (made : Matcher.ofTokens tokens = .ok matcher) : Made (dynamic matcher)
  | ofSource {source : String} {matcher : Matcher}
      (read : Matcher.ofSource source = .ok matcher) : Made (dynamic matcher)

theorem Route.Made.readable {route : Route} (made : route.Made) : route.Readable := by
  cases made with
  | static path => trivial
  | ofTokens made => exact readable_ofTokens made
  | ofSource read => exact readable_ofSource read _

/-- Routes that have been stored one after another, from none: as they are, or from the
tokens that they are compiled from. -/
inductive RouteSet.Built : RouteSet → Prop where
  | empty : Built empty
  | insert {routes : RouteSet} (built : Built routes) (method : String) {route : Route}
      (made : route.Made) (handler : Handler) : Built (routes.insert method route handler)
  | add {routes later : RouteSet} (built : Built routes) (method : String) {tokens : List Token}
      (handler : Handler) (added : routes.add method tokens handler = .ok later) : Built later

theorem RouteSet.Built.readable {routes : RouteSet} (built : routes.Built) : routes.Readable := by
  induction built with
  | empty => exact readable_empty
  | insert _ method made handler ih => exact ih.insert method made.readable handler
  | add _ method handler added ih =>
    obtain ⟨route, compiled, rfl⟩ := exists_of_map_ok added
    exact ih.insert method (Route.readable_compile compiled) handler

/-- A table that can be built: from routes and fallbacks, or by a router that may have
been used in any way and over stores of any kind. -/
inductive Table.Built : Table → Prop where
  | ofRoutes {routes : RouteSet} (built : routes.Built) (fallbacks : Fallbacks) :
      Built ⟨routes, fallbacks⟩
  | ofRouter (keep : Store → Keeper) (aliases : AliasTable) (cache : Option Cache) (host : Host)
      (uses : List Use) :
      Built (Service.traceAll keep ⟨{ aliases, cache }, host⟩ uses).2.finish.1

theorem Table.Built.readable {table : Table} (built : table.Built) : table.routes.Readable := by
  cases built with
  | ofRoutes built fallbacks => exact built.readable
  | ofRouter keep aliases cache host uses =>
    have ran := Service.ran_traceAll keep ⟨{ aliases, cache }, host⟩ uses
    exact Service.readable_finish (ran.readable RouteSet.readable_empty)

namespace Snapshot

/-- The text of a snapshot stands for its table. For every table that can be built, the
text of its snapshot reads back as that snapshot, in the same order; a table can be
rebuilt from it, whose snapshot is the same again, and which answers every request alike.
And every snapshot from which a table can be rebuilt is the snapshot of that table. -/
theorem text_stands_for_table :
    (∀ table : Table, table.Built → ∃ again : Table,
      read? (ofTable table).toJson.compact = some (ofTable table) ∧
      (ofTable table).toTable = .ok again ∧ ofTable again = ofTable table ∧
      ∀ method path wantAllowed,
        again.dispatch method path wantAllowed = table.dispatch method path wantAllowed) ∧
    ∀ (snapshot : Snapshot) (table : Table), snapshot.toTable = .ok table → ofTable table = snapshot := by
  refine ⟨fun table built => ?_, fun snapshot table rebuilt => ofTable_toTable rebuilt⟩
  have rebuilt := toTable_ofTable built.readable
  exact ⟨table.reread, read?_compact _, rebuilt, ofTable_toTable rebuilt, table.dispatch_reread⟩

/-- Two routes that both match `/p/12`, the one that comes first by name registered last,
with handlers that have to be escaped; and a snapshot with a method that has no routes. -/
theorem text_stands_for_table_overlapping :
    let uses : List Use := [.once (.register ["get"] "/p/{n:[0-9]+}" "\"\n"),
      .once (.register ["get", "*"] "/p/{any}[/☃]" "\\")]
    let table := (Service.traceAll Store.keeper ⟨{}, {}⟩ uses).2.finish.1
    let sparse : Snapshot := ⟨OrderedMap.ofList [("GET", OrderedMap.empty)],
      OrderedMap.ofList [("PUT", OrderedMap.ofList [("^/(?P<x>a)$", "a")])], OrderedMap.empty⟩
    table.dispatch "get" "/p/12" false = .found "\"\n" (OrderedMap.ofList [("n", "12")]) ∧
    (∃ again : Table, read? (ofTable table).toJson.compact = some (ofTable table) ∧
      (ofTable table).toTable = .ok again ∧
      again.dispatch "get" "/p/12" false = .found "\"\n" (OrderedMap.ofList [("n", "12")])) ∧
    ∃ rebuilt : Table, sparse.toTable = .ok rebuilt ∧ ofTable rebuilt = sparse := by
  intro uses table sparse
  have answer : table.dispatch "get" "/p/12" false =
      .found "\"\n" (OrderedMap.ofList [("n", "12")]) := by
    decide +kernel
  obtain ⟨again, read, rebuilt, _, alike⟩ :=
    text_stands_for_table.1 table (.ofRouter Store.keeper _ _ _ uses)
  refine ⟨answer, ⟨again, read, rebuilt, (alike _ _ _).trans answer⟩, ?_⟩
  have accepted : sparse.toTable.isOk = true := by decide +kernel
  cases made : sparse.toTable with
  | error error =>
    rw [made] at accepted
    cases accepted
  | ok other => exact ⟨other, rfl, text_stands_for_table.2 sparse other made⟩

end Snapshot

end PathRouting
