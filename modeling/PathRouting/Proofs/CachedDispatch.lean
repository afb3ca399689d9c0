import PathRouting.Proofs.AllowedMethods
import PathRouting.Proofs.StoredTables

/-! Answers from a table that has been kept and read back. The store forgets the order
of registration, so of several dynamic routes that match a path the one with the
least source answers, and methods are offered in alphabetical order. -/

namespace PathRouting

namespace Table

/-- The routes of a bucket that match a path: their sources in order, and what they would
answer. -/
def candidatesIn (path : String) (bucket : OrderedMap String DynamicRoute) :
    List (String × Outcome) :=
  bucket.entries.filterMap fun entry =>
    (entry.2.matcher.captures? path).map fun params => (entry.1, .found entry.2.handler params)

def candidates (table : Table) (method path : String) : List (String × Outcome) :=
  candidatesIn path ((table.routes.dynamic.get? method).getD OrderedMap.empty)

/-- A method answers a path by a static route, or its first candidate answers as the one
with the least source would. -/
def FirstIsLeast (table : Table) (method path : String) : Prop :=
  ByMethod.find? table.routes.static method path = none →
    ∀ first ∈ (table.candidates method path).head?, ∀ least ∈ table.candidates method path,
      (∀ other ∈ table.candidates method path, least.1 ≤ other.1) → least.2 = first.2

def dynamicOnly (table : Table) (method path : String) : List String :=
  (table.dynamicMethods method path).filter fun other => other ∉ table.staticMethods method path

/-- The offered methods with a static route, and those with a dynamic one only, each
stand in alphabetical order. -/
def OffersInOrder (table : Table) (method path : String) : Prop :=
  (table.staticMethods method path).Pairwise (· < ·) ∧
    (table.dynamicOnly method path).Pairwise (· < ·)

/-- The order of registration does not show in the answer to a request whose method is
in upper case. -/
structure OrderHidden (table : Table) (method path : String) (wantAllowed : Bool) : Prop where
  own : table.FirstIsLeast method path
  asGet : method = "HEAD" → table.matchMethod? method path = none → table.FirstIsLeast "GET" path
  offers : wantAllowed = true → ¬ (table.resolve method path true).isFound →
    table.OffersInOrder method path

variable (table : Table) (method path : String)

theorem matchMethod?_eq_candidates :
    table.matchMethod? method path =
      match ByMethod.find? table.routes.static method path with
      | some handler => some (.found handler OrderedMap.empty)
      | none => (table.candidates method path).head?.map Prod.snd := by
  rw [matchMethod?, candidates, candidatesIn, List.head?_filterMap]
  cases ByMethod.find? table.routes.static method path with
  | some handler => rfl
  | none =>
    cases table.routes.dynamic.get? method with
    | none => rfl
    | some bucket =>
      simp only [Option.bind_some, Option.getD_some, matchDynamic?, OrderedMap.values,
        List.findSome?_map]
      induction bucket.entries with
      | nil => rfl
      | cons entry entries ih =>
        rw [List.findSome?_cons, List.findSome?_cons, Function.comp]
        cases entry.2.matcher.captures? path with
        | none => exact ih
        | some params => rfl

theorem candidatesIn_reread (bucket : OrderedMap String DynamicRoute) :
    candidatesIn path (bucket.mapValues DynamicRoute.reread) = candidatesIn path bucket := by
  rw [candidatesIn, OrderedMap.mapValues, List.filterMap_map]
  rfl

private theorem key_of_candidate {entry : String × DynamicRoute} {candidate : String × Outcome}
    (found : (entry.2.matcher.captures? path).map (fun params =>
      (entry.1, Outcome.found entry.2.handler params)) = some candidate) : candidate.1 = entry.1 := by
  obtain ⟨_, _, rfl⟩ := Option.map_eq_some_iff.mp found
  rfl

private theorem candidatesIn_distinct (bucket : OrderedMap String DynamicRoute) :
    ((candidatesIn path bucket).map Prod.fst).Nodup := by
  apply List.pairwise_map.mpr
  apply List.Pairwise.filterMap _ _ (List.pairwise_map.mp bucket.distinct)
  intro first second apart one oneFound two twoFound
  rw [key_of_candidate path oneFound, key_of_candidate path twoFound]
  exact apart

private theorem candidates_distinct : ((table.candidates method path).map Prod.fst).Nodup :=
  candidatesIn_distinct path _

private theorem candidatesIn_byKey (bucket : OrderedMap String DynamicRoute) :
    candidatesIn path bucket.byKey = Json.sortEntries (candidatesIn path bucket) := by
  have ascending : Json.Ascending (candidatesIn path bucket.byKey) := by
    apply List.Pairwise.filterMap _ _ (Json.ascending_sortEntries bucket.entries)
    intro first second less one oneFound two twoFound
    rw [key_of_candidate path oneFound, key_of_candidate path twoFound]
    exact less
  apply ascending.eq_of_perm (Json.ascending_sortEntries _)
  exact (bucket.byKey_perm.filterMap _).trans
    (Json.sortEntries_perm (candidatesIn_distinct path bucket)).symm

/-- After a reload the candidates stand in the order of their sources. -/
theorem candidates_reloaded :
    table.reloaded.candidates method path = Json.sortEntries (table.candidates method path) := by
  have bucket : table.reloaded.routes.dynamic.get? method =
      (table.routes.dynamic.get? method).map fun bucket =>
        bucket.byKey.mapValues DynamicRoute.reread := by
    rw [reloaded, ByMethod.mapEach, OrderedMap.get?_mapValues, ByMethod.get?_byKey, Option.map_map]
    rfl
  rw [candidates, candidates, bucket]
  cases table.routes.dynamic.get? method with
  | none => rfl
  | some bucket =>
    exact (candidatesIn_reread path bucket.byKey).trans (candidatesIn_byKey path bucket)

/-- A method answers after a reload as it did before if and only if its first candidate
answers as the one with the least source would. -/
theorem matchMethod?_reloaded_eq_iff :
    table.reloaded.matchMethod? method path = table.matchMethod? method path ↔
      table.FirstIsLeast method path := by
  have static : ByMethod.find? table.reloaded.routes.static method path =
      ByMethod.find? table.routes.static method path := ByMethod.find?_byKey _ _ _
  rw [matchMethod?_eq_candidates, matchMethod?_eq_candidates, candidates_reloaded, static,
    FirstIsLeast]
  cases ByMethod.find? table.routes.static method path with
  | some handler => simp
  | none =>
    have distinct := table.candidates_distinct method path
    cases listed : table.candidates method path with
    | nil => simp [Json.sortEntries]
    | cons first rest =>
      rw [listed] at distinct
      have least := @Json.mem_head?_sortEntries _ _ distinct
      obtain ⟨lowest, head⟩ : ∃ lowest, (Json.sortEntries (first :: rest)).head? = some lowest := by
        rw [← Option.isSome_iff_exists, Json.isSome_head?_sortEntries distinct]
        rfl
      have smallest := least.mp head
      rw [head, List.head?_cons, Option.map_some, Option.map_some, Option.some.injEq]
      constructor
      · intro same _ _ found other member lowest_
        cases found
        have equal := (least.mpr ⟨member, lowest_⟩).symm.trans head
        rw [Option.some.inj equal]
        exact same
      · intro hidden
        exact hidden rfl first rfl lowest smallest.1 smallest.2

private theorem isSome_matchMethod?_reloaded :
    (table.reloaded.matchMethod? method path).isSome = (table.matchMethod? method path).isSome := by
  have static : ByMethod.find? table.reloaded.routes.static method path =
      ByMethod.find? table.routes.static method path := ByMethod.find?_byKey _ _ _
  rw [matchMethod?_eq_candidates, matchMethod?_eq_candidates, candidates_reloaded, static]
  cases ByMethod.find? table.routes.static method path with
  | some handler => rfl
  | none =>
    simp only [Option.isSome_map]
    exact Json.isSome_head?_sortEntries (table.candidates_distinct method path)

private theorem mem_staticMethods_reloaded {other : String} :
    other ∈ table.reloaded.staticMethods method path ↔ other ∈ table.staticMethods method path := by
  have bucket : table.reloaded.routes.static.get? other =
      (table.routes.static.get? other).map OrderedMap.byKey := ByMethod.get?_byKey _ _
  rw [mem_staticMethods, mem_staticMethods, bucket]
  cases table.routes.static.get? other with
  | none => rfl
  | some bucket => simp [OrderedMap.contains]

private theorem mem_allowedMethods_reloaded {other : String} :
    other ∈ table.reloaded.allowedMethods method path ↔ other ∈ table.allowedMethods method path := by
  rw [mem_allowedMethods, mem_allowedMethods, isSome_matchMethod?_reloaded]

private theorem staticMethods_reloaded_ascending :
    (table.reloaded.staticMethods method path).Pairwise (· < ·) :=
  (ByMethod.keys_byKey_ascending table.routes.static).sublist (List.filter_sublist.map Prod.fst)

private theorem dynamicMethods_reloaded_ascending :
    (table.reloaded.dynamicMethods method path).Pairwise (· < ·) := by
  have keys : table.reloaded.routes.dynamic.keys.Pairwise (· < ·) := by
    rw [reloaded, ByMethod.mapEach, OrderedMap.keys_mapValues]
    exact ByMethod.keys_byKey_ascending table.routes.dynamic
  exact keys.sublist (List.filter_sublist.map Prod.fst)

private theorem mem_dynamicOnly {other : String} :
    other ∈ table.dynamicOnly method path ↔
      other ∈ table.allowedMethods method path ∧ other ∉ table.staticMethods method path := by
  rw [allowedMethods, ← dynamicOnly, List.mem_append]
  constructor
  · intro member
    exact ⟨.inr member, by simpa using (List.mem_filter.mp member).2⟩
  · rintro ⟨static | dynamic, apart⟩
    · exact absurd static apart
    · exact dynamic

private theorem eq_iff_ascending {first second : List String} (ascending : first.Pairwise (· < ·))
    (distinct : second.Nodup) (same : ∀ name, name ∈ first ↔ name ∈ second) :
    first = second ↔ second.Pairwise (· < ·) := by
  constructor
  · rintro rfl
    exact ascending
  · intro other
    have perm : first.Perm second :=
      (List.perm_ext_iff_of_nodup (ascending.imp fun less => ne_of_lt less) distinct).mpr same
    exact perm.eq_of_pairwise (fun _ _ _ _ less greater => absurd less (lt_asymm greater)) ascending other

/-- A reload keeps the offered methods in their order if and only if that order was
alphabetical before. -/
theorem allowedMethods_reloaded_eq_iff :
    table.reloaded.allowedMethods method path = table.allowedMethods method path ↔
      table.OffersInOrder method path := by
  have static := eq_iff_ascending (table.staticMethods_reloaded_ascending method path)
    (table.staticMethods_nodup method path) fun _ => table.mem_staticMethods_reloaded method path
  have dynamic : table.reloaded.dynamicOnly method path = table.dynamicOnly method path ↔ _ :=
    eq_iff_ascending ((table.dynamicMethods_reloaded_ascending method path).filter _)
      ((table.dynamicMethods_nodup method path).filter _) fun other => by
        have same : other ∈ table.reloaded.dynamicOnly method path ↔
            other ∈ table.dynamicOnly method path := by
          rw [mem_dynamicOnly, mem_dynamicOnly, mem_allowedMethods_reloaded,
            mem_staticMethods_reloaded]
        exact same
  rw [OffersInOrder, ← static, ← dynamic]
  constructor
  · intro same
    have length : (table.reloaded.staticMethods method path).length =
        (table.staticMethods method path).length :=
      ((List.perm_ext_iff_of_nodup (staticMethods_nodup _ _ _) (staticMethods_nodup _ _ _)).mpr
        fun _ => table.mem_staticMethods_reloaded method path).length_eq
    exact List.append_inj same length
  · rintro ⟨sameStatic, sameDynamic⟩
    rw [allowedMethods, ← dynamicOnly, sameStatic, sameDynamic, allowedMethods, dynamicOnly]

def answer? (table : Table) (method path : String) : Option Outcome :=
  table.matchMethod? method path <|>
    if method = "HEAD" then table.matchMethod? "GET" path else none

private theorem resolve_eq_answer? (wantAllowed : Bool) :
    table.resolve method path wantAllowed =
      match table.answer? method path with
      | some outcome => outcome
      | none =>
        let allowed := if wantAllowed then table.allowedMethods method path else []
        if allowed.isEmpty then .notFound (table.fallback? method)
        else .methodNotAllowed allowed (table.fallback? method) :=
  rfl

private theorem isSome_answer?_reloaded :
    (table.reloaded.answer? method path).isSome = (table.answer? method path).isSome := by
  by_cases head : method = "HEAD"
  · simp [answer?, head, isSome_matchMethod?_reloaded]
  · simp [answer?, head, isSome_matchMethod?_reloaded]

private theorem answer?_reloaded_eq_iff :
    table.reloaded.answer? method path = table.answer? method path ↔
      table.FirstIsLeast method path ∧
        (method = "HEAD" → table.matchMethod? method path = none → table.FirstIsLeast "GET" path) := by
  rw [← matchMethod?_reloaded_eq_iff, ← matchMethod?_reloaded_eq_iff, answer?, answer?]
  have present := table.isSome_matchMethod?_reloaded method path
  cases own : table.matchMethod? method path with
  | some outcome =>
    rw [own] at present
    obtain ⟨again, found⟩ := Option.isSome_iff_exists.mp present
    simp [found]
  | none =>
    rw [own, Option.isSome_none, Option.isSome_eq_false_iff, Option.isNone_iff_eq_none] at present
    by_cases head : method = "HEAD"
    · subst head
      simp [present]
    · simp [present, head]

private theorem isFound_of_answer? {outcome : Outcome}
    (found : table.answer? method path = some outcome) :
    outcome.isFound := by
  cases own : table.matchMethod? method path with
  | some answer =>
    obtain rfl : answer = outcome := by simpa [answer?, own] using found
    exact table.isFound_of_matchMethod? method path own
  | none =>
    by_cases head : method = "HEAD"
    · subst head
      exact table.isFound_of_matchMethod? "GET" path (by simpa [answer?, own] using found)
    · simp [answer?, own, head] at found

private theorem isFound_missed (allowed : List String) (fallback : Option Handler) :
    (if allowed.isEmpty then Outcome.notFound fallback
      else .methodNotAllowed allowed fallback).isFound = false := by
  split <;> rfl

private theorem missed_inj {first second : List String} {fallback : Option Handler} :
    (if first.isEmpty then Outcome.notFound fallback else .methodNotAllowed first fallback) =
      (if second.isEmpty then .notFound fallback else .methodNotAllowed second fallback) ↔
      first = second := by
  cases first <;> cases second <;> simp

/-- The answer to a request is the same after a reload if and only if the order of
registration does not show in it. -/
theorem resolve_reloaded_eq_iff (wantAllowed : Bool) :
    table.reloaded.resolve method path wantAllowed = table.resolve method path wantAllowed ↔
      table.OrderHidden method path wantAllowed := by
  have answers := table.answer?_reloaded_eq_iff method path
  have present := table.isSome_answer?_reloaded method path
  have fallback : table.reloaded.fallback? method = table.fallback? method :=
    OrderedMap.get?_byKey _ _
  rw [resolve_eq_answer?, resolve_eq_answer?, fallback]
  cases found : table.answer? method path with
  | some outcome =>
    rw [found] at present answers
    obtain ⟨again, foundAgain⟩ := Option.isSome_iff_exists.mp present
    rw [foundAgain] at answers ⊢
    have answered : (table.resolve method path true).isFound := by
      rw [resolve_eq_answer?, found]
      exact table.isFound_of_answer? method path found
    constructor
    · intro same
      obtain ⟨own, asGet⟩ := answers.mp (congrArg some same)
      exact ⟨own, asGet, fun _ missed => absurd answered missed⟩
    · intro hidden
      exact Option.some.inj (answers.mpr ⟨hidden.own, hidden.asGet⟩)
  | none =>
    rw [found, Option.isSome_none, Option.isSome_eq_false_iff, Option.isNone_iff_eq_none] at present
    obtain ⟨own, asGet⟩ := answers.mp (present.trans found.symm)
    have missed : ¬ (table.resolve method path true).isFound := by
      rw [resolve_eq_answer?, found]
      exact Bool.eq_false_iff.mp (isFound_missed _ _)
    rw [present]
    cases wantAllowed with
    | false => exact iff_of_true rfl ⟨own, asGet, fun wanted => nomatch wanted⟩
    | true =>
      simp only [if_true]
      rw [missed_inj, allowedMethods_reloaded_eq_iff]
      exact ⟨fun inOrder => ⟨own, asGet, fun _ _ => inOrder⟩, fun hidden => hidden.offers rfl missed⟩

end Table

namespace Service

variable {service : Service} {cache : Cache} {stored : StoredTable}

private theorem loadCache_loaded {loaded : Service} (active : service.router.activeCache? = some cache)
    (kept : cache.store.content service.host = .ok (some stored))
    (load : service.loadCache = (.ok true, loaded)) :
    ∃ table, Table.decode stored.table = .ok table ∧ loaded.router.phase = .finished table := by
  have content : (cache.store.load service.host).1 = .ok (some stored) :=
    (Store.load_fst _ _).trans kept
  rw [loadCache] at load
  split at load
  · cases load
  simp only [active] at load
  split at load
  next host found =>
    simp [found] at content
  next host found =>
    simp [found] at content
  next other host found =>
    simp only [found, Except.ok.injEq, Option.some.injEq] at content
    subst content
    split at load
    · cases load
    · split at load
      · cases load
      next table decoded =>
        cases load
        exact ⟨table, decoded, rfl⟩

theorem content_finish {routes : RouteSet} {fallbacks : Fallbacks}
    (phase : service.router.phase = .collecting routes fallbacks)
    (active : service.router.activeCache? = some cache)
    (clock : service.host.now < 0x10000000000000000)
    (saved : (cache.store.save ⟨service.host.now, service.finish.1.encode⟩ service.host).1 = .ok ()) :
    cache.store.content service.finish.2.host =
      .ok (some ⟨service.host.now, service.finish.1.encode⟩) := by
  rw [finish_collecting phase] at saved ⊢
  simp only [finish, phase, saveTable, active]
  split
  next host result =>
    exact Store.content_save clock (Table.isWhole_encode _)
      ((Table.depth_encode _).trans (by decide)) (Json.sorted_sorted _) result
  next error host result =>
    have refused : (cache.store.save _ service.host).1 = .error error :=
      (Store.save_fst_journal _ _ _ _).symm.trans (congrArg Prod.fst result)
    cases refused.symm.trans saved

variable (aliases : AliasTable) (attached : Option Cache) (host : Host)

/-- A router that has loaded a table which another one has kept answers a request like
that one if and only if the order of registration does not show in the answer. -/
theorem dispatch_loaded_eq_iff {log : Log} {first second loaded : Service} {cache other : Cache}
    (run : Registers ⟨{ aliases, cache := attached }, host⟩ log first)
    (active : first.router.activeCache? = some cache)
    (clock : first.host.now < 0x10000000000000000)
    (saved : (cache.store.save ⟨first.host.now, first.finish.1.encode⟩ first.host).1 = .ok ())
    (otherActive : second.router.activeCache? = some other)
    (kept : other.store.content second.host = cache.store.content first.finish.2.host)
    (load : second.loadCache = (.ok true, loaded))
    (method path : String) (wantAllowed : Bool) :
    (loaded.dispatch method path wantAllowed).1 = first.finish.1.dispatch method path wantAllowed ↔
      first.finish.1.OrderHidden method.toUpper path wantAllowed := by
  have collected : Collected log first := (Collected.initial aliases attached host).registers run
  obtain ⟨routes, fallbacks, phase, _, _⟩ := collected.tables
  rw [content_finish phase active clock saved] at kept
  obtain ⟨table, decoded, fixed⟩ := loadCache_loaded otherActive kept load
  rw [Table.decode_encode collected.replays.readable] at decoded
  cases decoded
  have answer : (loaded.dispatch method path wantAllowed).1 =
      first.finish.1.reloaded.dispatch method path wantAllowed := by
    simp only [dispatch, finish, fixed]
  rw [answer]
  exact Table.resolve_reloaded_eq_iff _ _ _ _

/-- A route for digits and one for any segment: which of them answers `/p/12` depends on
the order, which of them answers `/p/x` does not. -/
theorem dispatch_loaded_eq_iff_overlapping :
    let fresh : Service := ⟨{ cache := some ⟨.memory, 60, true⟩ }, {}⟩
    let digits := (fresh.addRoute ["get"] "/p/{n:[0-9]+}" "number").2
    let first := (digits.addRoute ["get"] "/p/{any}" "any").2
    let second : Service := ⟨fresh.router, first.finish.2.host⟩
    second.loadCache.1 = .ok true ∧
      first.finish.1.OrderHidden "get".toUpper "/p/x" true ∧
      ¬ first.finish.1.OrderHidden "get".toUpper "/p/12" true := by
  intro fresh digits first second
  have run : Registers fresh _ first := .addRoute _ _ _ (.addRoute _ _ _ (.done _))
  have active : first.router.activeCache? = some ⟨.memory, 60, true⟩ := by decide +kernel
  have otherActive : second.router.activeCache? = some ⟨.memory, 60, true⟩ := rfl
  have load : second.loadCache.1 = .ok true := by decide +kernel
  have loads : second.loadCache = (.ok true, second.loadCache.2) := Prod.ext load rfl
  have reloads :=
    dispatch_loaded_eq_iff _ _ _ run active (by decide +kernel) rfl otherActive rfl loads
  refine ⟨load, (reloads _ _ _).mp ?_, fun hidden => ?_⟩
  · decide +kernel
  · have same := (reloads _ _ _).mpr hidden
    revert same
    decide +kernel

/-- The route that was registered first answers before the reload, the other one after it. -/
theorem dispatch_loaded_differs :
    let fresh : Service := ⟨{ cache := some ⟨.memory, 60, true⟩ }, {}⟩
    let digits := (fresh.addRoute ["get"] "/p/{n:[0-9]+}" "number").2
    let first := (digits.addRoute ["get"] "/p/{any}" "any").2
    let second : Service := ⟨fresh.router, first.finish.2.host⟩
    second.loadCache.1 = .ok true ∧
      first.finish.1.dispatch "get" "/p/12" false =
        .found "number" (OrderedMap.ofList [("n", "12")]) ∧
      (second.loadCache.2.dispatch "get" "/p/12" false).1 =
        .found "any" (OrderedMap.ofList [("any", "12")]) := by
  intro fresh digits first second
  refine ⟨?_, ?_, ?_⟩
  · decide +kernel
  · decide +kernel
  · decide +kernel

end Service

end PathRouting
