import PathRouting.Proofs.ConfiguredRouters
import PathRouting.Proofs.SnapshotText

/-! What a look into the cache leads to. The answer of the store decides alone whether it is
a hit, and a hit fixes the table that is kept. After any other look the router is as it was
before, and what is registered later goes as it would have gone without the look. -/

namespace PathRouting

/-! ### Kept values that stand for a table -/

namespace Snapshot

variable {snapshot : Snapshot} {table : Table}

def Legible (snapshot : Snapshot) : Prop :=
  ∀ method source handler, ByMethod.find? snapshot.dynamic method source = some handler →
    ∃ matcher, Matcher.ofSource source = .ok matcher

/-- The table has the entries of the snapshot, in the same order, with the expressions that
are read from their texts. -/
structure StandsFor (snapshot : Snapshot) (table : Table) : Prop where
  entries : ofTable table = snapshot
  expressions : ∀ method source route,
    ByMethod.find? table.routes.dynamic method source = some route →
      Matcher.ofSource source = .ok route.matcher

theorem StandsFor.reread (stands : snapshot.StandsFor table) : table.reread = table := by
  have same : ∀ method bucket, table.routes.dynamic.get? method = some bucket →
      bucket.mapValues DynamicRoute.reread = bucket := by
    intro method bucket inside
    apply OrderedMap.ext_lookup
    · exact OrderedMap.keys_mapValues _ _
    · intro source
      rw [OrderedMap.get?_mapValues]
      cases found : bucket.get? source with
      | none => rfl
      | some route =>
        have read := stands.expressions method source route (by rw [ByMethod.find?, inside]; exact found)
        have again := read.symm.trans (Matcher.ofSource_reread read rfl)
        rw [Option.map_some, DynamicRoute.reread, ← Except.ok.inj again]
  have dynamic : ByMethod.mapEach DynamicRoute.reread table.routes.dynamic = table.routes.dynamic := by
    apply OrderedMap.ext_lookup
    · exact OrderedMap.keys_mapValues _ _
    · intro method
      rw [ByMethod.mapEach, OrderedMap.get?_mapValues]
      cases inside : table.routes.dynamic.get? method with
      | none => rfl
      | some bucket => rw [Option.map_some, same method bucket inside]
  rw [Table.reread, dynamic]

private theorem toTable_eq_ok_iff : snapshot.toTable = .ok table ↔ snapshot.StandsFor table := by
  constructor
  · intro rebuilt
    exact ⟨ofTable_toTable rebuilt, fun _ _ _ => ofSource_toTable rebuilt⟩
  · intro stands
    have readable : table.routes.Readable := fun method source route found =>
      ⟨route.matcher, stands.expressions method source route found, rfl⟩
    rw [← stands.entries, toTable_ofTable readable, stands.reread]

/-- A table can be rebuilt from exactly the snapshots whose expressions can all be read. -/
theorem legible_iff : snapshot.Legible ↔ ∃ table, snapshot.toTable = .ok table := by
  constructor
  · intro legible
    cases rebuilt : snapshot.toTable with
    | ok table => exact ⟨table, rfl⟩
    | error error =>
      simp only [toTable, bind, Except.bind] at rebuilt
      split at rebuilt
      next failed =>
        obtain ⟨entry, listed, bad⟩ := exists_of_mapM_error failed
        obtain ⟨inner, inside, unread⟩ := exists_of_mapM_error
          (error_of_map_error (error_of_map_error bad))
        have found : ByMethod.find? snapshot.dynamic entry.1 inner.1 = some inner.2 := by
          rw [ByMethod.find?, OrderedMap.get?_of_mem listed]
          exact OrderedMap.get?_of_mem inside
        obtain ⟨matcher, read⟩ := legible _ _ _ found
        rw [read] at unread
        cases unread
      · cases rebuilt
  · rintro ⟨table, rebuilt⟩ method source handler found
    rw [← ofTable_toTable rebuilt] at found
    obtain ⟨route, stored, _⟩ := Option.map_eq_some_iff.mp
      ((ByMethod.find?_mapEach DynamicRoute.handler table.routes.dynamic method source).symm.trans found)
    exact ⟨route.matcher, ofSource_toTable rebuilt stored⟩

end Snapshot

theorem Table.decode_eq_ok_iff {value : Json} {table : Table} :
    decode value = .ok table ↔
      ∃ snapshot, Snapshot.ofJson? value = some snapshot ∧ snapshot.StandsFor table := by
  rw [decode]
  cases Snapshot.ofJson? value with
  | none => simp
  | some snapshot =>
    simp only [Option.some.injEq, exists_eq_left', ← Snapshot.toTable_eq_ok_iff]
    cases snapshot.toTable <;> simp

theorem Table.decode_eq_error_iff {value : Json} :
    (∃ error, decode value = .error error) ↔
      ∀ snapshot, Snapshot.ofJson? value = some snapshot → ¬ snapshot.Legible := by
  rw [decode]
  cases Snapshot.ofJson? value with
  | none => simp
  | some snapshot =>
    simp only [Option.some.injEq, forall_eq', Snapshot.legible_iff]
    cases snapshot.toTable <;> simp

theorem StoredTable.isFresh_iff {stored : StoredTable} {expiry now : Nat} :
    stored.isFresh expiry now = true ↔ now ≤ stored.savedAt + expiry := by
  rw [isFresh, age, decide_eq_true_eq, Nat.sub_le_iff_le_add']

/-! ### Looks -/

inductive Look where
  | miss
  | stale
  | malformed
  | hit (table : Table)

namespace Look

def label : Look → String
  | miss => "miss"
  | stale => "stale"
  | malformed => "malformed"
  | hit _ => "hit"

def isHit : Look → Bool
  | hit _ => true
  | _ => false

def turn (router : Router) : Look → Router
  | hit table => { router with phase := .finished table }
  | _ => router

private theorem turn_of_noHit {look : Look} (noHit : look.isHit ≠ true) (router : Router) :
    look.turn router = router := by
  cases look with
  | hit table => exact absurd rfl noHit
  | miss => rfl
  | stale => rfl
  | malformed => rfl

/-- What the answer of a store comes to at a given time: a kept table is stale by its age
alone, and a table that is not stale counts if it can be rebuilt. -/
inductive Finds (expiry now : Nat) : Except CacheError (Option StoredTable) → Look → Prop where
  | miss : Finds expiry now (.ok none) .miss
  | unreadable (error : CacheError) : Finds expiry now (.error error) .malformed
  | stale {stored : StoredTable} (old : stored.savedAt + expiry < now) :
      Finds expiry now (.ok (some stored)) .stale
  | malformed {stored : StoredTable} (fresh : now ≤ stored.savedAt + expiry)
      (illegible : ∀ snapshot, Snapshot.ofJson? stored.table = some snapshot → ¬ snapshot.Legible) :
      Finds expiry now (.ok (some stored)) .malformed
  | hit {stored : StoredTable} {snapshot : Snapshot} {table : Table}
      (fresh : now ≤ stored.savedAt + expiry)
      (read : Snapshot.ofJson? stored.table = some snapshot) (stands : snapshot.StandsFor table) :
      Finds expiry now (.ok (some stored)) (.hit table)

variable {expiry now : Nat} {found : Except CacheError (Option StoredTable)} {look other : Look}

theorem Finds.of_decode_ok {stored : StoredTable} {table : Table}
    (fresh : now ≤ stored.savedAt + expiry) (decoded : Table.decode stored.table = .ok table) :
    Finds expiry now (.ok (some stored)) (.hit table) := by
  obtain ⟨snapshot, read, stands⟩ := Table.decode_eq_ok_iff.mp decoded
  exact .hit fresh read stands

theorem Finds.unique (first : Finds expiry now found look) (second : Finds expiry now found other) :
    other = look := by
  cases first with
  | miss => cases second; rfl
  | unreadable error => cases second; rfl
  | stale old =>
    cases second with
    | stale _ => rfl
    | malformed fresh _ => omega
    | hit fresh _ _ => omega
  | malformed fresh illegible =>
    cases second with
    | stale old => omega
    | malformed _ _ => rfl
    | hit _ read stands =>
      exact absurd (Snapshot.legible_iff.mpr ⟨_, Snapshot.toTable_eq_ok_iff.mpr stands⟩)
        (illegible _ read)
  | @hit stored snapshot table fresh read stands =>
    cases second with
    | stale old => omega
    | malformed _ illegible =>
      exact absurd (Snapshot.legible_iff.mpr ⟨_, Snapshot.toTable_eq_ok_iff.mpr stands⟩)
        (illegible _ read)
    | hit _ again others =>
      have first := Table.decode_eq_ok_iff.mpr ⟨_, read, stands⟩
      have second := Table.decode_eq_ok_iff.mpr ⟨_, again, others⟩
      rw [Except.ok.inj (first.symm.trans second)]

theorem Finds.hit_iff (finds : Finds expiry now found look) : look.isHit = true ↔
    ∃ stored snapshot, found = .ok (some stored) ∧ now ≤ stored.savedAt + expiry ∧
      Snapshot.ofJson? stored.table = some snapshot ∧ snapshot.Legible := by
  constructor
  · intro hit
    cases finds with
    | hit fresh read stands =>
      exact ⟨_, _, rfl, fresh, read,
        Snapshot.legible_iff.mpr ⟨_, Snapshot.toTable_eq_ok_iff.mpr stands⟩⟩
    | _ => cases hit
  · rintro ⟨stored, snapshot, rfl, fresh, read, legible⟩
    obtain ⟨table, rebuilt⟩ := Snapshot.legible_iff.mp legible
    rw [← finds.unique (.hit fresh read (Snapshot.toTable_eq_ok_iff.mp rebuilt))]
    rfl

end Look

/-! ### Reports -/

namespace Host

private theorem reported_reported (host : Host) (news later : List Report) :
    (host.reported news).reported later = host.reported (later ++ news) := by
  simp only [reported, List.append_assoc]

/-- After some events, a look has been counted under its name. -/
def Counted (label : String) (before after : Host) : Prop :=
  ∃ events : List Event,
    after = before.reported (.count (.cacheLoads label) :: events.map Report.event)

theorem Counted.total {label : String} {before after : Host} (counted : Counted label before after)
    (series : Series) : after.journal.total series =
      before.journal.total series + if series = Series.cacheLoads label then 1 else 0 := by
  obtain ⟨events, rfl⟩ := counted
  have none : (events.map Report.event).count (.count series) = 0 := by
    rw [List.count_eq_zero]
    intro member
    obtain ⟨event, _, same⟩ := List.mem_map.mp member
    cases same
  simp only [reported, Journal.total, List.cons_append, List.count_cons, List.count_append, none,
    beq_iff_eq, Report.count.injEq, eq_comm (a := series)]
  omega

/-- The change does nothing to a host but report, and reports the same to every host. -/
def OnlyReports (change : Host → Host) : Prop := ∃ news, ∀ host, change host = host.reported news

theorem OnlyReports.id : OnlyReports fun host => host := ⟨[], fun _ => rfl⟩

theorem OnlyReports.report {change : Host → Host} (only : OnlyReports change) (report : Report) :
    OnlyReports fun host => (change host).report report := by
  obtain ⟨news, same⟩ := only
  exact ⟨report :: news, fun host => by simp only [same]; rfl⟩

theorem OnlyReports.foldl {ι : Type} {change : Host → ι → Host}
    (each : ∀ item, OnlyReports fun host => change host item) (items : List ι) :
    OnlyReports fun host => items.foldl change host := by
  induction items with
  | nil => exact .id
  | cons item items ih =>
    obtain ⟨first, now⟩ := each item
    obtain ⟨news, later⟩ := ih
    refine ⟨news ++ first, fun host => ?_⟩
    simp only [List.foldl_cons, later, now, reported_reported]

theorem OnlyReports.registeredAll (entries : List (String × Route)) :
    OnlyReports fun host => host.registeredAll entries :=
  .foldl (fun _ => (OnlyReports.id.report _).report _) entries

end Host

namespace Service

/-- What is done to a service depends on the router only: on every host it has the same
result, leads to the same router, and is reported alike. -/
def ActsAlike {α : Type} (act : Service → α × Service) : Prop :=
  ∀ router, ∃ result after news, ∀ host, act ⟨router, host⟩ = (result, ⟨after, host.reported news⟩)

theorem ActsAlike.addRoute (methods : List String) (template : String) (handler : Handler) :
    ActsAlike (addRoute methods template handler) := by
  intro router
  cases phase : router.phase with
  | finished table => exact ⟨_, router, [], fun host => addRoute_finished phase methods template handler⟩
  | collecting routes fallbacks =>
    by_cases none : methods = []
    · subst none
      let event : Event := {
        level := .debug, area := .router, message := "No methods given, nothing registered"
        fields := [("template", template)] }
      exact ⟨.ok (), router, [.event event], fun host => by
        simp only [Service.addRoute, phase, List.isEmpty_nil, if_true]
        rfl⟩
    cases compiles : router.compile template with
    | error error =>
      exact ⟨_, router, [], fun host => addRoute_refused phase none compiles⟩
    | ok compiled =>
      obtain ⟨news, same⟩ := Host.OnlyReports.registeredAll (methodRoutes methods compiled)
      refine ⟨.ok (), { router with
        phase := .collecting (routes.insertAll (methodRoutes methods compiled) handler) fallbacks },
        news, fun host => ?_⟩
      rw [← same]
      exact addRoute_stored handler phase none compiles

theorem ActsAlike.addFallback (method : String) (handler : Handler) :
    ActsAlike (addFallback method handler) := by
  intro router
  cases phase : router.phase with
  | finished table => exact ⟨_, router, [], fun host => addFallback_finished phase method handler⟩
  | collecting routes fallbacks =>
    have each (method : String) : Host.OnlyReports fun host => host.log {
        level := .debug, area := .router, message := "Adding fallback handler"
        fields := [("method", method)] } :=
      Host.OnlyReports.id.report _
    obtain ⟨news, same⟩ := Host.OnlyReports.foldl each (expandMethods fallbackMethods [method])
    exact ⟨.ok (), _, news, fun host => by simp only [Service.addFallback, phase, same]; rfl⟩

theorem ActsAlike.performUntilError {body : List Command}
    (each : ∀ command ∈ body, ActsAlike fun service => service.perform command) :
    ActsAlike fun service => service.performUntilError body := by
  intro router
  induction body generalizing router with
  | nil => exact ⟨_, router, [], fun host => rfl⟩
  | cons command rest ih =>
    obtain ⟨answer, after, news, first⟩ := each command List.mem_cons_self router
    cases failure : answer.error? with
    | some error =>
      exact ⟨_, after, news, fun host => by simp only [Service.performUntilError, first, failure]; rfl⟩
    | none =>
      obtain ⟨answers, final, more, later⟩ :=
        ih (fun other member => each other (List.mem_cons_of_mem _ member)) after
      exact ⟨_, final, more ++ news, fun host => by
        simp only [Service.performUntilError, first, failure, later, Host.reported_reported]
        rfl⟩

theorem ActsAlike.performAll {commands : List Command}
    (each : ∀ command ∈ commands, ActsAlike fun service => service.perform command) :
    ActsAlike fun service => service.performAll commands := by
  intro router
  induction commands generalizing router with
  | nil => exact ⟨_, router, [], fun host => rfl⟩
  | cons command rest ih =>
    obtain ⟨answer, after, news, first⟩ := each command List.mem_cons_self router
    obtain ⟨answers, final, more, later⟩ :=
      ih (fun other member => each other (List.mem_cons_of_mem _ member)) after
    exact ⟨_, final, more ++ news, fun host => by
      simp only [Service.performAll, first, later, Host.reported_reported]
      rfl⟩

end Service

theorem Command.Registering.actsAlike {command : Command} (registering : command.Registering) :
    Service.ActsAlike fun service => service.perform command := by
  induction registering with
  | register methods template handler =>
    intro router
    obtain ⟨result, after, news, same⟩ := Service.ActsAlike.addRoute methods template handler router
    exact ⟨_, after, news, fun host => by simp only [Service.perform, same]; rfl⟩
  | registerFallback method handler =>
    intro router
    obtain ⟨result, after, news, same⟩ := Service.ActsAlike.addFallback method handler router
    exact ⟨_, after, news, fun host => by simp only [Service.perform, same]; rfl⟩
  | @group stem body _ each =>
    intro router
    obtain ⟨result, after, news, same⟩ := Service.ActsAlike.performUntilError each
      { router with stem := router.stem ++ stem }
    exact ⟨_, _, news, fun host => by simp only [Service.perform, Service.group, same]; rfl⟩

/-! ### Looks of a router -/

namespace Service

/-- The answer of a store has the effect of what it comes to, and the look is counted. -/
theorem received_finds (service : Service) (expiry : Nat) (host : Host)
    (found : Except CacheError (Option StoredTable)) :
    ∃ look after, Look.Finds expiry host.now found look ∧ Host.Counted look.label host after ∧
      service.received expiry host found = (.ok look.isHit, ⟨look.turn service.router, after⟩) := by
  match found with
  | .ok none => exact ⟨.miss, _, .miss, ⟨[], rfl⟩, rfl⟩
  | .error error => exact ⟨.malformed, _, .unreadable error, ⟨[_], rfl⟩, rfl⟩
  | .ok (some stored) =>
    simp only [received]
    by_cases fresh : stored.isFresh expiry host.now = true
    · have age := StoredTable.isFresh_iff.mp fresh
      simp only [fresh, Bool.not_true, Bool.false_eq_true, if_false]
      cases decoded : Table.decode stored.table with
      | error error =>
        exact ⟨.malformed, _, .malformed age (Table.decode_eq_error_iff.mp ⟨error, decoded⟩),
          ⟨[_], rfl⟩, rfl⟩
      | ok table => exact ⟨.hit table, _, .of_decode_ok age decoded, ⟨[_], rfl⟩, rfl⟩
    · have age := mt StoredTable.isFresh_iff.mpr fresh
      simp only [fresh, Bool.not_false, if_true]
      exact ⟨.stale, _, .stale (by omega), ⟨[_], rfl⟩, rfl⟩

section

variable {keep : Store → Keeper} {service : Service}

private theorem loadCacheBy_closed (closed : service.router.isFinished = true) :
    service.loadCacheBy keep = (.error .registrationClosed, service) := by
  simp only [loadCacheBy, closed, if_true]

private theorem loadCacheBy_inactive (open_ : service.router.isFinished = false)
    (none : service.router.activeCache? = none) :
    service.loadCacheBy keep = (.ok false, service) := by
  simp only [loadCacheBy, open_, none, Bool.false_eq_true, if_false]

private theorem loadCacheBy_finds {cache : Cache} (open_ : service.router.isFinished = false)
    (active : service.router.activeCache? = some cache) :
    let answer := (keep cache.store).load service.host
    ∃ look after, Look.Finds cache.expiry answer.2.now answer.1 look ∧
      Host.Counted look.label answer.2 after ∧
      service.loadCacheBy keep = (.ok look.isHit, ⟨look.turn service.router, after⟩) := by
  intro answer
  obtain ⟨look, after, finds, counted, received⟩ :=
    service.received_finds cache.expiry answer.2 answer.1
  refine ⟨look, after, finds, counted, ?_⟩
  rw [← received]
  simp only [loadCacheBy, open_, active, Bool.false_eq_true, if_false]
  rfl

/-- A look that is no hit leaves the router as it was. -/
theorem loadCacheBy_router (noHit : (service.loadCacheBy keep).1 ≠ .ok true) :
    (service.loadCacheBy keep).2.router = service.router := by
  cases closed : service.router.isFinished with
  | true => rw [loadCacheBy_closed closed]
  | false =>
    cases active : service.router.activeCache? with
    | none => rw [loadCacheBy_inactive closed active]
    | some cache =>
      obtain ⟨look, after, _, _, looked⟩ := loadCacheBy_finds closed active
      rw [looked] at noHit ⊢
      exact Look.turn_of_noHit (fun hit => noHit (congrArg Except.ok hit)) _

end

/-- A look into the cache is decided by what the store answers, and does nothing unless it
is a hit. A router with a fixed table refuses it. Without a cache that is switched on,
nothing happens. Otherwise the answer of the store comes to exactly one of a miss, a stale,
a malformed and a fresh table, the look is counted once and under that name, and the router
has the table from then on if it is fresh, and is left as it was if not. In the latter case
all later registrations have the same answers, the same reports and the same effect as if
there had been no look. The stores at hand do nothing but log when they are read. -/
theorem loadCache_decides (keep : Store → Keeper) (service : Service) :
    let loaded := service.loadCacheBy keep
    (service.router.isFinished = true → loaded = (.error .registrationClosed, service)) ∧
    (service.router.isFinished = false → service.router.activeCache? = none →
      loaded = (.ok false, service)) ∧
    (∀ cache, service.router.isFinished = false → service.router.activeCache? = some cache →
      let answer := (keep cache.store).load service.host
      ∃ look, (∀ other, Look.Finds cache.expiry answer.2.now answer.1 other ↔ other = look) ∧
        (look.isHit = true ↔ ∃ stored snapshot, answer.1 = .ok (some stored) ∧
          answer.2.now ≤ stored.savedAt + cache.expiry ∧
          Snapshot.ofJson? stored.table = some snapshot ∧ snapshot.Legible) ∧
        loaded.1 = .ok look.isHit ∧ loaded.2.router = look.turn service.router ∧
        Host.Counted look.label answer.2 loaded.2.host ∧
        ∀ series, loaded.2.host.journal.total series = answer.2.journal.total series +
          if series = Series.cacheLoads look.label then 1 else 0) ∧
    (loaded.1 ≠ .ok true → loaded.2.router = service.router ∧
      ∀ commands : List Command, (∀ command ∈ commands, command.Registering) →
        ∃ answers after news,
          loaded.2.performAll commands = (answers, ⟨after, loaded.2.host.reported news⟩) ∧
          service.performAll commands = (answers, ⟨after, service.host.reported news⟩)) ∧
    service.loadCacheBy Store.keeper = service.loadCache ∧
    ∀ (store : Store) (host : Host), ∃ events : List Event,
      store.load host = (store.content host, host.reported (events.map Report.event)) := by
  intro loaded
  refine ⟨loadCacheBy_closed, loadCacheBy_inactive, ?_, ?_, loadCacheBy_keeper service, Store.load_eq⟩
  · intro cache open_ active answer
    obtain ⟨look, after, finds, counted, looked⟩ := loadCacheBy_finds open_ active
    rw [show loaded = _ from looked]
    exact ⟨look, fun other => ⟨finds.unique, fun same => same ▸ finds⟩, finds.hit_iff, rfl, rfl,
      counted, counted.total⟩
  · intro noHit
    have router : loaded.2.router = service.router := loadCacheBy_router noHit
    refine ⟨router, fun commands registering => ?_⟩
    obtain ⟨answers, after, news, same⟩ := ActsAlike.performAll
      (fun command member => (registering command member).actsAlike) service.router
    refine ⟨answers, after, news, ?_, same service.host⟩
    rw [← same, ← router]

/-- A table in the memory cell and a value that is no table, each at the last moment at which
it counts and one second later; and an empty cell. -/
theorem loadCache_decides_at_expiry :
    let snapshot : Snapshot := {
      static := OrderedMap.ofList [("GET", OrderedMap.ofList [("/a", "first")])]
      dynamic := OrderedMap.ofList [("PUT", OrderedMap.ofList [("^/(?P<b>x)$", "second")])]
      fallbacks := OrderedMap.ofList [("GET", "lost")] }
    let kept (now : Nat) (cell : Option StoredTable) : Service :=
      ⟨{ cache := some { store := .memory, expiry := 5 } }, { now, cell }⟩
    let counted (name : String) (service : Service) : Nat :=
      service.loadCache.2.host.journal.total (.cacheLoads name)
    let fresh := kept 7 (some ⟨2, snapshot.toJson⟩)
    let late := kept 8 (some ⟨2, snapshot.toJson⟩)
    let broken (now : Nat) := kept now (some ⟨2, .null⟩)
    (fresh.loadCache.1 = .ok true ∧ counted "hit" fresh = 1 ∧ ∃ table,
      fresh.loadCache.2.router.phase = .finished table ∧ Snapshot.ofTable table = snapshot) ∧
    (late.loadCache.1 = .ok false ∧ counted "stale" late = 1) ∧
    ((broken 7).loadCache.1 = .ok false ∧ counted "malformed" (broken 7) = 1) ∧
    ((broken 8).loadCache.1 = .ok false ∧ counted "stale" (broken 8) = 1) ∧
    (kept 8 none).loadCache.1 = .ok false ∧ counted "miss" (kept 8 none) = 1 := by
  intro snapshot kept counted fresh late broken
  have looks : ∀ now cell look, Look.Finds 5 now (.ok cell) look →
      (kept now cell).loadCache.1 = .ok look.isHit ∧
        counted look.label (kept now cell) = 1 ∧
        (kept now cell).loadCache.2.router = look.turn (kept now cell).router := by
    intro now cell look finds
    obtain ⟨_, _, decided, _, same, _⟩ := loadCache_decides Store.keeper (kept now cell)
    obtain ⟨other, only, _, result, router, _, total⟩ := decided _ rfl rfl
    obtain rfl : look = other := (only look).mp finds
    simp only [counted, ← same]
    refine ⟨result, (total _).trans ?_, router⟩
    rw [if_pos rfl]
    rfl
  have decodes : (Table.decode snapshot.toJson).map Snapshot.ofTable = .ok snapshot := by
    decide +kernel
  obtain ⟨table, decoded, entries⟩ := exists_of_map_ok decodes
  obtain ⟨hit, once, router⟩ := looks 7 (some ⟨2, snapshot.toJson⟩) _
    (.of_decode_ok (by decide) decoded)
  obtain ⟨stale, onceStale, _⟩ := looks 8 (some ⟨2, snapshot.toJson⟩) _ (.stale (by decide))
  obtain ⟨malformed, onceMalformed, _⟩ := looks 7 (some ⟨2, .null⟩) _
    (.malformed (by decide) fun _ read => nomatch read)
  obtain ⟨old, onceOld, _⟩ := looks 8 (some ⟨2, .null⟩) _ (.stale (by decide))
  obtain ⟨miss, onceMiss, _⟩ := looks 8 none _ .miss
  exact ⟨⟨hit, once, table, congrArg Router.phase router, entries⟩, ⟨stale, onceStale⟩,
    ⟨malformed, onceMalformed⟩, ⟨old, onceOld⟩, miss, onceMiss⟩

end Service

end PathRouting
