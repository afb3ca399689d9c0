import PathRouting.Config.Build
import PathRouting.Proofs.CachedDispatch
import PathRouting.Proofs.KeptTables

/-! Routers that are built from a configuration. A cache can make the registrations
unnecessary, and that is all it can do: whatever its file holds, a build either takes a
fresh table from it or leads to what the same build leads to without a cache. The file is
then replaced by a table that later builds take. -/

namespace PathRouting

/-! ### Errors of templates -/

theorem Template.parse_error {aliases : AliasTable} {template : String} {error : RouteError}
    (failed : parse aliases template = .error error) : error ≠ .registrationClosed := by
  have reason := error_of_map_error failed
  simp only [routes] at reason
  repeat' split at reason
  all_goals cases reason
  all_goals simp

theorem Route.compile_error {tokens : List Token} {error : RouteError}
    (failed : Route.compile tokens = .error error) : error ≠ .registrationClosed := by
  simp only [Route.compile] at failed
  split at failed
  · cases failed
  · have reason := error_of_map_error failed
    simp only [Matcher.ofTokens] at reason
    split at reason
    · cases reason
      simp
    · have unreadable := error_of_map_error reason
      simp only [Matcher.ofSource] at unreadable
      split at unreadable
      · cases unreadable
        simp
      · cases unreadable

theorem Router.compile_error {router : Router} {template : String} {error : RouteError}
    (failed : router.compile template = .error error) : error ≠ .registrationClosed := by
  simp only [compile, bind, Except.bind] at failed
  split at failed
  next reason parsed =>
    cases failed
    exact Template.parse_error parsed
  next expansions parsed =>
    obtain ⟨tokens, _, compiles⟩ := exists_of_mapM_error failed
    exact Route.compile_error compiles

/-! ### Commands that register -/

namespace Command

/-- The command registers routes or fallbacks and does nothing else, also within groups. -/
inductive Registering : Command → Prop where
  | register (methods : List String) (template : String) (handler : Handler) :
      Registering (register methods template handler)
  | registerFallback (method : String) (handler : Handler) :
      Registering (registerFallback method handler)
  | group (stem : String) {body : List Command} (inside : ∀ command ∈ body, Registering command) :
      Registering (group stem body)

/-- The command answers alike, and leads to the same routers, whatever cache is attached. -/
def IgnoresCache (command : Command) : Prop :=
  ∀ (cache : Option Cache) (one two : Service), one.router = { two.router with cache } →
    (one.perform command).1 = (two.perform command).1 ∧
      (one.perform command).2.router = { (two.perform command).2.router with cache }

def Collects (command : Command) : Prop :=
  ∀ (log : Log) (service : Service), Service.Collected log service →
    (service.perform command).1.error? ≠ some .registrationClosed ∧
      ∃ more, Service.Collected more (service.perform command).2

end Command

namespace Service

variable {one two service : Service} {cache : Option Cache} {log : Log}

private theorem addRoute_ignoresCache (alike : one.router = { two.router with cache })
    (methods : List String) (template : String) (handler : Handler) :
    (one.addRoute methods template handler).1 = (two.addRoute methods template handler).1 ∧
      (one.addRoute methods template handler).2.router =
        { (two.addRoute methods template handler).2.router with cache } := by
  have phases : one.router.phase = two.router.phase := by rw [alike]
  cases phase : two.router.phase with
  | finished table =>
    rw [addRoute_finished (phases.trans phase), addRoute_finished phase]
    exact ⟨rfl, alike⟩
  | collecting routes fallbacks =>
    rw [phase] at phases
    by_cases none : methods = []
    · subst none
      obtain ⟨_, first⟩ := addRoute_nothing template handler phases
      obtain ⟨_, second⟩ := addRoute_nothing template handler phase
      rw [first, second]
      exact ⟨rfl, alike⟩
    have compiles : one.router.compile template = two.router.compile template := by
      rw [alike]
      rfl
    cases result : two.router.compile template with
    | error error =>
      rw [addRoute_refused phases none (compiles.trans result), addRoute_refused phase none result]
      exact ⟨rfl, alike⟩
    | ok compiled =>
      rw [addRoute_stored handler phases none (compiles.trans result),
        addRoute_stored handler phase none result]
      exact ⟨rfl, by simp only [alike]⟩

private theorem addFallback_ignoresCache (alike : one.router = { two.router with cache })
    (method : String) (handler : Handler) :
    (one.addFallback method handler).1 = (two.addFallback method handler).1 ∧
      (one.addFallback method handler).2.router =
        { (two.addFallback method handler).2.router with cache } := by
  have phases : one.router.phase = two.router.phase := by rw [alike]
  cases phase : two.router.phase with
  | finished table =>
    rw [addFallback_finished (phases.trans phase), addFallback_finished phase]
    exact ⟨rfl, alike⟩
  | collecting routes fallbacks =>
    rw [phase] at phases
    obtain ⟨_, first⟩ := addFallback_collecting phases method handler
    obtain ⟨_, second⟩ := addFallback_collecting phase method handler
    rw [first, second]
    exact ⟨rfl, by simp only [alike]⟩

private theorem performUntilError_ignoresCache {body : List Command}
    (each : ∀ command ∈ body, command.IgnoresCache) (cache : Option Cache) (one two : Service)
    (alike : one.router = { two.router with cache }) :
    (one.performUntilError body).1 = (two.performUntilError body).1 ∧
      (one.performUntilError body).2.router =
        { (two.performUntilError body).2.router with cache } := by
  induction body generalizing one two with
  | nil => exact ⟨rfl, alike⟩
  | cons command rest ih =>
    obtain ⟨answer, after⟩ := each command List.mem_cons_self cache one two alike
    have further := ih (fun other member => each other (List.mem_cons_of_mem _ member)) _ _ after
    simp only [performUntilError, answer]
    cases (two.perform command).1.error? with
    | some error => exact ⟨rfl, after⟩
    | none =>
      simp only [further.1]
      exact ⟨trivial, further.2⟩

private theorem addRoute_inTime (collected : Collected log service) (methods : List String)
    (template : String) (handler : Handler) :
    (service.addRoute methods template handler).1 ≠ .error .registrationClosed := by
  obtain ⟨routes, fallbacks, phase, _, _⟩ := collected.tables
  obtain ⟨_, _, unchanged⟩ | ⟨error, _, bad, refused⟩ | ⟨compiled, _, _, stored⟩ :=
    addRoute_cases phase methods template handler
  · simp [unchanged]
  · rw [refused]
    simpa using Router.compile_error bad
  · simp [stored]

private theorem addFallback_inTime (collected : Collected log service) (method : String)
    (handler : Handler) : (service.addFallback method handler).1 ≠ .error .registrationClosed := by
  obtain ⟨routes, fallbacks, phase, _, _⟩ := collected.tables
  obtain ⟨_, added⟩ := addFallback_collecting phase method handler
  simp [added]

private theorem performUntilError_collects {body : List Command}
    (each : ∀ command ∈ body, command.Collects) (log : Log) (service : Service)
    (collected : Collected log service) :
    (service.performUntilError body).1.2 ≠ some .registrationClosed ∧
      ∃ more, Collected more (service.performUntilError body).2 := by
  induction body generalizing log service with
  | nil => exact ⟨nofun, log, collected⟩
  | cons command rest ih =>
    obtain ⟨inTime, more, after⟩ := each command List.mem_cons_self log service collected
    have further := ih (fun other member => each other (List.mem_cons_of_mem _ member)) more _ after
    simp only [performUntilError]
    cases failure : (service.perform command).1.error? with
    | some error =>
      rw [failure] at inTime
      exact ⟨inTime, more, after⟩
    | none => exact further

end Service

theorem Answer.error?_ofRegistration {result : Except RouteError Unit} {error : RouteError} :
    (ofRegistration result).error? = some error ↔ result = .error error := by
  cases result <;> simp [ofRegistration, error?]

namespace Command.Registering

variable {command : Command}

private theorem ignoresCache (registering : command.Registering) : command.IgnoresCache := by
  induction registering with
  | register methods template handler =>
    intro cache one two alike
    obtain ⟨result, after⟩ := Service.addRoute_ignoresCache alike methods template handler
    exact ⟨congrArg Answer.ofRegistration result, after⟩
  | registerFallback method handler =>
    intro cache one two alike
    obtain ⟨result, after⟩ := Service.addFallback_ignoresCache alike method handler
    exact ⟨congrArg Answer.ofRegistration result, after⟩
  | @group stem body _ each =>
    intro cache one two alike
    have entered : (one.inGroup stem).router = { (two.inGroup stem).router with cache } := by
      simp only [Service.inGroup, alike]
    obtain ⟨answers, after⟩ := Service.performUntilError_ignoresCache each cache _ _ entered
    have stems : one.router.stem = two.router.stem := by rw [alike]
    have left : ∀ service : Service,
        let inside := (service.inGroup stem).performUntilError body
        let router := inside.2.router.cutStem service.router.stem.length
        service.perform (.group stem body) =
          (.group inside.1.2 inside.1.1 router.stem, { inside.2 with router }) := fun _ => rfl
    simp only [left, answers, after, stems]
    exact ⟨rfl, rfl⟩

private theorem collects (registering : command.Registering) : command.Collects := by
  induction registering with
  | register methods template handler =>
    intro log service collected
    refine ⟨fun refused => ?_, _, collected.addRoute methods template handler⟩
    exact Service.addRoute_inTime collected _ _ _ (Answer.error?_ofRegistration.mp refused)
  | registerFallback method handler =>
    intro log service collected
    refine ⟨fun refused => ?_, _, collected.addFallback method handler⟩
    exact Service.addFallback_inTime collected _ _ (Answer.error?_ofRegistration.mp refused)
  | group stem _ each =>
    intro log service collected
    obtain ⟨inTime, more, after⟩ := Service.performUntilError_collects each log
      (service.inGroup stem) (collected.of_phase rfl)
    exact ⟨inTime, more, after.of_phase rfl⟩

end Command.Registering

/-! ### Builds -/

/-- The store of the cache holds a table that is fresh and can be rebuilt. -/
def Cache.Holds (cache : Cache) (host : Host) (table : Table) : Prop :=
  ∃ stored, cache.store.content host = .ok (some stored) ∧
    stored.isFresh cache.expiry host.now = true ∧ Table.decode stored.table = .ok table

theorem Cache.Holds.unique {cache : Cache} {host : Host} {table other : Table}
    (holds : cache.Holds host table) (again : cache.Holds host other) : table = other := by
  obtain ⟨stored, kept, _, decoded⟩ := holds
  obtain ⟨_, same, _, decodedAgain⟩ := again
  cases kept.symm.trans same
  cases decoded.symm.trans decodedAgain
  rfl

theorem Store.now_load (store : Store) (host : Host) : (store.load host).2.now = host.now := by
  obtain ⟨_, read⟩ := store.load_eq host
  rw [read]
  rfl

namespace Config

mutual

theorem Group.registering : ∀ group : Group, group.command.Registering
  | .mk stem routes groups => by
    refine .group stem fun command member => ?_
    rcases List.mem_append.mp member with own | inner
    · obtain ⟨route, _, rfl⟩ := List.mem_map.mp own
      exact .register _ _ _
    · exact groupCommands_registering groups command inner

private theorem groupCommands_registering :
    ∀ (groups : List Group), ∀ command ∈ groupCommands groups, command.Registering
  | [], _, member => nomatch member
  | group :: rest, command, member => by
    rcases List.mem_cons.mp member with rfl | later
    · exact group.registering
    · exact groupCommands_registering rest command later

end

variable (config : Config) (host : Host)

private theorem script_registering : ∀ command ∈ config.script, command.Registering := by
  intro command member
  rcases List.mem_append.mp member with routed | fallback
  · rcases List.mem_append.mp routed with route | group
    · obtain ⟨route, _, rfl⟩ := List.mem_map.mp route
      exact .register _ _ _
    · exact groupCommands_registering config.groups command group
  · obtain ⟨fallback, _, inside⟩ := List.mem_flatMap.mp fallback
    obtain ⟨method, _, rfl⟩ := List.mem_map.mp inside
    exact .registerFallback _ _

def uncached : Config := { config with cache := { config.cache with enabled := false } }

def fresh : Router := { aliases := config.allAliases, cache := config.cache? }

private theorem activeCache?_fresh : config.fresh.activeCache? = config.cache? := by
  rw [Router.activeCache?, fresh, cache?]
  split
  · cases config.cache.path <;> rfl
  · rfl

private theorem build_of_hit {after : Service}
    (loaded : Service.loadCache ⟨config.fresh, host⟩ = (.ok true, after)) :
    config.build host = (.ok (), after) := by
  rw [fresh] at loaded
  simp only [build, loaded]

theorem build_of_miss {after : Service}
    (missed : Service.loadCache ⟨config.fresh, host⟩ = (.ok false, after)) :
    config.build host = config.register after := by
  rw [fresh] at missed
  simp only [build, missed]

/-- A build takes the table that the cache holds, or it registers what is listed. -/
theorem build_cases :
    (∃ cache table after, config.cache? = some cache ∧ cache.Holds host table ∧
      config.build host = (.ok (), ⟨{ config.fresh with phase := .finished table }, after⟩)) ∨
    ((∀ cache table, config.cache? = some cache → ¬ cache.Holds host table) ∧
      ∃ after, config.build host = config.register ⟨config.fresh, after⟩) := by
  have open_ : config.fresh.isFinished = false := rfl
  have loading : Service.loadCache ⟨config.fresh, host⟩ =
      Service.loadCacheBy Store.keeper ⟨config.fresh, host⟩ := (Service.loadCacheBy_keeper _).symm
  simp only [Service.loadCacheBy, open_, Bool.false_eq_true, if_false, activeCache?_fresh] at loading
  cases attached : config.cache? with
  | none =>
    rw [attached] at loading
    refine .inr ⟨fun cache table same => ?_, host, config.build_of_miss host loading⟩
    cases same
  | some cache =>
    simp only [attached, Store.keeper] at loading
    obtain ⟨stored, table, after, found, fresh, decoded, hit⟩ | ⟨unfit, after, missed⟩ :=
      Service.received_cases ⟨config.fresh, host⟩ cache.expiry (cache.store.load host).2
        (cache.store.load host).1
    · rw [Store.load_fst] at found
      rw [Store.now_load] at fresh
      exact .inl ⟨cache, table, after, rfl, ⟨stored, found, fresh, decoded⟩,
        config.build_of_hit host (loading.trans hit)⟩
    · refine .inr ⟨?_, after, config.build_of_miss host (loading.trans missed)⟩
      rintro _ table same ⟨stored, kept, fresh, decoded⟩
      cases same
      exact unfit stored table ((Store.load_fst _ _).trans kept)
        ((Store.now_load _ _).symm ▸ fresh) decoded

theorem register_eq (service : Service) : config.register service =
    ((match (service.performUntilError config.script).1.2 with
      | none => .ok ()
      | some error => .error error), (service.performUntilError config.script).2) := by
  rw [register]
  rcases service.performUntilError config.script with ⟨⟨_, _ | _⟩, _⟩ <;> rfl

private theorem register_ignoresCache {cache : Option Cache} {one two : Service}
    (alike : one.router = { two.router with cache }) :
    (config.register one).1 = (config.register two).1 ∧
      (config.register one).2.router = { (config.register two).2.router with cache } := by
  obtain ⟨answers, after⟩ := Service.performUntilError_ignoresCache
    (fun command member => (config.script_registering command member).ignoresCache) cache one two alike
  simp only [register_eq, answers]
  exact ⟨trivial, after⟩

private theorem register_collects {log : Log} {service : Service}
    (collected : Service.Collected log service) :
    (config.register service).1 ≠ .error .registrationClosed ∧
      ∃ more, Service.Collected more (config.register service).2 := by
  obtain ⟨inTime, more, after⟩ := Service.performUntilError_collects
    (fun command member => (config.script_registering command member).collects) log service collected
  rw [register_eq]
  refine ⟨fun refused => inTime ?_, more, after⟩
  simp only at refused
  split at refused
  · cases refused
  next error failure =>
    cases refused
    exact failure

structure CachedAt (config : Config) (path : String) : Prop where
  enabled : config.cache.enabled = true
  located : config.cache.path = some path

def cacheAt (path : String) : Cache := { store := .file path, expiry := config.cache.expiry }

theorem CachedAt.cache? {path : String} (cached : config.CachedAt path) :
    config.cache? = some (config.cacheAt path) := by
  rw [Config.cache?, cached.enabled, cached.located]
  rfl

section

variable {config host} {path : String}

private theorem build_holds (cached : config.CachedAt path) {table : Table}
    (holds : (config.cacheAt path).Holds host table) :
    ∃ built, config.build host = (.ok (), built) ∧ built.router.phase = .finished table := by
  obtain ⟨cache, other, after, attached, found, built⟩ | ⟨nothing, _⟩ := config.build_cases host
  · cases cached.cache?.symm.trans attached
    cases found.unique holds
    exact ⟨_, built, rfl⟩
  · exact absurd holds (nothing _ _ cached.cache?)

private theorem build_misses (cached : config.CachedAt path)
    (nothing : ∀ table, ¬ (config.cacheAt path).Holds host table) :
    (config.build host).1 = (config.uncached.build host).1 ∧
      (config.build host).2.router = { (config.uncached.build host).2.router with
        cache := some (config.cacheAt path) } ∧
      ∃ log, Service.Collected log (config.build host).2 := by
  obtain ⟨cache, table, _, attached, holds, _⟩ | ⟨_, after, built⟩ := config.build_cases host
  · cases cached.cache?.symm.trans attached
    exact absurd holds (nothing table)
  obtain ⟨_, _, _, attached, _⟩ | ⟨_, plain, builtPlain⟩ := config.uncached.build_cases host
  · cases attached
  have alike : (Service.mk config.fresh after).router =
      { (Service.mk config.uncached.fresh plain).router with cache := some (config.cacheAt path) } := by
    simp only [fresh, cached.cache?]
    rfl
  have same := config.register_ignoresCache alike
  rw [built, builtPlain]
  refine ⟨same.1, same.2, ?_⟩
  exact (config.register_collects (Service.Collected.initial _ _ _)).2

private theorem build_inTime : (config.build host).1 ≠ .error .registrationClosed := by
  obtain ⟨_, _, _, _, _, built⟩ | ⟨_, after, built⟩ := config.build_cases host
  · simp [built]
  · rw [built]
    exact (config.register_collects (Service.Collected.initial _ _ _)).1

/-- An open router that a build has given keeps its table where other builds find it. -/
theorem holds_finish (cached : config.CachedAt path)
    (open_ : (config.build host).2.router.isFinished = false) {moment : Host}
    (clock : moment.now < 0x10000000000000000) (writable : moment.files.Writable path)
    {other : Config} {later : Host} :
    let finished := (Service.mk (config.build host).2.router moment).finish
    later.files.get? path = finished.2.host.files.get? path →
      later.now ≤ moment.now + other.cache.expiry →
      (other.cacheAt path).Holds later finished.1.reloaded := by
  intro finished kept age
  have nothing : ∀ table, ¬ (config.cacheAt path).Holds host table := by
    intro table holds
    obtain ⟨built, same, phase⟩ := build_holds cached holds
    rw [same, Service.isFinished_iff.mpr ⟨table, phase⟩] at open_
    cases open_
  obtain ⟨_, router, log, collected⟩ := build_misses cached nothing
  have moved : Service.Collected log ⟨(config.build host).2.router, moment⟩ := collected.of_phase rfl
  have active : (Service.mk (config.build host).2.router moment).router.activeCache? =
      some (config.cacheAt path) := by
    rw [Router.activeCache?, router]
    rfl
  obtain ⟨routes, fallbacks, phase, _, _⟩ := moved.tables
  obtain ⟨_, saved⟩ := Store.save_writable writable ⟨moment.now, finished.1.encode⟩
  have content := Service.content_finish phase active clock (congrArg Prod.fst saved)
  have same : (Store.file path).content later = (Store.file path).content finished.2.host := by
    simp only [Store.content, kept]
  exact ⟨⟨moment.now, finished.1.encode⟩, same.trans content,
    decide_eq_true (Nat.sub_le_iff_le_add'.mpr age), Table.decode_encode moved.replays.readable⟩

/-- A cache never changes what a configuration means. A build takes the table that the file
holds, if it is fresh and can be rebuilt. Whatever else is there, the build gives the same
error as without a cache, or an open router that is the same but for its cache; it is never
too late. And when such a router has fixed its table, at any later time and with a file
that can be written, then every build that uses the same file takes that table until it
has expired. -/
theorem build_cached (config : Config) (path : String) (host : Host) (cached : config.CachedAt path) :
    (config.build host).1 ≠ .error .registrationClosed ∧
    (∀ table, (config.cacheAt path).Holds host table →
      ∃ built, config.build host = (.ok (), built) ∧ built.router.phase = .finished table) ∧
    ((∀ table, ¬ (config.cacheAt path).Holds host table) →
      (config.build host).1 = (config.uncached.build host).1 ∧
      (config.build host).2.router = { (config.uncached.build host).2.router with
        cache := some (config.cacheAt path) } ∧
      (config.build host).2.router.isFinished = false) ∧
    ((config.build host).1 = .ok () → (config.build host).2.router.isFinished = false →
      ∀ moment : Host, moment.now < 0x10000000000000000 → moment.files.Writable path →
      let finished := (Service.mk (config.build host).2.router moment).finish
      ∀ (other : Config) (later : Host), other.CachedAt path →
        later.files.get? path = finished.2.host.files.get? path →
        later.now ≤ moment.now + other.cache.expiry →
        ∃ table again, other.build later = (.ok (), again) ∧
          again.router.phase = .finished table ∧ table.SortedCopy finished.1) := by
  refine ⟨build_inTime, fun table => build_holds cached, fun nothing => ?_, ?_⟩
  · obtain ⟨result, router, log, collected⟩ := build_misses cached nothing
    obtain ⟨routes, fallbacks, phase, _, _⟩ := collected.tables
    exact ⟨result, router, by simp only [Router.isFinished, phase]⟩
  · intro _ open_ moment clock writable finished other later otherCached kept age
    have holds := holds_finish cached open_ clock writable kept age
    obtain ⟨again, built, phase⟩ := build_holds otherCached holds
    exact ⟨_, again, built, phase, finished.1.sortedCopy_reloaded⟩

end

/-- A cache without a file, which the first build leaves open and from which, at the last
moment at which it counts, another build takes the table of the first. -/
theorem build_cached_absent :
    let cache : CacheUse := { enabled := true, path := some "c", expiry := 60 }
    let config : Config := { cache, routes := [{ pattern := "/x[/{id}]", handler := "h" }] }
    let other : Config := { cache }
    let first := config.build {}
    let finished := (Service.mk first.2.router {}).finish
    first.1 = .ok () ∧ first.2.router.isFinished = false ∧
      ∃ table again, other.build { finished.2.host with now := 60 } = (.ok (), again) ∧
        again.router.phase = .finished table ∧ table.SortedCopy finished.1 := by
  intro cache config other first finished
  have nothing : ∀ table, ¬ (config.cacheAt "c").Holds {} table := by
    rintro table ⟨stored, kept, _⟩
    have absent : Files.empty.get? "c" = none := Files.get?_empty Files.writable_empty
    simp only [cacheAt, Store.content, absent, Except.ok.injEq, reduceCtorEq] at kept
  obtain ⟨_, _, misses, repaired⟩ := build_cached config "c" {} ⟨rfl, rfl⟩
  obtain ⟨result, router, open_⟩ := misses nothing
  have accepted : first.1 = .ok () := result.trans (by decide +kernel)
  exact ⟨accepted, open_,
    repaired accepted open_ {} (by decide) Files.writable_empty other _ ⟨rfl, rfl⟩ rfl (by decide)⟩

end Config

end PathRouting
