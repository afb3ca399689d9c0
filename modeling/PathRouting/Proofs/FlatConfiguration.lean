import PathRouting.Proofs.ConfiguredRouters
import PathRouting.Proofs.GroupStems
import PathRouting.Proofs.IndependentCalls

/-! Configurations without their groups. A group puts its stem in front of the templates in
it, so a configuration comes to one list of routes: those outside of groups, then group by
group its own routes and those of its inner groups. To build a router without a cache is
to register this list in order, and after it the fallbacks. -/

namespace PathRouting

/-- The entries that a fallback is written as, by the methods that its method stands for. -/
def Fallbacks.written (method : String) (handler : Handler) : List (String × Handler) :=
  (expandMethods fallbackMethods [method]).map fun each => (each, handler)

namespace Config

def RouteEntry.under (stem : String) (entry : RouteEntry) : RouteEntry :=
  { entry with pattern := stem ++ entry.pattern }

mutual

def Group.entries (stem : String) : Group → List RouteEntry
  | .mk inner routes groups =>
    routes.map (RouteEntry.under (stem ++ inner)) ++ groupEntries (stem ++ inner) groups

def groupEntries (stem : String) : List Group → List RouteEntry
  | [] => []
  | group :: rest => group.entries stem ++ groupEntries stem rest

end

/-- All routes of a configuration, with the stems of their groups in front. -/
def entries (config : Config) : List RouteEntry :=
  config.routes ++ groupEntries "" config.groups

def fallbackList (config : Config) : List (String × Handler) :=
  config.fallbacks.flatMap fun fallback => fallback.methods.map fun method =>
    (method, fallback.handler)

namespace RouteEntry

def call (entry : RouteEntry) : Call := .route entry.methods entry.pattern entry.handler

def operation (entry : RouteEntry) : Operation :=
  .register entry.methods entry.pattern entry.handler

def compile (aliases : AliasTable) (entry : RouteEntry) : Except RouteError (List Route) := do
  (← Template.parse aliases entry.pattern).mapM Route.compile

/-- The error that registering the entry gives. Without methods the template is not read. -/
def error? (aliases : AliasTable) (entry : RouteEntry) : Option RouteError :=
  if entry.methods.isEmpty then none
  else
    match entry.compile aliases with
    | .ok _ => none
    | .error error => some error

variable {aliases : AliasTable} {entry : RouteEntry}

theorem error?_eq_none_iff : entry.error? aliases = none ↔
    (entry.methods ≠ [] → ∃ compiled, entry.compile aliases = .ok compiled) := by
  rw [error?]
  cases entry.methods with
  | nil => simp
  | cons method methods => cases entry.compile aliases <;> simp

theorem error?_eq_some_iff {error : RouteError} : entry.error? aliases = some error ↔
    entry.methods ≠ [] ∧ entry.compile aliases = .error error := by
  rw [error?]
  cases entry.methods with
  | nil => simp
  | cons method methods => cases entry.compile aliases <;> simp

theorem compile_router {router : Router} (same : router.aliases = aliases)
    (outside : router.stem = "") : router.compile entry.pattern = entry.compile aliases := by
  rw [Router.compile, compile, same, outside, String.empty_append]

end RouteEntry

/-! ### Configurations as uses of a router -/

mutual

def Group.use : Group → Use
  | .mk stem routes groups =>
    .group stem ((routes.map fun route => .once route.operation) ++ groupUses groups)

def groupUses : List Group → List Use
  | [] => []
  | group :: rest => group.use :: groupUses rest

end

def uses (config : Config) : List Use :=
  (config.routes.map fun route => .once route.operation) ++ groupUses config.groups ++
    config.fallbackList.map fun listed => .once (.registerFallback listed.1 listed.2)

end Config

namespace Use

private theorem commands?_append {first second : List Use} {commands others : List Command}
    (those : commands? first = some commands) (these : commands? second = some others) :
    commands? (first ++ second) = some (commands ++ others) := by
  induction first generalizing commands with
  | nil =>
    cases those
    exact these
  | cons use rest ih =>
    simp only [commands?, Option.bind_eq_bind, Option.bind_eq_some_iff, Option.pure_def,
      Option.some.injEq] at those
    obtain ⟨command, named, later, rest, rfl⟩ := those
    simp [commands?, named, ih rest]

private theorem commands?_map_once {α : Type} {operation : α → Operation} {command : α → Command}
    (named : ∀ item, (operation item).command? = some (command item)) (items : List α) :
    commands? (items.map fun item => .once (operation item)) = some (items.map command) := by
  induction items with
  | nil => rfl
  | cons item items ih => simp [commands?, Use.command?, named, ih]

private theorem flattenAll_append (stem : String) (first second : List Use) :
    flattenAll stem (first ++ second) = flattenAll stem first ++ flattenAll stem second := by
  induction first with
  | nil => rfl
  | cons use rest ih => simp only [List.cons_append, flattenAll, ih, List.append_assoc]

private theorem flattenAll_map_once {α : Type} (stem : String) (operation : α → Operation)
    (items : List α) :
    flattenAll stem (items.map fun item => .once (operation item)) =
      items.map fun item => (operation item).under stem := by
  induction items with
  | nil => rfl
  | cons item items ih => simp [flattenAll, flatten, ih]

end Use

namespace Config

mutual

theorem Group.command?_use : ∀ group : Group, group.use.command? = some group.command
  | .mk stem routes groups => by
    rw [Group.use, Group.command, Use.command?,
      Use.commands?_append (Use.commands?_map_once (fun _ => rfl) routes) (commands?_groupUses groups)]
    rfl

private theorem commands?_groupUses : ∀ groups : List Group,
    Use.commands? (groupUses groups) = some (groupCommands groups)
  | [] => rfl
  | group :: rest => by
    simp [groupUses, groupCommands, Use.commands?, group.command?_use, commands?_groupUses rest]

end

mutual

theorem Group.flatten_use (stem : String) : ∀ group : Group,
    group.use.flatten stem = (group.entries stem).map RouteEntry.operation
  | .mk inner routes groups => by
    rw [Group.use, Group.entries, Use.flatten, Use.flattenAll_append, Use.flattenAll_map_once,
      flattenAll_groupUses (stem ++ inner) groups, List.map_append, List.map_map]
    rfl

private theorem flattenAll_groupUses (stem : String) : ∀ groups : List Group,
    Use.flattenAll stem (groupUses groups) = (groupEntries stem groups).map RouteEntry.operation
  | [] => rfl
  | group :: rest => by
    rw [groupUses, groupEntries, Use.flattenAll, group.flatten_use stem,
      flattenAll_groupUses stem rest, List.map_append]

end

variable (config : Config)

private theorem commands?_uses : Use.commands? config.uses = some config.script := by
  have fallbacks : (config.fallbackList.map fun listed => Command.registerFallback listed.1 listed.2) =
      config.fallbacks.flatMap FallbackEntry.commands := by
    simp only [fallbackList, List.map_flatMap, List.map_map]
    rfl
  rw [script, ← fallbacks]
  exact Use.commands?_append
    (Use.commands?_append (Use.commands?_map_once (fun _ => rfl) config.routes)
      (commands?_groupUses config.groups))
    (Use.commands?_map_once (fun _ => rfl) config.fallbackList)

private theorem flattenAll_uses : Use.flattenAll "" config.uses =
    config.entries.map RouteEntry.operation ++
      config.fallbackList.map fun listed => .registerFallback listed.1 listed.2 := by
  have outside : (config.routes.map fun route => route.operation.under "") =
      config.routes.map RouteEntry.operation := by
    simp [RouteEntry.operation, Operation.under]
  rw [uses, Use.flattenAll_append, Use.flattenAll_append, Use.flattenAll_map_once, outside,
    flattenAll_groupUses, Use.flattenAll_map_once, entries, List.map_append]
  rfl

end Config

/-! ### The flat list, one after another -/

namespace Service

open Config (RouteEntry FallbackEntry)

variable {keep : Store → Keeper} {service : Service} {routes : RouteSet} {fallbacks : Fallbacks}

/-- A router outside of groups refuses an entry for its own error, and otherwise stores what
it stands for. -/
theorem addRoute_entry (phase : service.router.phase = .collecting routes fallbacks)
    (outside : service.router.stem = "") (entry : RouteEntry) :
    let result := service.addRoute entry.methods entry.pattern entry.handler
    (Answer.ofRegistration result.1).error? = entry.error? service.router.aliases ∧
      ∃ more, result.2.router = { service.router with phase := .collecting more fallbacks } := by
  have compiles : service.router.compile entry.pattern = entry.compile service.router.aliases :=
    entry.compile_router rfl outside
  obtain ⟨none, _, same⟩ | ⟨error, some, bad, same⟩ | ⟨compiled, some, good, same⟩ :=
    addRoute_cases phase entry.methods entry.pattern entry.handler
  · rw [same, RouteEntry.error?_eq_none_iff.mpr fun some => absurd none some]
    exact ⟨rfl, routes, by rw [← phase]⟩
  · rw [same, RouteEntry.error?_eq_some_iff.mpr ⟨some, compiles.symm.trans bad⟩]
    exact ⟨rfl, routes, by rw [← phase]⟩
  · rw [same, RouteEntry.error?_eq_none_iff.mpr fun _ => ⟨compiled, compiles.symm.trans good⟩]
    exact ⟨rfl, _, rfl⟩

private theorem callAll_entries (entries : List RouteEntry) : ∀ {service : Service} {routes : RouteSet},
    service.router.phase = .collecting routes fallbacks → service.router.stem = "" →
    ∃ more, (service.callAll (entries.map RouteEntry.call)).router =
      { service.router with phase := .collecting more fallbacks } := by
  induction entries with
  | nil => exact fun {service routes} phase _ => ⟨routes, by rw [← phase]; rfl⟩
  | cons entry entries ih =>
    intro service routes phase outside
    obtain ⟨_, more, after⟩ := addRoute_entry phase outside entry
    obtain ⟨final, last⟩ := ih (congrArg Router.phase after)
      ((congrArg Router.stem after).trans outside)
    exact ⟨final, last.trans (by rw [after])⟩

private theorem runBody_entries (keep : Store → Keeper) (entries : List RouteEntry) :
    ∀ {service : Service} {routes : RouteSet},
    service.router.phase = .collecting routes fallbacks → service.router.stem = "" →
    let course := service.runBody keep (entries.map fun entry => .once entry.operation)
    course.failure = entries.findSome? (RouteEntry.error? service.router.aliases) ∧
      (course.failure = none → course.after = service.callAll (entries.map RouteEntry.call)) := by
  induction entries with
  | nil => exact fun _ _ => ⟨rfl, fun _ => rfl⟩
  | cons entry entries ih =>
    intro service routes phase outside
    obtain ⟨answer, more, after⟩ := addRoute_entry phase outside entry
    obtain ⟨failure, final⟩ := ih (congrArg Router.phase after)
      ((congrArg Router.stem after).trans outside)
    have ran : service.run keep (.once entry.operation) =
        ⟨(service.run keep (.once entry.operation)).steps,
          entry.error? service.router.aliases,
          (service.addRoute entry.methods entry.pattern entry.handler).2⟩ := by
      rw [← answer]
      rfl
    simp only [List.map_cons, runBody, Course.andThen, List.findSome?_cons]
    rw [ran]
    cases refused : entry.error? service.router.aliases with
    | some error =>
      refine ⟨rfl, fun passed => ?_⟩
      cases passed
    | none =>
      refine ⟨failure.trans ?_, final⟩
      rw [after]

private theorem runBody_fallbacks (keep : Store → Keeper) (listed : List (String × Handler)) :
    ∀ {service : Service} {fallbacks : Fallbacks},
    service.router.phase = .collecting routes fallbacks →
    let course := service.runBody keep
      (listed.map fun each => .once (.registerFallback each.1 each.2))
    course.failure = none ∧ course.after.router = { service.router with
      phase := .collecting routes (OrderedMap.insertAll fallbacks
        (listed.flatMap fun each => Fallbacks.written each.1 each.2)) } := by
  induction listed with
  | nil =>
    intro service fallbacks phase
    exact ⟨rfl, by rw [List.flatMap_nil, OrderedMap.insertAll, List.foldl_nil, ← phase]; rfl⟩
  | cons each listed ih =>
    intro service fallbacks phase
    obtain ⟨host, added⟩ := addFallback_collecting phase each.1 each.2
    have ran : service.run keep (.once (.registerFallback each.1 each.2)) =
        ⟨(service.run keep (.once (.registerFallback each.1 each.2))).steps, none,
          (service.addFallback each.1 each.2).2⟩ := by
      simp only [run, operate, added]
      rfl
    have written : Fallbacks.insertAll fallbacks (expandMethods fallbackMethods [each.1]) each.2 =
        OrderedMap.insertAll fallbacks (Fallbacks.written each.1 each.2) := by
      rw [Fallbacks.insertAll, OrderedMap.insertAll, Fallbacks.written, List.foldl_map]
    rw [written] at added
    have later : (service.addFallback each.1 each.2).2.router.phase = .collecting routes
        (OrderedMap.insertAll fallbacks (Fallbacks.written each.1 each.2)) := by
      rw [added]
    obtain ⟨failure, final⟩ := ih later
    simp only [List.map_cons, runBody, Course.andThen]
    rw [ran]
    refine ⟨failure, final.trans ?_⟩
    rw [added, List.flatMap_cons, OrderedMap.insertAll, OrderedMap.insertAll, OrderedMap.insertAll,
      List.foldl_append]

/-- With the stores at hand, uses within groups lead to what their operations outside of
groups lead to. -/
theorem register_runBody (config : Config) (service : Service) :
    let flat := service.runBody Store.keeper ((Use.flattenAll "" config.uses).map .once)
    (service.performUntilError config.script).1.2 = flat.failure ∧
      (service.performUntilError config.script).2.router = flat.after.router := by
  intro flat
  have itself : Within "" service service := ⟨by rw [String.append_empty], rfl⟩
  have blind : ∀ operation ∈ Use.flattenAll "" config.uses, operation.IgnoresJournal := by
    rw [Config.flattenAll_uses]
    intro operation member
    rcases List.mem_append.mp member with route | fallback
    · obtain ⟨entry, _, rfl⟩ := List.mem_map.mp route
      trivial
    · obtain ⟨listed, _, rfl⟩ := List.mem_map.mp fallback
      trivial
  obtain ⟨_, failure, after⟩ := performUntilError_runBody service config.uses config.commands?_uses
  have within := runBody_within Store.ignoresJournal_keeper itself config.uses blind
  refine ⟨failure.trans within.failure, ?_⟩
  rw [after, within.after.router, String.append_empty]

end Service

namespace Config

variable (config : Config) (host : Host)

theorem build_uncached (uncached : config.cache.enabled = false) :
    config.build host = config.register ⟨{ aliases := config.allAliases }, host⟩ := by
  have alone : config.fresh = { aliases := config.allAliases } := by
    rw [fresh, cache?, uncached]
    rfl
  rw [← alone]
  refine config.build_of_miss host ?_
  rw [alone]
  rfl

/-- To register a configuration is to register its flat list, and after it the fallbacks. -/
theorem register_flat :
    let fresh : Service := ⟨{ aliases := config.allAliases }, host⟩
    let flat := fresh.callAll (config.entries.map RouteEntry.call)
    let failure := config.entries.findSome? (RouteEntry.error? config.allAliases)
    (∀ error, (config.register fresh).1 = .error error ↔ failure = some error) ∧
    (failure = none → ∃ routes, flat.router.phase = .collecting routes OrderedMap.empty ∧
      (config.register fresh).2.router = { fresh.router with
        phase := .collecting routes (OrderedMap.ofList
          (config.fallbackList.flatMap fun listed => Fallbacks.written listed.1 listed.2)) }) := by
  intro fresh flat failure
  obtain ⟨failed, after⟩ := Service.register_runBody config fresh
  have open_ : fresh.router.phase = .collecting RouteSet.empty OrderedMap.empty := rfl
  have outside : fresh.router.stem = "" := rfl
  obtain ⟨routes, collected⟩ := Service.callAll_entries config.entries open_ outside
  obtain ⟨refused, called⟩ := Service.runBody_entries Store.keeper config.entries open_ outside
  rw [flattenAll_uses, List.map_append, List.map_map, List.map_map, Service.runBody_append,
    Course.andThen] at failed after
  simp only [Function.comp_def] at failed after
  rw [register_eq]
  cases result : failure with
  | some error =>
    have stopped := refused.trans result
    simp only [stopped] at failed
    simp only [failed]
    simp
  | none =>
    have passed := refused.trans result
    simp only [passed, called passed] at failed after
    have collecting : flat.router.phase = .collecting routes OrderedMap.empty :=
      congrArg Router.phase collected
    obtain ⟨never, final⟩ := Service.runBody_fallbacks Store.keeper config.fallbackList collecting
    have accepted := failed.trans never
    simp only [accepted]
    refine ⟨by simp, fun _ => ⟨routes, collecting, ?_⟩⟩
    rw [after, final, collected]
    rfl

/-- Without a cache, to build a router from a configuration is to register its flat list of
routes, however deep its groups nest. The build succeeds exactly if every entry that names
methods has a template that is read and compiled, and it fails exactly with the error of
the first entry for which this is not so. A router that is built is open and outside of
groups; its routes are those of registering the list in order, and its fallbacks are
written in the order of the configuration, method by method. -/
theorem build_flat (uncached : config.cache.enabled = false) :
    let accepted : RouteEntry → Prop := fun entry => entry.methods ≠ [] →
      ∃ compiled, entry.compile config.allAliases = .ok compiled
    let fresh : Service := ⟨{ aliases := config.allAliases }, host⟩
    let flat := fresh.callAll (config.entries.map RouteEntry.call)
    let built := config.build host
    (built.1 = .ok () ↔ ∀ entry ∈ config.entries, accepted entry) ∧
    (∀ error, built.1 = .error error ↔ ∃ before entry after,
      config.entries = before ++ entry :: after ∧ (∀ earlier ∈ before, accepted earlier) ∧
        entry.methods ≠ [] ∧ entry.compile config.allAliases = .error error) ∧
    (built.1 = .ok () → ∃ routes, flat.router.phase = .collecting routes OrderedMap.empty ∧
      built.2.router = {
        aliases := config.allAliases
        stem := ""
        cache := none
        phase := .collecting routes (OrderedMap.ofList
          (config.fallbackList.flatMap fun listed => Fallbacks.written listed.1 listed.2)) }) := by
  intro accepted fresh flat built
  obtain ⟨refused, collected⟩ := config.register_flat host
  rw [← config.build_uncached host uncached] at refused collected
  have succeeds : built.1 = .ok () ↔
      config.entries.findSome? (RouteEntry.error? config.allAliases) = none := by
    constructor
    · intro ok
      cases failure : config.entries.findSome? (RouteEntry.error? config.allAliases) with
      | none => rfl
      | some error => cases ok.symm.trans ((refused error).mpr failure)
    · intro none
      match result : built.1 with
      | .ok () => rfl
      | .error error => cases none.symm.trans ((refused error).mp result)
  refine ⟨?_, fun error => ?_, fun ok => collected (succeeds.mp ok)⟩
  · rw [succeeds, List.findSome?_eq_none_iff]
    exact forall₂_congr fun entry _ => RouteEntry.error?_eq_none_iff
  · rw [refused, List.findSome?_eq_some_iff]
    simp only [RouteEntry.error?_eq_some_iff, RouteEntry.error?_eq_none_iff]
    constructor
    · rintro ⟨before, entry, after, split, ⟨some, bad⟩, earlier⟩
      exact ⟨before, entry, after, split, earlier, some, bad⟩
    · rintro ⟨before, entry, after, split, earlier, some, bad⟩
      exact ⟨before, entry, after, split, ⟨some, bad⟩, earlier⟩

/-- Stems that end within a placeholder, an alias of the configuration, an entry without
methods whose template is never read, and a route that is written again by a later group;
and the same with an entry in an inner group that is refused. -/
theorem build_flat_nested :
    let config (last : List RouteEntry) : Config := {
      aliases := OrderedMap.ofList [("hex", "[0-9a-f]+")]
      routes := [{ pattern := "/a[/b]", handler := "top" },
        { methods := [], pattern := "]", handler := "never" }]
      groups := [
        .mk "/x/\x7bcod" [{ pattern := "e\x7d", handler := "own" }]
          [.mk "e" ({ pattern := ":hex\x7d", handler := "deep" } :: last) []],
        .mk "/a" [{ pattern := "/b", handler := "later" }] []]
      fallbacks := [{ methods := ["get", "*"], handler := "lost" }] }
    let good := (config []).build {}
    let bad := (config [{ pattern := "[]", handler := "refused" }]).build {}
    (config []).cache.enabled = false ∧
    (config []).entries.map RouteEntry.pattern =
      ["/a[/b]", "]", "/x/\x7bcode\x7d", "/x/\x7bcode:hex\x7d", "/a/b"] ∧
    good.1 = .ok () ∧ good.2.router.stem = "" ∧ good.2.router.isFinished = false ∧
    (∃ routes fallbacks, good.2.router.phase = .collecting routes fallbacks ∧
      ByMethod.find? routes.static "GET" "/a" = some "top" ∧
      ByMethod.find? routes.static "GET" "/a/b" = some "later" ∧
      (ByMethod.find? routes.dynamic "GET" "^/x/(?P<code>[0-9a-f]+)$").map DynamicRoute.handler =
        some "deep" ∧
      fallbacks.get? "HEAD" = some "lost") ∧
    bad.1 = .error (.badPattern .emptyGroup "/x/\x7bcode[]") := by
  intro config good bad
  obtain ⟨succeeds, _, built⟩ := build_flat (config []) {} rfl
  obtain ⟨_, fails, _⟩ := build_flat (config [{ pattern := "[]", handler := "refused" }]) {} rfl
  have accepted : good.1 = .ok () := succeeds.mpr fun entry member =>
    RouteEntry.error?_eq_none_iff.mp
      ((List.findSome?_eq_none_iff.mp (by decide +kernel)) entry member)
  obtain ⟨routes, collected, router⟩ := built accepted
  let flat := (⟨{ aliases := (config []).allAliases }, {}⟩ : Service).callAll
    ((config []).entries.map RouteEntry.call)
  have same : flat.finish.1.routes = routes := by rw [Service.finish_collecting collected]
  have first : (config [{ pattern := "[]", handler := "refused" }]).entries.findSome?
      (RouteEntry.error? (config []).allAliases) =
        some (.badPattern .emptyGroup "/x/\x7bcode[]") := by decide +kernel
  obtain ⟨before, entry, after, split, own, earlier⟩ := List.findSome?_eq_some_iff.mp first
  refine ⟨rfl, by decide +kernel, accepted, congrArg Router.stem router,
    congrArg Router.isFinished router,
    ⟨routes, _, congrArg Router.phase router, ?_, ?_, ?_, ?_⟩,
    (fails _).mpr ⟨before, entry, after, split, ?_, ?_⟩⟩
  · rw [← same]
    decide +kernel
  · rw [← same]
    decide +kernel
  · rw [← same]
    decide +kernel
  · decide +kernel
  · exact fun other member => RouteEntry.error?_eq_none_iff.mp (earlier other member)
  · exact RouteEntry.error?_eq_some_iff.mp own

end Config

end PathRouting
