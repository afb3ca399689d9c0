import PathRouting.Proofs.BracketGrammar
import PathRouting.Proofs.ExpansionKeys
import PathRouting.Proofs.FlatConfiguration
import PathRouting.Proofs.ReportedProblems

/-! Empty templates of a configuration. A route without a pattern is reported outside of
groups only, but a group need not have a stem. So a configuration in which nothing is wrong
has an empty template exactly where a route without a pattern lies in groups none of which
has a stem. The empty path is stored for such templates and for those that begin with an
optional group, and for no others. -/

namespace PathRouting

namespace Config

/-! ### Routes and the groups around them -/

/-- The route belongs to one of the groups or to a group in them; the stems are those of the
groups that it lies in, the outermost first. -/
inductive Group.Places (route : RouteEntry) : List String → List Group → Prop where
  | own {groups : List Group} {group : Group} (member : group ∈ groups)
      (listed : route ∈ group.routes) : Places route [group.stem] groups
  | inner {groups : List Group} {group : Group} {stems : List String} (member : group ∈ groups)
      (places : Places route stems group.groups) : Places route (group.stem :: stems) groups

/-- The configuration lists the route within groups with the given stems, the outermost
first, and outside of groups if there are none. -/
inductive Places (config : Config) (route : RouteEntry) : List String → Prop where
  | outside (listed : route ∈ config.routes) : Places config route []
  | grouped {stems : List String} (places : Group.Places route stems config.groups) :
      Places config route stems

theorem Group.Places.within {route : RouteEntry} {stems : List String} {groups : List Group}
    (places : Places route stems groups) :
    ∃ group : Group, group.Within groups ∧ route ∈ group.routes := by
  induction places with
  | own member listed => exact ⟨_, .listed member, listed⟩
  | inner member _ ih =>
    obtain ⟨group, within, listed⟩ := ih
    exact ⟨group, .inside member within, listed⟩

theorem Places.lists {config : Config} {route : RouteEntry} {stems : List String}
    (placed : config.Places route stems) : config.Lists route := by
  cases placed with
  | outside listed => exact .inl listed
  | grouped places => exact .inr places.within

def fullTemplate (stems : List String) (route : RouteEntry) : String :=
  String.join stems ++ route.pattern

theorem Group.Places.mono {route : RouteEntry} {stems : List String} {groups more : List Group}
    (places : Places route stems groups) (within : groups ⊆ more) : Places route stems more := by
  cases places with
  | own member listed => exact .own (within member) listed
  | inner member places => exact .inner (within member) places

mutual

theorem Group.exists_places_of_mem {entry : RouteEntry} (stem : String) :
    ∀ group : Group, entry ∈ group.entries stem → ∃ stems route,
      Group.Places route stems [group] ∧ entry = route.under (stem ++ String.join stems)
  | .mk inner routes groups, member => by
    rw [Group.entries] at member
    rcases List.mem_append.mp member with own | deeper
    · obtain ⟨route, listed, rfl⟩ := List.mem_map.mp own
      refine ⟨[(Group.mk inner routes groups).stem], route, .own List.mem_cons_self listed, ?_⟩
      rw [String.join_cons, String.join_nil, String.append_empty]
      rfl
    · obtain ⟨stems, route, places, rfl⟩ := exists_places_of_mem (stem ++ inner) groups deeper
      refine ⟨(Group.mk inner routes groups).stem :: stems, route, .inner List.mem_cons_self places, ?_⟩
      rw [String.join_cons, String.append_assoc]
      rfl

private theorem exists_places_of_mem {entry : RouteEntry} (stem : String) :
    ∀ groups : List Group, entry ∈ groupEntries stem groups → ∃ stems route,
      Group.Places route stems groups ∧ entry = route.under (stem ++ String.join stems)
  | group :: rest, member => by
    rw [groupEntries] at member
    rcases List.mem_append.mp member with here | later
    · obtain ⟨stems, route, places, same⟩ := group.exists_places_of_mem stem here
      exact ⟨stems, route, places.mono (by simp), same⟩
    · obtain ⟨stems, route, places, same⟩ := exists_places_of_mem stem rest later
      exact ⟨stems, route, places.mono (List.subset_cons_self _ _), same⟩

end

private theorem entries_subset_groupEntries (stem : String) {group : Group} {groups : List Group}
    (member : group ∈ groups) : group.entries stem ⊆ groupEntries stem groups := by
  induction groups with
  | nil => cases member
  | cons first rest ih =>
    intro entry inside
    rw [groupEntries, List.mem_append]
    rcases List.mem_cons.mp member with rfl | later
    · exact .inl inside
    · exact .inr (ih later inside)

theorem Group.Places.mem_groupEntries {route : RouteEntry} {stems : List String}
    {groups : List Group} (places : Places route stems groups) (stem : String) :
    route.under (stem ++ String.join stems) ∈ groupEntries stem groups := by
  induction places generalizing stem with
  | @own groups group member listed =>
    apply entries_subset_groupEntries stem member
    cases group
    rw [Group.entries, String.join_cons, String.join_nil, String.append_empty]
    exact List.mem_append_left _ (List.mem_map_of_mem listed)
  | @inner groups group stems member _ ih =>
    apply entries_subset_groupEntries stem member
    have deeper := ih (stem ++ group.stem)
    cases group
    rw [Group.entries, String.join_cons, ← String.append_assoc]
    exact List.mem_append_right _ deeper

/-- The flat list has each route under the stems of its groups. -/
theorem mem_entries_iff {config : Config} {entry : RouteEntry} :
    entry ∈ config.entries ↔ ∃ route stems,
      config.Places route stems ∧ entry = route.under (String.join stems) := by
  rw [entries, List.mem_append]
  constructor
  · rintro (listed | inside)
    · exact ⟨entry, [], .outside listed, by rw [RouteEntry.under, String.join_nil, String.empty_append]⟩
    · obtain ⟨stems, route, places, same⟩ := exists_places_of_mem "" config.groups inside
      exact ⟨route, stems, .grouped places, by rw [same, String.empty_append]⟩
  · rintro ⟨route, stems, placed, rfl⟩
    cases placed with
    | outside listed => exact .inl (by rwa [RouteEntry.under, String.join_nil, String.empty_append])
    | grouped places =>
      have member := places.mem_groupEntries ""
      rw [String.empty_append] at member
      exact .inr member

private theorem join_eq_empty_iff {stems : List String} :
    String.join stems = "" ↔ ∀ stem ∈ stems, stem = "" := by
  induction stems with
  | nil => simp
  | cons stem stems ih => rw [String.join_cons, String.append_eq_empty_iff, ih, List.forall_mem_cons]

/-- In a valid configuration only a route in groups without stems has an empty template. -/
theorem Valid.fullTemplate_eq_empty_iff {config : Config} (valid : config.Valid)
    {route : RouteEntry} {stems : List String} (placed : config.Places route stems) :
    fullTemplate stems route = "" ↔
      stems ≠ [] ∧ (∀ stem ∈ stems, stem = "") ∧ route.pattern = "" := by
  rw [fullTemplate, String.append_eq_empty_iff, join_eq_empty_iff, iff_and_self]
  rintro ⟨_, empty⟩ rfl
  cases placed with
  | outside listed => exact valid.patterns route listed empty
  | grouped places => cases places

end Config

/-! ### Templates that stand for the empty path -/

namespace Template

theorem Grouped.first_eq_nil_iff {template first : List Char} {groups : List (List Char)}
    (grouped : Grouped template first groups) :
    first = [] ↔ template = [] ∨ template.head? = some '[' := by
  have brackets := grouped.brackets
  constructor
  · rintro rfl
    have whole := chars_outline template
    rw [brackets] at whole
    cases groups with
    | nil => exact .inl whole.symm
    | cons segment groups => exact .inr (by rw [← whole]; rfl)
  · rintro (rfl | opens)
    · rw [outline_nil] at brackets
      have none := List.append_eq_nil_iff.mp (List.append_eq_nil_iff.mp brackets.symm).1
      exact List.map_eq_nil_iff.mp none.1
    · obtain ⟨rest, rfl⟩ := List.head?_eq_some_iff.mp opens
      rw [outline_char rfl] at brackets
      cases first with
      | nil => rfl
      | cons c first => simp [layout] at brackets

private theorem expansions_getElem?_eq_nil_iff {first : List Char} {groups : List (List Char)}
    (nonempty : ∀ segment ∈ groups, segment ≠ []) (k : Nat) :
    (expansions first groups)[k]? = some [] ↔ k = 0 ∧ first = [] := by
  rw [expansions, List.getElem?_map]
  cases k with
  | zero => simp
  | succ k =>
    cases groups with
    | nil => simp
    | cons segment groups =>
      have some := nonempty segment List.mem_cons_self
      by_cases within : k + 1 < groups.length + 1 + 1
      · simp [List.getElem?_range within, some]
      · rw [List.getElem?_eq_none (by simpa using within)]
        simp

end Template

namespace Route

private theorem compile_tokens_eq_empty_iff {aliases : AliasTable} {route : List Char} {compiled : Route}
    (made : compile (Template.tokens aliases route) = .ok compiled) :
    compiled = .static "" ↔ route = [] := by
  constructor
  · rintro rfl
    obtain ⟨path, single, same⟩ | ⟨_, same⟩ := compile_cases made
    · rw [← Template.toList_of_tokens single, ← (Prod.mk.inj same).2]
      rfl
    · cases (Prod.mk.inj same).1
  · rintro rfl
    rw [Template.tokens_nil] at made
    exact (Except.ok.inj made).symm

private theorem getElem?_eq_empty_iff {aliases : AliasTable} {routes : List (List Char)}
    {compiled : List Route}
    (each : List.Forall₂ (fun route made => compile (Template.tokens aliases route) = .ok made)
      routes compiled) (k : Nat) :
    compiled[k]? = some (.static "") ↔ routes[k]? = some [] := by
  induction each generalizing k with
  | nil => simp
  | cons made _ ih =>
    cases k with
    | zero => simpa using compile_tokens_eq_empty_iff made
    | succ k => simpa using ih k

private theorem eq_static_iff {route : Route} {path : String} :
    route = .static path ↔ route.kind = .static ∧ route.key = path := by
  cases route <;> simp [kind, key]

end Route

namespace Config

/-- A template stands for the empty path if it is empty or begins with a group, and then only
its first expansion does so. -/
theorem RouteEntry.compile_getElem?_eq_empty_iff {aliases : AliasTable} {entry : RouteEntry}
    {compiled : List Route} (good : entry.compile aliases = .ok compiled) (k : Nat) :
    compiled[k]? = some (.static "") ↔
      k = 0 ∧ (entry.pattern = "" ∨ entry.pattern.toList.head? = some '[') := by
  have read : ({ aliases } : Router).compile entry.pattern = .ok compiled := by
    rw [compile_router rfl rfl, good]
  obtain ⟨expansions, parsed, each⟩ := Router.compile_ok read
  rw [String.empty_append] at parsed
  obtain ⟨found, cut, rfl⟩ := exists_of_map_ok parsed
  obtain ⟨first, groups, grouped, rfl⟩ := Template.exists_grouped_of_routes cut
  rw [Route.getElem?_eq_empty_iff (List.forall₂_map_left_iff.mp each),
    Template.expansions_getElem?_eq_nil_iff grouped.nonempty, grouped.first_eq_nil_iff,
    String.toList_eq_nil_iff]

end Config

/-! ### What a row of routes stores -/

theorem Log.isSome_handler?_iff {log : Log} {method key : String} {kind : RouteKind} :
    (log.handler? method kind key).isSome = true ↔ ∃ handler, .route method kind key handler ∈ log := by
  simp only [handler?, OrderedMap.lastValue?, Option.isSome_map, List.find?_isSome,
    List.mem_reverse, ByMethod.ofMethod, List.mem_map, List.mem_filter, routes,
    List.mem_filterMap, decide_eq_true_eq]
  constructor
  · rintro ⟨_, ⟨_, ⟨⟨entry, member, selected⟩, rfl⟩, rfl⟩, rfl⟩
    cases entry with
    | fallback other handler => cases selected
    | route other found key handler =>
      simp only [LogEntry.route?] at selected
      split at selected
      next same =>
        cases selected
        exact ⟨handler, same ▸ member⟩
      next => cases selected
  · rintro ⟨handler, member⟩
    exact ⟨_, ⟨_, ⟨⟨_, member, if_pos rfl⟩, rfl⟩, rfl⟩, rfl⟩

theorem Service.mem_acceptedRoutes_iff {service : Service} {held : RouteSet} {fallbacks : Fallbacks}
    (phase : service.router.phase = .collecting held fallbacks) {methods : List String}
    {template method key : String} {kind : RouteKind} {handler other : Handler} :
    .route method kind key other ∈ service.acceptedRoutes methods template handler ↔
      method ∈ expandMethods anyMethods methods ∧ handler = other ∧
        ∃ compiled, service.router.compile template = .ok compiled ∧
          ∃ route ∈ compiled, route.kind = kind ∧ route.key = key := by
  by_cases none : methods = []
  · rw [none, acceptedRoutes_nothing]
    simp [expandMethods]
  cases result : service.router.compile template with
  | error error =>
    rw [acceptedRoutes_refused result]
    simp
  | ok compiled =>
    rw [acceptedRoutes_stored phase none result]
    simp only [methodRoutes, List.mem_map, List.mem_flatMap, Except.ok.injEq, LogEntry.route.injEq]
    constructor
    · rintro ⟨_, ⟨_, named, route, member, rfl⟩, rfl, same, rfl, rfl⟩
      exact ⟨named, rfl, compiled, rfl, route, member, same, rfl⟩
    · rintro ⟨named, rfl, _, rfl, route, member, rfl, rfl⟩
      exact ⟨_, ⟨method, named, route, member, rfl⟩, rfl, rfl, rfl, rfl⟩

namespace Config

/-- A row of entries on a fresh router stores a static path for a method exactly if the
template of an entry for this method stands for the path. -/
theorem isSome_static_iff (aliases : AliasTable) (host : Host) (entries : List RouteEntry)
    {routes : RouteSet} {fallbacks : Fallbacks}
    (phase : ((⟨{ aliases }, host⟩ : Service).callAll (entries.map RouteEntry.call)).router.phase =
      .collecting routes fallbacks) (method path : String) :
    (ByMethod.find? routes.static method path).isSome = true ↔
      ∃ entry ∈ entries, method ∈ expandMethods anyMethods entry.methods ∧
        ∃ compiled, entry.compile aliases = .ok compiled ∧ .static path ∈ compiled := by
  have run : Service.Registers ⟨{ aliases }, host⟩ _ _ :=
    Service.registers_callAll rfl rfl (entries.map RouteEntry.call)
  have replays := ((Service.Collected.initial aliases none host).registers run).replays
  have empty : (⟨{ aliases }, {}⟩ : Service).router.phase =
    .collecting RouteSet.empty OrderedMap.empty := rfl
  rw [Service.finish_collecting phase] at replays
  rw [replays.find?_static, Log.isSome_handler?_iff]
  simp only [List.nil_append, List.mem_flatMap, List.mem_map]
  constructor
  · rintro ⟨_, _, ⟨entry, member, rfl⟩, logged⟩
    obtain ⟨named, _, compiled, good, route, inside, same⟩ :=
      (Service.mem_acceptedRoutes_iff empty).mp logged
    rw [← Route.eq_static_iff] at same
    exact ⟨entry, member, named, compiled, (RouteEntry.compile_router rfl rfl).symm.trans good,
      same ▸ inside⟩
  · rintro ⟨entry, member, named, compiled, good, inside⟩
    refine ⟨entry.handler, _, ⟨entry, member, rfl⟩, (Service.mem_acceptedRoutes_iff empty).mpr ?_⟩
    exact ⟨named, rfl, compiled, (RouteEntry.compile_router rfl rfl).trans good, _, inside, rfl, rfl⟩

/-- In a configuration with nothing wrong and no cache, the only routes with an empty template
are those without a pattern that lie in groups none of which has a stem. Of a template only
the first expansion can be the empty path, and it is so exactly if the template is empty or
begins with an optional group. If the router is built, all templates have been read, and a
method has a static route for the empty path exactly if it is a method of such a route. -/
theorem empty_templates_unstemmed (config : Config) (host : Host) (flawless : config.problems = [])
    (uncached : config.cache.enabled = false) :
    let standsForEmpty : RouteEntry → List String → Prop := fun route stems =>
      fullTemplate stems route = "" ∨ (fullTemplate stems route).toList.head? = some '['
    (∀ route stems, config.Places route stems →
      (fullTemplate stems route = "" ↔
        stems ≠ [] ∧ (∀ stem ∈ stems, stem = "") ∧ route.pattern = "")) ∧
    (∀ route stems compiled,
      (route.under (String.join stems)).compile config.allAliases = .ok compiled →
      ∀ k, compiled[k]? = some (.static "") ↔ k = 0 ∧ standsForEmpty route stems) ∧
    ((config.build host).1 = .ok () → ∃ routes fallbacks,
      (config.build host).2.router.phase = .collecting routes fallbacks ∧
      (∀ route stems, config.Places route stems → ∃ compiled,
        (route.under (String.join stems)).compile config.allAliases = .ok compiled) ∧
      ∀ method, (ByMethod.find? routes.static method "").isSome = true ↔
        ∃ route stems, config.Places route stems ∧
          method ∈ expandMethods anyMethods route.methods ∧ standsForEmpty route stems) := by
  intro standsForEmpty
  have valid := (problems_eq_nil_iff config).mp flawless
  have expands : ∀ route stems compiled,
      (route.under (String.join stems)).compile config.allAliases = .ok compiled →
      ∀ k, compiled[k]? = some (.static "") ↔ k = 0 ∧ standsForEmpty route stems :=
    fun _ _ _ good => RouteEntry.compile_getElem?_eq_empty_iff good
  refine ⟨fun _ _ placed => valid.fullTemplate_eq_empty_iff placed, expands, fun built => ?_⟩
  obtain ⟨refused, collected⟩ := config.register_flat host
  rw [← config.build_uncached host uncached] at refused collected
  have passed : config.entries.findSome? (RouteEntry.error? config.allAliases) = none := by
    cases failure : config.entries.findSome? (RouteEntry.error? config.allAliases) with
    | none => rfl
    | some error => cases built.symm.trans ((refused error).mpr failure)
  obtain ⟨routes, phase, after⟩ := collected passed
  have read : ∀ route stems, config.Places route stems → ∃ compiled,
      (route.under (String.join stems)).compile config.allAliases = .ok compiled := by
    intro route stems placed
    have accepted := List.findSome?_eq_none_iff.mp passed _ (mem_entries_iff.mpr ⟨_, _, placed, rfl⟩)
    have listed : config.Lists route := placed.lists
    exact RouteEntry.error?_eq_none_iff.mp accepted (valid.routes route listed).2.1
  refine ⟨routes, _, congrArg Router.phase after, read, fun method => ?_⟩
  rw [isSome_static_iff config.allAliases host config.entries phase]
  constructor
  · rintro ⟨entry, member, named, compiled, good, inside⟩
    obtain ⟨route, stems, placed, rfl⟩ := mem_entries_iff.mp member
    obtain ⟨k, there⟩ := List.getElem?_of_mem inside
    exact ⟨route, stems, placed, named, ((expands route stems compiled good k).mp there).2⟩
  · rintro ⟨route, stems, placed, named, empty⟩
    obtain ⟨compiled, good⟩ := read route stems placed
    have there := (expands route stems compiled good 0).mpr ⟨rfl, empty⟩
    exact ⟨_, mem_entries_iff.mpr ⟨route, stems, placed, rfl⟩, named, compiled, good,
      List.mem_of_getElem? there⟩

/-- A route that begins with an optional group, in a group without a stem, and a route without
a pattern whose inner group has one: the empty path is stored for the first, and no template
is empty. -/
theorem empty_templates_unstemmed_optional :
    let first : RouteEntry := { methods := ["get"], pattern := "[/b]", handler := "h" }
    let second : RouteEntry := { methods := ["put"], pattern := "", handler := "g" }
    let config : Config := { groups := [.mk "" [first] [.mk "/a" [second] []]] }
    config.problems = [] ∧ config.cache.enabled = false ∧
    (∀ route stems, config.Places route stems → fullTemplate stems route ≠ "") ∧
    ∃ routes fallbacks, (config.build {}).2.router.phase = .collecting routes fallbacks ∧
      (ByMethod.find? routes.static "GET" "").isSome = true ∧
      (ByMethod.find? routes.static "PUT" "").isSome = false := by
  intro first second config
  obtain ⟨_, _, stored⟩ := empty_templates_unstemmed config {} (by decide +kernel) rfl
  obtain ⟨routes, fallbacks, phase, _, methods⟩ := stored (by decide +kernel)
  have placed : config.Places first [(Group.mk "" [first] [.mk "/a" [second] []]).stem] :=
    .grouped (.own List.mem_cons_self List.mem_cons_self)
  refine ⟨by decide +kernel, rfl, fun route stems here => ?_, routes, fallbacks, phase, ?_, ?_⟩
  · have all : ∀ entry ∈ config.entries, entry.pattern ≠ "" := by decide +kernel
    exact all _ (mem_entries_iff.mpr ⟨route, stems, here, rfl⟩)
  · exact (methods "GET").mpr ⟨first, _, placed, by decide +kernel, .inr (by decide +kernel)⟩
  · rw [Bool.eq_false_iff, ne_eq, methods]
    rintro ⟨route, stems, here, named, empty⟩
    have all : ∀ entry ∈ config.entries, "PUT" ∈ expandMethods anyMethods entry.methods →
        ¬ (entry.pattern = "" ∨ entry.pattern.toList.head? = some '[') := by decide +kernel
    exact all _ (mem_entries_iff.mpr ⟨route, stems, here, rfl⟩) named empty

/-- A route without a pattern in a group without a stem has an empty template. Nothing is wrong
with the configuration and its router stores the empty path, but the same route is reported
if it is written outside of the group. -/
theorem empty_template_accepted :
    let route : RouteEntry := { pattern := "", handler := "h" }
    let config : Config := { groups := [.mk "" [route] []] }
    config.problems = [] ∧ config.cache.enabled = false ∧
    config.Places route [""] ∧ fullTemplate [""] route = "" ∧
    (config.build {}).1 = .ok () ∧
    ByMethod.find? (config.build {}).2.finish.1.routes.static "GET" "" = some "h" ∧
    ({ routes := config.entries } : Config).problems = [.emptyPattern] := by
  intro route config
  have placed : config.Places route [(Group.mk "" [route] []).stem] :=
    .grouped (.own List.mem_cons_self List.mem_cons_self)
  exact ⟨by decide +kernel, rfl, placed, by decide +kernel, by decide +kernel, by decide +kernel,
    by decide +kernel⟩

end Config

end PathRouting
