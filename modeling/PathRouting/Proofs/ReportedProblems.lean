import PathRouting.Config.Problem

/-! The problems of a configuration as the rules that it breaks. A configuration has to keep
certain rules, each at certain places: at its log level, its cache, each alias, route,
group, method and fallback. Checking it reports every rule that is broken at a place, once
and in the order of the document, and nothing else. -/

namespace PathRouting.Config

/-! ### Groups at any depth -/

namespace Group

def stem : Group → String
  | mk stem _ _ => stem

def routes : Group → List RouteEntry
  | mk _ routes _ => routes

def groups : Group → List Group
  | mk _ _ groups => groups

/-- The group is one of those listed, or lies in one of them at any depth. -/
inductive Within (group : Group) : List Group → Prop where
  | listed {groups : List Group} (member : group ∈ groups) : Within group groups
  | inside {groups : List Group} {outer : Group} (member : outer ∈ groups)
      (within : Within group outer.groups) : Within group groups

mutual

/-- The group and all groups in it; each stands before the groups in it. -/
def withInner : Group → List Group
  | mk stem routes groups => mk stem routes groups :: allWithInner groups

def allWithInner : List Group → List Group
  | [] => []
  | group :: rest => group.withInner ++ allWithInner rest

end

private theorem mem_allWithInner_of_mem {group outer : Group} {groups : List Group}
    (member : outer ∈ groups) (inside : group ∈ outer.withInner) : group ∈ allWithInner groups := by
  induction groups with
  | nil => cases member
  | cons first rest ih =>
    rw [allWithInner, List.mem_append]
    rcases List.mem_cons.mp member with rfl | later
    · exact .inl inside
    · exact .inr (ih later)

mutual

private theorem eq_or_within_of_mem {group : Group} : ∀ outer : Group, group ∈ outer.withInner →
    group = outer ∨ group.Within outer.groups
  | mk stem routes groups, member => by
    rw [withInner] at member
    exact (List.mem_cons.mp member).imp_right (within_of_mem groups)

private theorem within_of_mem {group : Group} : ∀ groups : List Group, group ∈ allWithInner groups →
    group.Within groups
  | [], member => nomatch member
  | first :: rest, member => by
    rw [allWithInner] at member
    rcases List.mem_append.mp member with here | later
    · rcases eq_or_within_of_mem first here with rfl | inner
      · exact .listed List.mem_cons_self
      · exact .inside List.mem_cons_self inner
    · cases within_of_mem rest later with
      | listed inside => exact .listed (List.mem_cons_of_mem _ inside)
      | inside outer inner => exact .inside (List.mem_cons_of_mem _ outer) inner

end

private theorem mem_allWithInner_iff {group : Group} {groups : List Group} :
    group ∈ allWithInner groups ↔ group.Within groups := by
  refine ⟨within_of_mem groups, fun within => ?_⟩
  induction within with
  | listed member =>
    apply mem_allWithInner_of_mem member
    cases group
    exact List.mem_cons_self
  | @inside groups outer member _ ih =>
    apply mem_allWithInner_of_mem member
    cases outer
    exact List.mem_cons_of_mem _ ih

end Group

/-! ### Rules -/

/-- A rule for a configuration, at one place of it. -/
inductive Rule where
  /-- The level is one of five names, in letters of either case. -/
  | levelKnown (level : String)
  /-- A cache that is in use has a path. -/
  | cacheLocated (cache : CacheUse)
  /-- The tables of a cache that is in use are fresh for some time. -/
  | cacheLasting (cache : CacheUse)
  | aliasTrimmed (key : String)
  /-- A route outside of groups has a pattern. -/
  | patternGiven (pattern : String)
  | handlerGiven (pattern handler : String)
  | methodsGiven (owner : String) (methods : List String)
  /-- A method is the star or a word of letters. -/
  | methodNamed (method : String)
  /-- A group has a stem or holds something. -/
  | groupFilled (group : Group)
  | fallbackGiven (handler : String)

def NamesMethods (method : String) : Prop :=
  method = "*" ∨
    (method ≠ "" ∧ ∀ c ∈ method.toList, ('a' ≤ c ∧ c ≤ 'z') ∨ ('A' ≤ c ∧ c ≤ 'Z'))

instance (method : String) : Decidable (NamesMethods method) :=
  inferInstanceAs (Decidable (_ ∨ _))

namespace Rule

def Holds : Rule → Prop
  | levelKnown level => level.toLower ∈ ["trace", "debug", "info", "warn", "error"]
  | cacheLocated cache => cache.enabled = true → cache.path ≠ none ∧ cache.path ≠ some ""
  | cacheLasting cache => cache.enabled = true → cache.expiry ≠ 0
  | aliasTrimmed key => Text.trimmed key = key
  | patternGiven pattern => pattern ≠ ""
  | handlerGiven _ handler => handler ≠ ""
  | methodsGiven _ methods => methods ≠ []
  | methodNamed method => NamesMethods method
  | groupFilled group => group.stem ≠ "" ∨ group.routes ≠ [] ∨ group.groups ≠ []
  | fallbackGiven handler => handler ≠ ""

instance : DecidablePred Holds
  | levelKnown _ => inferInstanceAs (Decidable (_ ∈ _))
  | cacheLocated _ => inferInstanceAs (Decidable (_ → _))
  | cacheLasting _ => inferInstanceAs (Decidable (_ → _))
  | aliasTrimmed _ => inferInstanceAs (Decidable (_ = _))
  | patternGiven _ => inferInstanceAs (Decidable (_ ≠ _))
  | handlerGiven _ _ => inferInstanceAs (Decidable (_ ≠ _))
  | methodsGiven _ _ => inferInstanceAs (Decidable (_ ≠ _))
  | methodNamed method => inferInstanceAs (Decidable (NamesMethods method))
  | groupFilled _ => inferInstanceAs (Decidable (_ ∨ _))
  | fallbackGiven _ => inferInstanceAs (Decidable (_ ≠ _))

def problem : Rule → Problem
  | levelKnown level => .invalidLogLevel level
  | cacheLocated _ => .missingCachePath
  | cacheLasting _ => .zeroCacheExpiry
  | aliasTrimmed key => .untrimmedAlias key
  | patternGiven _ => .emptyPattern
  | handlerGiven pattern _ => .emptyHandler pattern
  | methodsGiven owner _ => .noMethods owner
  | methodNamed method => .invalidMethod method
  | groupFilled group => .emptyGroup group.stem
  | fallbackGiven _ => .emptyErrorHandler

end Rule

def violations (rules : List Rule) : List Problem :=
  (rules.filter fun rule => ¬ rule.Holds).map Rule.problem

@[simp] theorem violations_nil : violations [] = [] := rfl

private theorem violations_cons (rule : Rule) (rules : List Rule) :
    violations (rule :: rules) =
      (if rule.Holds then [] else [rule.problem]) ++ violations rules := by
  by_cases holds : rule.Holds <;> simp [violations, holds]

private theorem violations_append (first second : List Rule) :
    violations (first ++ second) = violations first ++ violations second := by
  simp [violations]

private theorem flatMap_violations {α : Type} {problems : α → List Problem} {rules : α → List Rule}
    (each : ∀ item, problems item = violations (rules item)) (items : List α) :
    items.flatMap problems = violations (items.flatMap rules) := by
  induction items with
  | nil => rfl
  | cons item items ih =>
    rw [List.flatMap_cons, List.flatMap_cons, violations_append, each, ih]

private theorem violations_eq_nil_iff {rules : List Rule} :
    violations rules = [] ↔ ∀ rule ∈ rules, rule.Holds := by
  simp [violations, List.filter_eq_nil_iff]

/-! ### The rules of each part -/

def methodRules (owner : String) (methods : List String) : List Rule :=
  .methodsGiven owner methods :: methods.map .methodNamed

def RouteEntry.rules (route : RouteEntry) : List Rule :=
  .handlerGiven route.pattern route.handler :: methodRules route.pattern route.methods

def RouteEntry.outerRules (route : RouteEntry) : List Rule :=
  .patternGiven route.pattern :: route.rules

/-- The rules for the group itself and for its own routes. -/
def Group.rules (group : Group) : List Rule :=
  .groupFilled group :: group.routes.flatMap RouteEntry.rules

def FallbackEntry.rules (fallback : FallbackEntry) : List Rule :=
  .fallbackGiven fallback.handler :: methodRules "error handler" fallback.methods

/-- All rules for a configuration, place by place in the order of the document. -/
def rules (config : Config) : List Rule :=
  [.levelKnown config.logging.level, .cacheLocated config.cache, .cacheLasting config.cache] ++
    config.aliases.keys.map .aliasTrimmed ++ config.routes.flatMap RouteEntry.outerRules ++
    (Group.allWithInner config.groups).flatMap Group.rules ++
    config.fallbacks.flatMap FallbackEntry.rules

private theorem isMethod_iff (method : String) : isMethod method = true ↔ NamesMethods method := by
  simp [isMethod, NamesMethods, Text.isLetter]

private theorem methodProblems_eq (owner : String) (methods : List String) :
    methodProblems owner methods = violations (methodRules owner methods) := by
  have named : violations (methods.map .methodNamed) =
      (methods.filter fun method => !isMethod method).map .invalidMethod := by
    rw [violations, List.filter_map, List.map_map]
    refine congrArg (List.map _) (List.filter_congr fun method _ => ?_)
    simp [Rule.Holds, ← isMethod_iff]
  rw [methodProblems, methodRules, violations_cons, named]
  cases methods <;> simp [Rule.Holds, Rule.problem]

theorem RouteEntry.problems_eq (route : RouteEntry) : route.problems = violations route.rules := by
  rw [RouteEntry.problems, RouteEntry.rules, violations_cons, methodProblems_eq]
  by_cases given : route.handler = "" <;> simp [Rule.Holds, Rule.problem, given]

theorem RouteEntry.outerProblems_eq (route : RouteEntry) :
    route.outerProblems = violations route.outerRules := by
  rw [RouteEntry.outerProblems, RouteEntry.outerRules, violations_cons, RouteEntry.problems_eq]
  by_cases given : route.pattern = "" <;> simp [Rule.Holds, Rule.problem, given]

theorem FallbackEntry.problems_eq (fallback : FallbackEntry) :
    fallback.problems = violations fallback.rules := by
  rw [FallbackEntry.problems, FallbackEntry.rules, violations_cons, methodProblems_eq]
  by_cases given : fallback.handler = "" <;> simp [Rule.Holds, Rule.problem, given]

mutual

/-- The problems of a group are those of the groups in it, each with its own rules only. -/
theorem Group.problems_eq : ∀ group : Group,
    group.problems = violations (group.withInner.flatMap Group.rules)
  | .mk stem routes groups => by
    have own : (if stem = "" && routes.isEmpty && groups.isEmpty then [.emptyGroup stem] else []) =
        if (Rule.groupFilled (.mk stem routes groups)).Holds then []
          else [(Rule.groupFilled (.mk stem routes groups)).problem] := by
      by_cases given : stem = "" <;> cases routes <;> cases groups <;>
        simp [Rule.Holds, Rule.problem, Group.stem, Group.routes, Group.groups, given]
    rw [Group.problems, groupProblems_eq groups, own, flatMap_violations RouteEntry.problems_eq,
      Group.withInner, List.flatMap_cons, violations_append, Group.rules, violations_cons, Group.routes]

private theorem groupProblems_eq : ∀ groups : List Group,
    groupProblems groups = violations ((Group.allWithInner groups).flatMap Group.rules)
  | [] => rfl
  | group :: rest => by
    rw [groupProblems, Group.problems_eq group, groupProblems_eq rest, Group.allWithInner,
      List.flatMap_append, violations_append]

end

/-- Checking a configuration reports the rules that it breaks. -/
theorem problems_eq_violations (config : Config) : config.problems = violations config.rules := by
  have logging : config.logging.problems = violations [.levelKnown config.logging.level] := by
    rw [Logging.problems, violations_cons, violations_nil, List.append_nil]
    rfl
  have cache : config.cache.problems =
      violations [.cacheLocated config.cache, .cacheLasting config.cache] := by
    rw [CacheUse.problems, violations_cons, violations_cons, violations_nil]
    cases enabled : config.cache.enabled with
    | false => simp [Rule.Holds, enabled]
    | true =>
      cases path : config.cache.path <;>
        simp [Rule.Holds, Rule.problem, enabled, path, ite_not]
  have aliases : config.aliases.keys.flatMap aliasProblems =
      violations (config.aliases.keys.map .aliasTrimmed) := by
    rw [List.map_eq_flatMap]
    refine flatMap_violations (fun key => ?_) _
    rw [aliasProblems, violations_cons, violations_nil, List.append_nil]
    rfl
  simp only [problems, rules, logging, cache, aliases, groupProblems_eq,
    flatMap_violations RouteEntry.outerProblems_eq, flatMap_violations FallbackEntry.problems_eq,
    ← violations_append]
  rfl

/-! ### Valid configurations -/

def Lists (config : Config) (route : RouteEntry) : Prop :=
  route ∈ config.routes ∨ ∃ group : Group, group.Within config.groups ∧ route ∈ group.routes

structure Valid (config : Config) : Prop where
  level : config.logging.level.toLower ∈ ["trace", "debug", "info", "warn", "error"]
  cache : config.cache.enabled = true →
    (∃ path, config.cache.path = some path ∧ path ≠ "") ∧ config.cache.expiry ≠ 0
  aliases : ∀ key ∈ config.aliases.keys, Text.trimmed key = key
  patterns : ∀ route ∈ config.routes, route.pattern ≠ ""
  routes : ∀ route, config.Lists route → route.handler ≠ "" ∧ route.methods ≠ [] ∧
    ∀ method ∈ route.methods, NamesMethods method
  groups : ∀ group : Group, group.Within config.groups →
    group.stem ≠ "" ∨ group.routes ≠ [] ∨ group.groups ≠ []
  fallbacks : ∀ fallback ∈ config.fallbacks, fallback.handler ≠ "" ∧ fallback.methods ≠ [] ∧
    ∀ method ∈ fallback.methods, NamesMethods method

private theorem methodRules_hold_iff {owner : String} {methods : List String} :
    (∀ rule ∈ methodRules owner methods, rule.Holds) ↔
      methods ≠ [] ∧ ∀ method ∈ methods, NamesMethods method := by
  simp only [methodRules, List.forall_mem_cons, List.forall_mem_map, Rule.Holds]

theorem RouteEntry.rules_hold_iff {route : RouteEntry} :
    (∀ rule ∈ route.rules, rule.Holds) ↔ route.handler ≠ "" ∧ route.methods ≠ [] ∧
      ∀ method ∈ route.methods, NamesMethods method := by
  rw [RouteEntry.rules, List.forall_mem_cons, methodRules_hold_iff, Rule.Holds]

theorem FallbackEntry.rules_hold_iff {fallback : FallbackEntry} :
    (∀ rule ∈ fallback.rules, rule.Holds) ↔ fallback.handler ≠ "" ∧ fallback.methods ≠ [] ∧
      ∀ method ∈ fallback.methods, NamesMethods method := by
  rw [FallbackEntry.rules, List.forall_mem_cons, methodRules_hold_iff, Rule.Holds]

private theorem cacheLocated_holds_iff {cache : CacheUse} : (Rule.cacheLocated cache).Holds ↔
    (cache.enabled = true → ∃ path, cache.path = some path ∧ path ≠ "") := by
  rw [Rule.Holds]
  cases cache.path <;> simp

theorem problems_eq_nil_iff (config : Config) : config.problems = [] ↔ config.Valid := by
  rw [problems_eq_violations, violations_eq_nil_iff]
  simp only [rules, List.forall_mem_append, List.forall_mem_cons, List.forall_mem_map,
    List.forall_mem_flatMap, cacheLocated_holds_iff, RouteEntry.outerRules, Group.rules,
    RouteEntry.rules_hold_iff, FallbackEntry.rules_hold_iff, Group.mem_allWithInner_iff]
  constructor
  · rintro ⟨⟨⟨⟨⟨level, located, lasting, -⟩, aliases⟩, routes⟩, groups⟩, fallbacks⟩
    refine ⟨level, fun enabled => ⟨located enabled, lasting enabled⟩, aliases,
      fun route member => (routes route member).1, ?_, fun group within => (groups group within).1,
      fallbacks⟩
    rintro route (member | ⟨group, within, member⟩)
    · exact (routes route member).2
    · exact (groups group within).2 route member
  · intro valid
    refine ⟨⟨⟨⟨⟨valid.level, fun enabled => (valid.cache enabled).1,
      fun enabled => (valid.cache enabled).2, by simp⟩, valid.aliases⟩, ?_⟩, ?_⟩, valid.fallbacks⟩
    · intro route member
      exact ⟨valid.patterns route member, valid.routes route (.inl member)⟩
    · intro group within
      refine ⟨valid.groups group within, fun route member => ?_⟩
      exact valid.routes route (.inr ⟨group, within, member⟩)

/-! ### One part alone -/

private theorem groupProblems_append (first second : List Group) :
    groupProblems (first ++ second) = groupProblems first ++ groupProblems second := by
  induction first with
  | nil => rfl
  | cons group rest ih => rw [List.cons_append, groupProblems, groupProblems, ih, List.append_assoc]

@[simp] theorem Logging.problems_default : ({} : Logging).problems = [] := by decide +kernel

@[simp] theorem CacheUse.problems_default : ({} : CacheUse).problems = [] := rfl

/-- Checking a configuration reports every problem, and only real ones. It reports nothing
exactly if the configuration is valid at all depths, and otherwise one problem for each rule
that is broken at a place, in the order of the document. The report is put together from
those of the parts, and the report on a row of routes, groups or fallbacks from those on
its pieces. -/
theorem problems_are_violations (config : Config) :
    (config.problems = [] ↔ config.Valid) ∧
    config.problems = (config.rules.filter fun rule => ¬ rule.Holds).map Rule.problem ∧
    config.problems = ({ logging := config.logging } : Config).problems ++
      ({ cache := config.cache } : Config).problems ++
      ({ aliases := config.aliases } : Config).problems ++
      ({ routes := config.routes } : Config).problems ++
      ({ groups := config.groups } : Config).problems ++
      ({ fallbacks := config.fallbacks } : Config).problems ∧
    (∀ first second : List RouteEntry, ({ routes := first ++ second } : Config).problems =
      ({ routes := first } : Config).problems ++ ({ routes := second } : Config).problems) ∧
    (∀ first second : List Group, ({ groups := first ++ second } : Config).problems =
      ({ groups := first } : Config).problems ++ ({ groups := second } : Config).problems) ∧
    (∀ first second : List FallbackEntry, ({ fallbacks := first ++ second } : Config).problems =
      ({ fallbacks := first } : Config).problems ++ ({ fallbacks := second } : Config).problems) := by
  have noAliases : (OrderedMap.empty : OrderedMap String String).keys = [] := rfl
  refine ⟨problems_eq_nil_iff config, problems_eq_violations config, ?_, ?_, ?_, ?_⟩
  · simp [problems, groupProblems, noAliases]
  · intro first second
    simp [problems, groupProblems, noAliases]
  · intro first second
    simp [problems, noAliases, groupProblems_append]
  · intro first second
    simp [problems, groupProblems, noAliases]

end PathRouting.Config
