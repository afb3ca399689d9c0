import Mathlib.Data.List.Perm.Subperm
import PathRouting.Proofs.TableGauges

/-! Collected routes as a record of what was inserted. Methods, and the keys of each
method, stand in the order in which they were inserted first; each key holds what was
inserted for it last. A submission that does not compile is not an insertion. -/

namespace PathRouting

namespace ByMethod

variable {β : Type}

private theorem keysOf_put (table : ByMethod β) (method key : String) (value : β) (other : String) :
    keysOf (put table method key value) other =
      if method = other ∧ key ∉ keysOf table other then keysOf table other ++ [key]
      else keysOf table other := by
  simp only [keysOf, put, OrderedMap.get?_insert]
  by_cases same : method = other
  · subst same
    by_cases present : key ∈ ((table.get? method).getD OrderedMap.empty).keys <;>
      simp [OrderedMap.keys_insert, present]
  · simp [same]

def pairs (table : ByMethod β) : List (String × String) :=
  table.keys.flatMap fun method => (keysOf table method).map (method, ·)

private theorem mem_pairs_iff {table : ByMethod β} {pair : String × String} :
    pair ∈ pairs table ↔ pair.1 ∈ table.keys ∧ pair.2 ∈ keysOf table pair.1 := by
  obtain ⟨method, key⟩ := pair
  simp [pairs]

private theorem pairs_nodup (table : ByMethod β) : (pairs table).Nodup := by
  refine List.nodup_flatMap.mpr ⟨fun method _ => ?_, ?_⟩
  · exact keysOf_nodup.map fun one two same => (Prod.mk.inj same).2
  · refine table.distinct.imp fun {one two} apart => ?_
    intro pair first second
    obtain ⟨_, _, rfl⟩ := List.mem_map.mp first
    obtain ⟨_, _, same⟩ := List.mem_map.mp second
    exact apart (Prod.mk.inj same).1.symm

private theorem count_eq (table : ByMethod β) : count table = (pairs table).length := by
  have sizes : ∀ entry ∈ table.entries, entry.2.size = (keysOf table entry.1).length := by
    intro entry member
    rw [keysOf, OrderedMap.get?_of_mem member, Option.getD_some, OrderedMap.keys, List.length_map]
    rfl
  have sum : ∀ entries ⊆ table.entries,
      (entries.map Prod.snd).foldr (fun bucket total => OrderedMap.size bucket + total) 0 =
        ((entries.map Prod.fst).flatMap fun method => (keysOf table method).map (method, ·)).length := by
    intro entries within
    induction entries with
    | nil => rfl
    | cons entry rest ih =>
      obtain ⟨first, later⟩ := List.cons_subset.mp within
      rw [List.map_cons, List.foldr_cons, ih later, sizes entry first, List.map_cons,
        List.flatMap_cons, List.length_append, List.length_map]
  exact sum table.entries (List.Subset.refl _)

end ByMethod

/-! ### Insertions -/

structure Insertion where
  method : String
  route : Route
  handler : Handler

namespace Insertion

def key (insertion : Insertion) : String := insertion.route.key

def pair (insertion : Insertion) : String × String := (insertion.method, insertion.key)

def ofKind (kind : RouteKind) (history : List Insertion) : List Insertion :=
  history.filter fun insertion => insertion.route.kind = kind

def forMethod (kind : RouteKind) (method : String) (history : List Insertion) : List Insertion :=
  (ofKind kind history).filter fun insertion => insertion.method = method

/-- The last insertion of one kind for one method and one key. -/
def last? (kind : RouteKind) (method key : String) (history : List Insertion) : Option Insertion :=
  (ofKind kind history).reverse.find? fun insertion => insertion.pair = (method, key)

private theorem ofKind_concat (kind : RouteKind) (history : List Insertion) (insertion : Insertion) :
    ofKind kind (history ++ [insertion]) =
      if insertion.route.kind = kind then ofKind kind history ++ [insertion]
      else ofKind kind history := by
  by_cases same : insertion.route.kind = kind <;> simp [ofKind, same]

private theorem forMethod_concat (kind : RouteKind) (method : String) (history : List Insertion)
    (insertion : Insertion) :
    forMethod kind method (history ++ [insertion]) =
      if insertion.route.kind = kind ∧ insertion.method = method then
        forMethod kind method history ++ [insertion]
      else forMethod kind method history := by
  rw [forMethod, ofKind_concat]
  by_cases same : insertion.route.kind = kind
  · by_cases equal : insertion.method = method <;> simp [forMethod, same, equal]
  · simp [forMethod, same]

private theorem last?_concat (kind : RouteKind) (method key : String) (history : List Insertion)
    (insertion : Insertion) :
    last? kind method key (history ++ [insertion]) =
      if insertion.method = method ∧ insertion.route.kind = kind ∧ insertion.route.key = key then
        some insertion
      else last? kind method key history := by
  rw [last?, ofKind_concat]
  by_cases same : insertion.route.kind = kind
  · by_cases equal : insertion.method = method <;>
      by_cases hit : insertion.route.key = key <;>
        simp [last?, pair, Insertion.key, same, equal, hit]
  · simp [last?, same]

end Insertion

namespace RouteSet

def methodsOf (routes : RouteSet) : RouteKind → List String
  | .static => routes.static.keys
  | .dynamic => routes.dynamic.keys

def keysOf (routes : RouteSet) (kind : RouteKind) (method : String) : List String :=
  match kind with
  | .static => ByMethod.keysOf routes.static method
  | .dynamic => ByMethod.keysOf routes.dynamic method

private theorem methodsOf_insert (routes : RouteSet) (method : String) (route : Route)
    (handler : Handler) (kind : RouteKind) :
    (routes.insert method route handler).methodsOf kind =
      if route.kind = kind ∧ method ∉ routes.methodsOf kind then routes.methodsOf kind ++ [method]
      else routes.methodsOf kind := by
  cases route <;> cases kind <;>
    simp [insert, methodsOf, Route.kind, ByMethod.put, OrderedMap.keys_insert, ite_not]

private theorem keysOf_insert (routes : RouteSet) (method : String) (route : Route) (handler : Handler)
    (kind : RouteKind) (other : String) :
    (routes.insert method route handler).keysOf kind other =
      if (route.kind = kind ∧ method = other) ∧ route.key ∉ routes.keysOf kind other then
        routes.keysOf kind other ++ [route.key]
      else routes.keysOf kind other := by
  cases route <;> cases kind <;>
    simp [insert, keysOf, Route.kind, Route.key, ByMethod.keysOf_put]

/-- The routes are those of a history of insertions: methods and keys in order of first
insertion, and under each key what was inserted last. -/
structure Records (routes : RouteSet) (history : List Insertion) : Prop where
  methods : ∀ kind, routes.methodsOf kind =
    ((Insertion.ofKind kind history).map Insertion.method).eraseDups
  keys : ∀ kind method, routes.keysOf kind method =
    ((Insertion.forMethod kind method history).map Insertion.key).eraseDups
  values : ∀ kind method key, routes.find? method kind key =
    (Insertion.last? kind method key history).map fun last => (last.route, last.handler)

private theorem records_nil : empty.Records [] where
  methods kind := by cases kind <;> rfl
  keys kind method := by cases kind <;> rfl
  values kind method key := by cases kind <;> rfl

/-- One more insertion is recorded. -/
theorem Records.insert {routes : RouteSet} {history : List Insertion}
    (records : routes.Records history) (insertion : Insertion) :
    (routes.insert insertion.method insertion.route insertion.handler).Records
      (history ++ [insertion]) where
  methods kind := by
    rw [methodsOf_insert, records.methods, Insertion.ofKind_concat]
    by_cases same : insertion.route.kind = kind
    · simp only [same, true_and, if_true, List.map_append, List.map_singleton,
        OrderedMap.eraseDups_concat, List.mem_eraseDups, ite_not]
    · simp only [same, false_and, if_false]
  keys kind method := by
    rw [keysOf_insert, records.keys, Insertion.forMethod_concat]
    by_cases same : insertion.route.kind = kind ∧ insertion.method = method
    · simp only [same, true_and, if_true, List.map_append, List.map_singleton,
        OrderedMap.eraseDups_concat, List.mem_eraseDups, ite_not, and_self]
      rfl
    · simp only [same, false_and, if_false]
  values kind method key := by
    rw [find?_insert, records.values, Insertion.last?_concat]
    split <;> rfl

end RouteSet

namespace RouteSet.Records

variable {routes : RouteSet} {history : List Insertion}

private theorem mem_methodsOf_iff (records : routes.Records history) {kind : RouteKind}
    {method : String} :
    method ∈ routes.methodsOf kind ↔ routes.keysOf kind method ≠ [] := by
  rw [records.methods, records.keys, List.mem_eraseDups]
  constructor
  · intro listed
    obtain ⟨insertion, member, rfl⟩ := List.mem_map.mp listed
    have written : insertion ∈ Insertion.forMethod kind insertion.method history :=
      List.mem_filter.mpr ⟨member, by simp⟩
    exact List.ne_nil_of_mem (List.mem_eraseDups.mpr (List.mem_map_of_mem written))
  · intro some
    obtain ⟨key, member⟩ := List.exists_mem_of_ne_nil _ some
    obtain ⟨insertion, written, _⟩ := List.mem_map.mp (List.mem_eraseDups.mp member)
    obtain ⟨inside, same⟩ := List.mem_filter.mp written
    exact List.mem_map.mpr ⟨insertion, inside, of_decide_eq_true same⟩

private theorem source_eq (records : routes.Records history) {method key : String} {route : DynamicRoute}
    (found : ByMethod.find? routes.dynamic method key = some route) :
    route.matcher.source = key := by
  have stored : routes.find? method .dynamic key = some (.dynamic route.matcher, route.handler) := by
    rw [RouteSet.find?, found]
    rfl
  rw [records.values] at stored
  obtain ⟨last, selected, same⟩ := Option.map_eq_some_iff.mp stored
  have pair : last.pair = (method, key) := by simpa using List.find?_some selected
  rw [Insertion.pair, Insertion.key, (Prod.mk.inj same).1] at pair
  exact (Prod.mk.inj pair).2

/-- A table has one entry for each method and key that was inserted. -/
theorem countOf_eq (records : routes.Records history) (fallbacks : Fallbacks) (kind : RouteKind) :
    Table.countOf ⟨routes, fallbacks⟩ kind =
      ((Insertion.ofKind kind history).map Insertion.pair).eraseDups.length := by
  have counted : ∀ {β : Type} {table : ByMethod β},
      (∀ pair : String × String, pair ∈ ByMethod.pairs table ↔
        pair.1 ∈ routes.methodsOf kind ∧ pair.2 ∈ routes.keysOf kind pair.1) →
      ByMethod.count table =
        ((Insertion.ofKind kind history).map Insertion.pair).eraseDups.length := by
    intro β table members
    rw [ByMethod.count_eq]
    apply List.Perm.length_eq
    refine (List.perm_ext_iff_of_nodup (ByMethod.pairs_nodup table)
      (OrderedMap.nodup_eraseDups _)).mpr fun pair => ?_
    rw [members, records.methods, records.keys, List.mem_eraseDups, List.mem_eraseDups,
      List.mem_eraseDups]
    constructor
    · rintro ⟨_, written⟩
      obtain ⟨insertion, member, key⟩ := List.mem_map.mp written
      obtain ⟨inside, method⟩ := List.mem_filter.mp member
      exact List.mem_map.mpr ⟨insertion, inside, Prod.ext (of_decide_eq_true method) key⟩
    · intro written
      obtain ⟨insertion, member, rfl⟩ := List.mem_map.mp written
      exact ⟨List.mem_map_of_mem member,
        List.mem_map_of_mem (List.mem_filter.mpr ⟨member, by simp [Insertion.pair]⟩)⟩
  cases kind with
  | static => exact counted fun _ => ByMethod.mem_pairs_iff
  | dynamic => exact counted fun _ => ByMethod.mem_pairs_iff

end RouteSet.Records

/-! ### Collectors -/

/-- Routes on their way to a table, and the host that hears of each of them. -/
structure Collector where
  routes : RouteSet
  host : Host

inductive RouteOrigin where
  /-- A route that is compiled already. -/
  | compiled (route : Route)
  /-- Tokens, which are still to be compiled. -/
  | tokens (tokens : List Token)
  /-- The text of the expression of a dynamic route. -/
  | source (text : String)

def RouteOrigin.route : RouteOrigin → Except RouteError Route
  | .compiled route => .ok route
  | .tokens parts => Route.compile parts
  | .source text => (Matcher.ofSource text).map .dynamic

/-- A call that is to store one route. -/
structure Submission where
  method : String
  origin : RouteOrigin
  handler : Handler

namespace Submission

def insertion (submission : Submission) : Except RouteError Insertion :=
  submission.origin.route.map fun route => ⟨submission.method, route, submission.handler⟩

def answer (submission : Submission) : Except RouteError Unit :=
  submission.origin.route.map fun _ => ()

def succeeds (submission : Submission) : Bool := submission.origin.route.isOk

/-- What a row of calls stores. -/
def history (submissions : List Submission) : List Insertion :=
  submissions.filterMap fun submission => submission.insertion.toOption

private theorem history_filter_succeeds (submissions : List Submission) :
    history (submissions.filter succeeds) = history submissions := by
  rw [history, history, List.filterMap_filter]
  apply List.filterMap_congr
  intro submission _
  cases compiled : submission.origin.route <;>
    simp [succeeds, insertion, compiled, Except.isOk, Except.toBool, Except.map, Except.toOption]

end Submission

namespace Collector

def insert (collector : Collector) (insertion : Insertion) : Collector where
  routes := collector.routes.insert insertion.method insertion.route insertion.handler
  host := collector.host.registered insertion.method insertion.route

/-- Stores a route if it compiles. -/
def perform (collector : Collector) (submission : Submission) : Except RouteError Unit × Collector :=
  match submission.insertion with
  | .error error => (.error error, collector)
  | .ok insertion => (.ok (), collector.insert insertion)

def performAll (collector : Collector) :
    List Submission → List (Except RouteError Unit) × Collector
  | [] => ([], collector)
  | submission :: rest =>
    let first := collector.perform submission
    let later := first.2.performAll rest
    (first.1 :: later.1, later.2)

/-- A row of calls stores what compiles, in the order of the calls. -/
theorem performAll_eq (collector : Collector) (submissions : List Submission) :
    collector.performAll submissions =
      (submissions.map Submission.answer, (Submission.history submissions).foldl insert collector) := by
  induction submissions generalizing collector with
  | nil => rfl
  | cons submission rest ih =>
    simp only [performAll, ih, perform, Submission.history, List.map_cons, List.filterMap_cons,
      Submission.answer, Submission.insertion]
    cases submission.origin.route <;> rfl

theorem perform_tokens (collector : Collector) (method : String) (tokens : List Token)
    (handler : Handler) :
    (collector.perform ⟨method, .tokens tokens, handler⟩).1.map
        (fun _ => (collector.perform ⟨method, .tokens tokens, handler⟩).2.routes) =
      collector.routes.add method tokens handler := by
  simp only [perform, Submission.insertion, RouteOrigin.route, RouteSet.add]
  cases Route.compile tokens <;> rfl

private theorem performAll_compiled (collector : Collector) (entries : List (String × Route))
    (handler : Handler) :
    (collector.performAll (entries.map fun entry => ⟨entry.1, .compiled entry.2, handler⟩)).2 =
      ⟨collector.routes.insertAll entries handler, collector.host.registeredAll entries⟩ := by
  induction entries generalizing collector with
  | nil => rfl
  | cons entry entries ih => exact ih (collector.insert ⟨entry.1, entry.2, handler⟩)

private theorem records_foldl (host : Host) (history : List Insertion) :
    (history.foldl insert ⟨RouteSet.empty, host⟩).routes.Records history := by
  induction history using List.reverseRecOn with
  | nil => exact RouteSet.records_nil
  | append_singleton history insertion ih =>
    rw [List.foldl_append]
    exact ih.insert insertion

private theorem total_foldl (collector : Collector) (history : List Insertion) (kind : RouteKind) :
    (history.foldl insert collector).host.journal.total (Series.registered kind.name) =
      collector.host.journal.total (Series.registered kind.name) +
        (Insertion.ofKind kind history).length := by
  induction history using List.reverseRecOn with
  | nil => rfl
  | append_singleton history insertion ih =>
    rw [List.foldl_append, List.foldl_cons, List.foldl_nil, insert, Host.total_registered, ih,
      Insertion.ofKind_concat, Nat.add_assoc]
    split
    · rw [List.length_append, List.length_singleton]
    · rfl

end Collector

/-- A router that accepts a template hands its routes to such a collector, one call for each. -/
theorem Service.addRoute_eq_performAll {service : Service} {routes : RouteSet} {fallbacks : Fallbacks}
    (phase : service.router.phase = .collecting routes fallbacks) {methods : List String}
    (some : methods ≠ []) {template : String} {compiled : List Route}
    (good : service.router.compile template = .ok compiled) (handler : Handler) :
    let submissions := (methodRoutes methods compiled).map fun entry =>
      (⟨entry.1, .compiled entry.2, handler⟩ : Submission)
    let final := ((⟨routes, service.host⟩ : Collector).performAll submissions).2
    (service.addRoute methods template handler).2 =
      ⟨{ service.router with phase := .collecting final.routes fallbacks }, final.host⟩ := by
  intro submissions final
  rw [addRoute_stored handler phase some good,
    show final = _ from Collector.performAll_compiled _ _ _]

namespace Collector

/-- Collected routes are the ordered history of their insertions, each entry once. For every
row of calls on an empty collector, of which some may fail: methods stand in order of first
insertion of that kind, no method is without keys, keys stand in order of first insertion for
their method, and under each of them stands what was inserted last. A dynamic route stands
under the text of its own expression. A call that fails leaves no trace. A table that is
made of the routes has one entry for each method and key that was inserted, which is at most
the number of reports. -/
theorem performAll_records (host : Host) (submissions : List Submission) :
    let start : Collector := ⟨RouteSet.empty, host⟩
    let final := (start.performAll submissions).2
    let history := Submission.history submissions
    (start.performAll submissions).1 = submissions.map Submission.answer ∧
    final = (start.performAll (submissions.filter Submission.succeeds)).2 ∧
    (∀ kind,
      final.routes.methodsOf kind =
        ((Insertion.ofKind kind history).map Insertion.method).eraseDups ∧
      (∀ method,
        final.routes.keysOf kind method =
          ((Insertion.forMethod kind method history).map Insertion.key).eraseDups ∧
        (method ∈ final.routes.methodsOf kind ↔ final.routes.keysOf kind method ≠ []) ∧
        ∀ key, final.routes.find? method kind key =
          (Insertion.last? kind method key history).map fun last => (last.route, last.handler)) ∧
      final.host.journal.total (Series.registered kind.name) =
        host.journal.total (Series.registered kind.name) + (Insertion.ofKind kind history).length ∧
      ∀ fallbacks,
        Table.countOf ⟨final.routes, fallbacks⟩ kind =
          ((Insertion.ofKind kind history).map Insertion.pair).eraseDups.length ∧
        Table.countOf ⟨final.routes, fallbacks⟩ kind ≤ (Insertion.ofKind kind history).length) ∧
    ∀ method key route, ByMethod.find? final.routes.dynamic method key = some route →
      route.matcher.source = key := by
  intro start final history
  have performed : final = history.foldl insert start :=
    congrArg Prod.snd (start.performAll_eq submissions)
  have records : final.routes.Records history := performed ▸ records_foldl host history
  refine ⟨congrArg Prod.fst (start.performAll_eq submissions), ?_, fun kind => ?_,
    fun method key route found => records.source_eq found⟩
  · rw [performed, performAll_eq, Submission.history_filter_succeeds]
  · refine ⟨records.methods kind, fun method => ?_, ?_, fun fallbacks => ?_⟩
    · exact ⟨records.keys kind method, records.mem_methodsOf_iff, records.values kind method⟩
    · rw [performed]
      exact total_foldl start history kind
    · rw [records.countOf_eq]
      refine ⟨rfl, ?_⟩
      have fewer := List.Nodup.subperm
        (OrderedMap.nodup_eraseDups ((Insertion.ofKind kind history).map Insertion.pair))
        fun pair => List.mem_eraseDups.mp
      rw [← List.length_map Insertion.pair]
      exact fewer.length_le

/-- Methods are kept as they are written, a route that is stored again keeps its place, and an
expression that cannot be read leaves no method behind. -/
example :
    let final := ((⟨RouteSet.empty, {}⟩ : Collector).performAll
      [⟨"GET", .tokens [.literal "/a"], "first"⟩, ⟨"get", .tokens [.literal "/a"], "other"⟩,
        ⟨"GET", .tokens [.literal "/b"], "next"⟩, ⟨"PUT", .source "^(", "none"⟩,
        ⟨"GET", .compiled (.static "/a"), "second"⟩]).2
    final.routes.methodsOf .static = ["GET", "get"] ∧ final.routes.methodsOf .dynamic = [] ∧
      final.routes.keysOf .static "GET" = ["/a", "/b"] ∧
      ByMethod.find? final.routes.static "GET" "/a" = some "second" := by
  decide +kernel

end Collector

end PathRouting
