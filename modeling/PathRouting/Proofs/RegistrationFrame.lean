import PathRouting.Proofs.RegistrationRuns

/-! What one registration changes. A template that is refused, by whichever of its
expansions, leaves the service as it was. One that is accepted writes its own entries
and no others: what was stored before keeps its handler and its place, and the
counters grow by what was stored. -/

namespace PathRouting

theorem OrderedMap.keys_prefix_insert {κ β : Type} [DecidableEq κ] (map : OrderedMap κ β) (key : κ)
    (value : β) : map.keys <+: (map.insert key value).keys := by
  rw [keys_insert]
  split
  · exact List.prefix_refl _
  · exact List.prefix_append _ _

namespace ByMethod

variable {β : Type}

def keysOf (table : ByMethod β) (method : String) : List String :=
  ((table.get? method).getD OrderedMap.empty).keys

theorem mem_keysOf_iff {table : ByMethod β} {method key : String} :
    key ∈ keysOf table method ↔ (find? table method key).isSome := by
  rw [keysOf, ← OrderedMap.get?_isSome_iff, find?]
  cases table.get? method <;> rfl

theorem keysOf_nodup {table : ByMethod β} {method : String} : (keysOf table method).Nodup :=
  OrderedMap.distinct _

/-- Everything stands where it stood, and what is new comes after it. -/
structure Extends (after before : ByMethod β) : Prop where
  methods : before.keys <+: after.keys
  keys : ∀ method, keysOf before method <+: keysOf after method

namespace Extends

private theorem refl (table : ByMethod β) : Extends table table :=
  ⟨List.prefix_refl _, fun _ => List.prefix_refl _⟩

private theorem trans {last middle first : ByMethod β} (later : Extends last middle)
    (sooner : Extends middle first) : Extends last first :=
  ⟨sooner.methods.trans later.methods, fun method => (sooner.keys method).trans (later.keys method)⟩

private theorem put (table : ByMethod β) (method key : String) (value : β) :
    Extends (ByMethod.put table method key value) table where
  methods := table.keys_prefix_insert method _
  keys other := by
    simp only [keysOf, ByMethod.put, OrderedMap.get?_insert]
    split
    next same =>
      subst same
      exact OrderedMap.keys_prefix_insert _ key value
    next => exact List.prefix_refl _

end Extends

end ByMethod

namespace RouteSet

def find? (routes : RouteSet) (method : String) : RouteKind → String → Option (Route × Handler)
  | .static, path =>
    (ByMethod.find? routes.static method path).map fun handler => (.static path, handler)
  | .dynamic, source =>
    (ByMethod.find? routes.dynamic method source).map fun route =>
      (.dynamic route.matcher, route.handler)

theorem find?_insert (routes : RouteSet) (method : String) (route : Route) (handler : Handler)
    (other : String) (kind : RouteKind) (key : String) :
    (routes.insert method route handler).find? other kind key =
      if method = other ∧ route.kind = kind ∧ route.key = key then some (route, handler)
      else routes.find? other kind key := by
  cases route with
  | static path =>
    cases kind with
    | static =>
      simp only [insert, find?, ByMethod.find?_put, Route.kind, Route.key, true_and]
      split
      next same => simp [same.2]
      next => rfl
    | dynamic => simp [insert, find?, Route.kind]
  | dynamic matcher =>
    cases kind with
    | static => simp [insert, find?, Route.kind]
    | dynamic =>
      simp only [insert, find?, ByMethod.find?_put, Route.kind, Route.key, true_and]
      split <;> rfl

/-- Some routes have been stored with one handler, and nothing else has changed: they are
found under their keys, other entries are what they were, and keys keep their places. -/
structure Stored (entries : List (String × Route)) (handler : Handler) (after before : RouteSet) :
    Prop where
  new : ∀ entry ∈ entries, ∃ route, (entry.1, route) ∈ entries ∧
    route.kind = entry.2.kind ∧ route.key = entry.2.key ∧
    after.find? entry.1 entry.2.kind entry.2.key = some (route, handler)
  others : ∀ method kind key,
    (∀ entry ∈ entries, ¬ (entry.1 = method ∧ entry.2.kind = kind ∧ entry.2.key = key)) →
    after.find? method kind key = before.find? method kind key
  static : ByMethod.Extends after.static before.static
  dynamic : ByMethod.Extends after.dynamic before.dynamic

private theorem extends_insert (routes : RouteSet) (method : String) (route : Route)
    (handler : Handler) :
    ByMethod.Extends (routes.insert method route handler).static routes.static ∧
      ByMethod.Extends (routes.insert method route handler).dynamic routes.dynamic := by
  cases route with
  | static path => exact ⟨.put _ _ _ _, .refl _⟩
  | dynamic matcher => exact ⟨.refl _, .put _ _ _ _⟩

theorem stored_insertAll (routes : RouteSet) (entries : List (String × Route)) (handler : Handler) :
    Stored entries handler (routes.insertAll entries handler) routes := by
  induction entries using List.reverseRecOn with
  | nil => exact ⟨by simp, fun _ _ _ _ => rfl, .refl _, .refl _⟩
  | append_singleton entries last ih =>
    have step : routes.insertAll (entries ++ [last]) handler =
        (routes.insertAll entries handler).insert last.1 last.2 handler := by
      simp [insertAll]
    have moved := extends_insert (routes.insertAll entries handler) last.1 last.2 handler
    rw [step]
    refine ⟨?_, ?_, moved.1.trans ih.static, moved.2.trans ih.dynamic⟩
    · intro entry member
      rw [find?_insert]
      split
      next same =>
        obtain ⟨method, kind, key⟩ := same
        exact ⟨last.2, by simp [← method], kind, key, rfl⟩
      next apart =>
        rcases List.mem_append.mp member with earlier | final
        · obtain ⟨route, inside, kind, key, found⟩ := ih.new entry earlier
          exact ⟨route, List.mem_append_left _ inside, kind, key, found⟩
        · rw [List.mem_singleton.mp final] at apart
          exact absurd ⟨rfl, rfl, rfl⟩ apart
    · intro method kind key apart
      rw [find?_insert, if_neg (apart last (by simp))]
      exact ih.others method kind key fun entry member => apart entry (List.mem_append_left _ member)

end RouteSet

namespace Host

theorem total_registered (host : Host) (method : String) (route : Route) (kind : RouteKind) :
    (host.registered method route).journal.total (Series.registered kind.name) =
      host.journal.total (Series.registered kind.name) + if route.kind = kind then 1 else 0 := by
  have names : Series.registered route.kind.name = Series.registered kind.name ↔
      route.kind = kind := by
    cases route.kind <;> cases kind <;> decide
  simp only [registered, log, count, report, Journal.add, Journal.total, List.count_cons,
    beq_iff_eq, Report.count.injEq, names, reduceCtorEq, if_false, Nat.add_zero]

private theorem total_registeredAll (host : Host) (entries : List (String × Route)) (kind : RouteKind) :
    (host.registeredAll entries).journal.total (Series.registered kind.name) =
      host.journal.total (Series.registered kind.name) +
        entries.countP fun entry => entry.2.kind = kind := by
  induction entries generalizing host with
  | nil => rfl
  | cons entry entries ih =>
    have first := total_registered host entry.1 entry.2 kind
    rw [registeredAll, List.foldl_cons, ← registeredAll, ih, first, List.countP_cons]
    simp only [decide_eq_true_eq]
    omega

private theorem registeredAll_journal (host : Host) (entries : List (String × Route)) :
    ∃ journal, host.registeredAll entries = { host with journal } := by
  induction entries generalizing host with
  | nil => exact ⟨host.journal, rfl⟩
  | cons entry entries ih =>
    obtain ⟨journal, same⟩ := ih (host.registered entry.1 entry.2)
    exact ⟨journal, same⟩

private theorem view_foldl {ι α : Type} {view : Host → α} {report : Host → ι → Host}
    (same : ∀ host item, view (report host item) = view host) (items : List ι) (host : Host) :
    view (items.foldl report host) = view host := by
  induction items generalizing host with
  | nil => rfl
  | cons item items ih => rw [List.foldl_cons, ih, same]

end Host

namespace Service

variable {α : Type} (view : Host → α) (logs : ∀ host event, view (Host.log host event) = view host)
  (service : Service)
include logs

theorem view_addRoute
    (registers : ∀ host method route, view (Host.registered host method route) = view host)
    (methods : List String) (template : String) (handler : Handler) :
    view (service.addRoute methods template handler).2.host = view service.host := by
  simp only [addRoute]
  split
  · rfl
  split
  · exact logs _ _
  split
  · rfl
  · exact Host.view_foldl (fun host (entry : String × Route) => registers host entry.1 entry.2) _ _

theorem view_addFallback (method : String) (handler : Handler) :
    view (service.addFallback method handler).2.host = view service.host := by
  simp only [addFallback]
  split
  · rfl
  · exact Host.view_foldl (fun host _ => logs host _) _ _

end Service

private theorem countP_methodRoutes (methods : List String) (routes : List Route) (kind : RouteKind) :
    (methodRoutes methods routes).countP (fun entry => entry.2.kind = kind) =
      (expandMethods anyMethods methods).length *
        routes.countP fun route => route.kind = kind := by
  rw [methodRoutes]
  induction expandMethods anyMethods methods with
  | nil => simp
  | cons method others ih =>
    rw [List.flatMap_cons, List.countP_append, ih, List.countP_map, List.length_cons,
      Nat.add_mul, Nat.one_mul, Nat.add_comm]
    rfl

/-- The routes of a template are its expansions, each compiled on its own. -/
theorem Router.compile_ok {router : Router} {template : String} {compiled : List Route}
    (good : router.compile template = .ok compiled) :
    ∃ expansions, Template.parse router.aliases (router.stem ++ template) = .ok expansions ∧
      List.Forall₂ (fun tokens route => Route.compile tokens = .ok route) expansions compiled := by
  simp only [compile, bind, Except.bind] at good
  split at good
  · cases good
  next expansions parsed => exact ⟨expansions, parsed, forall₂_of_mapM_ok good⟩

namespace Service

/-- A call that registers a template for some methods has been accepted: the service was
open, all expansions of the template have been stored under all methods with the new
handler, and the counters have grown by what was stored. All else is as it was. -/
def Accepts (methods : List String) (template : String) (handler : Handler)
    (after before : Service) : Prop :=
  ∃ routes fallbacks expansions compiled stored journal,
    before.router.phase = .collecting routes fallbacks ∧
    Template.parse before.router.aliases (before.router.stem ++ template) = .ok expansions ∧
    List.Forall₂ (fun tokens route => Route.compile tokens = .ok route) expansions compiled ∧
    after = ⟨{ before.router with phase := .collecting stored fallbacks },
      { before.host with journal }⟩ ∧
    stored.Stored (methodRoutes methods compiled) handler routes ∧
    ∀ kind : RouteKind, journal.total (Series.registered kind.name) =
      before.host.journal.total (Series.registered kind.name) +
        (expandMethods anyMethods methods).length * compiled.countP fun route => route.kind = kind

section

variable {service : Service} {routes : RouteSet} {fallbacks : Fallbacks} {methods : List String}
  {template : String}

private theorem accepts_of_compile (handler : Handler)
    (phase : service.router.phase = .collecting routes fallbacks) (some : methods ≠ [])
    {compiled : List Route} (good : service.router.compile template = .ok compiled) :
    Accepts methods template handler (service.addRoute methods template handler).2 service := by
  obtain ⟨expansions, parsed, each⟩ := Router.compile_ok good
  obtain ⟨journal, reported⟩ := service.host.registeredAll_journal (methodRoutes methods compiled)
  have stored := routes.stored_insertAll (methodRoutes methods compiled) handler
  refine ⟨routes, fallbacks, expansions, compiled, _, journal, phase, parsed, each, ?_, stored, ?_⟩
  · rw [addRoute_stored handler phase some good, reported]
  · intro kind
    have counted := service.host.total_registeredAll (methodRoutes methods compiled) kind
    rwa [reported, countP_methodRoutes] at counted

end

/-- A call that registers a template stores all of it or nothing. If it is refused, the
service is what it was, and the reason is that the table is fixed or that the template
does not compile. If it is not refused and names a method, it is accepted as a whole. -/
theorem addRoute_all_or_nothing (service : Service) (methods : List String) (template : String)
    (handler : Handler) :
    (∀ error, (service.addRoute methods template handler).1 = .error error →
      (service.addRoute methods template handler).2 = service ∧
        if service.router.isFinished then error = .registrationClosed
        else methods ≠ [] ∧ service.router.compile template = .error error) ∧
    ((service.addRoute methods template handler).1 = .ok () → methods ≠ [] →
      Accepts methods template handler (service.addRoute methods template handler).2 service) := by
  cases phase : service.router.phase with
  | finished table =>
    rw [addRoute_finished phase]
    refine ⟨fun error refused => ⟨rfl, ?_⟩, fun accepted => nomatch accepted⟩
    cases refused
    simp [Router.isFinished, phase]
  | collecting routes fallbacks =>
    have open_ : service.router.isFinished = false := by simp [Router.isFinished, phase]
    obtain ⟨none, host, unchanged⟩ | ⟨reason, some, bad, refused⟩ | ⟨compiled, some, good, stored⟩ :=
      addRoute_cases phase methods template handler
    · rw [unchanged]
      exact ⟨(fun error refused => nomatch refused), fun _ some => absurd none some⟩
    · rw [refused]
      refine ⟨fun error same => ⟨rfl, ?_⟩, fun accepted => nomatch accepted⟩
      cases same
      simp [open_, some, bad]
    · refine ⟨fun error refused => ?_, fun _ _ => accepts_of_compile handler phase some good⟩
      rw [stored] at refused
      cases refused

/-- A template whose second expansion repeats a name, and one with a static and a dynamic
expansion that writes over what a route of before has stored. -/
theorem addRoute_all_or_nothing_optional :
    let open_ := ((⟨{}, {}⟩ : Service).addRoute ["get", "put"] "/x" "old").2
    let refused := open_.addRoute ["*"] "/x/{id}[/{id}]" "new"
    let accepted := open_.addRoute ["get"] "/x[/{id}]" "new"
    let stored := accepted.2.finish.1.routes
    refused.1 = .error (.duplicateVariable "id" "/x/\x7bid:[^/]+\x7d/\x7bid:[^/]+\x7d") ∧
      refused.2 = open_ ∧ accepted.1 = .ok () ∧
      Accepts ["get"] "/x[/{id}]" "new" accepted.2 open_ ∧
      ByMethod.find? stored.static "GET" "/x" = some "new" ∧
      ByMethod.find? stored.static "PUT" "/x" = some "old" ∧
      (ByMethod.find? stored.dynamic "GET" "^/x/(?P<id>[^/]+)$").map DynamicRoute.handler =
        some "new" ∧
      accepted.2.host.journal.total (Series.registered "static") = 3 ∧
      accepted.2.host.journal.total (Series.registered "dynamic") = 1 := by
  intro open_ refused accepted stored
  have failed : refused.1 =
      .error (.duplicateVariable "id" "/x/\x7bid:[^/]+\x7d/\x7bid:[^/]+\x7d") := by
    decide +kernel
  have done : accepted.1 = .ok () := by decide +kernel
  refine ⟨failed, ((addRoute_all_or_nothing open_ _ _ _).1 _ failed).1, done,
    (addRoute_all_or_nothing open_ _ _ _).2 done (by decide), ?_, ?_, ?_, ?_, ?_⟩
  · decide +kernel
  · decide +kernel
  · decide +kernel
  · decide +kernel
  · decide +kernel

end Service

end PathRouting
