import Mathlib.Data.List.FinRange
import Mathlib.Data.List.Sort
import Mathlib.Logic.Equiv.Fin.Basic
import PathRouting.Proofs.LogDispatch

/-! The order of independent registrations does not matter. Two calls depend on each other
if both give a dynamic route to one method, or write one static path of one method, or set
one fallback. As long as such calls keep their order, the others may be made in any order:
all requests are answered alike, up to the order in which methods are offered. -/

namespace PathRouting

/-! ### Rearrangements of a list -/

section

variable {α : Type} {relevant : α → Bool} {items others : List α}
  (place : Fin items.length ≃ Fin others.length) (same : ∀ i, others.get (place i) = items.get i)
  (keeps : ∀ i j, i < j → relevant (items.get i) = true → relevant (items.get j) = true →
    place i < place j)
include same keeps

private theorem map_place_filter :
    ((List.finRange items.length).filter fun i => relevant (items.get i)).map place =
      (List.finRange others.length).filter fun i => relevant (others.get i) := by
  have ascending : ∀ (list : List α), ((List.finRange list.length).filter fun i =>
      relevant (list.get i)).Pairwise (· < ·) := fun list =>
    (List.sortedLT_finRange _).pairwise.filter _
  refine List.Pairwise.eq_of_mem_iff (r := (· < ·)) ?_ (ascending others) fun j => ?_
  · refine List.pairwise_map.mpr ((ascending items).imp_of_mem ?_)
    intro i j first second before
    exact keeps i j before (List.mem_filter.mp first).2 (List.mem_filter.mp second).2
  · simp only [List.mem_map, List.mem_filter, List.mem_finRange, true_and]
    constructor
    · rintro ⟨i, member, rfl⟩
      rwa [same]
    · intro member
      refine ⟨place.symm j, ?_, place.apply_symm_apply j⟩
      rwa [← same, place.apply_symm_apply]

/-- A list and a rearrangement of it agree on the relevant items if these keep their order. -/
theorem filter_eq_of_place : others.filter relevant = items.filter relevant := by
  have listed : ∀ list : List α, list.filter relevant =
      ((List.finRange list.length).filter fun i => relevant (list.get i)).map list.get := by
    intro list
    conv => lhs; rw [← List.map_get_finRange list]
    rw [List.filter_map]
    rfl
  rw [listed others, listed items, ← map_place_filter place same keeps, List.map_map]
  exact List.map_congr_left fun i _ => same i

end

/-! ### What a call writes -/

/-- A part of a table in which the order of registrations counts. -/
inductive Slot where
  /-- The dynamic routes of a method. -/
  | dynamic (method : String)
  | static (method path : String)
  | fallback (method : String)
  deriving DecidableEq, Repr

def LogEntry.slot : LogEntry → Slot
  | route method .dynamic _ _ => .dynamic method
  | route method .static path _ => .static method path
  | fallback method _ => .fallback method

inductive Call where
  | route (methods : List String) (template : String) (handler : Handler)
  | fallback (method : String) (handler : Handler)
  deriving DecidableEq, Repr

namespace Service

def call (service : Service) : Call → Except RouteError Unit × Service
  | .route methods template handler => service.addRoute methods template handler
  | .fallback method handler => service.addFallback method handler

def callAll (service : Service) (calls : List Call) : Service :=
  calls.foldl (fun service call => (service.call call).2) service

def accepted (service : Service) : Call → Log
  | .route methods template handler => service.acceptedRoutes methods template handler
  | .fallback method handler => service.acceptedFallbacks method handler

end Service

namespace Call

variable (aliases : AliasTable)

def entries (call : Call) : Log := Service.accepted ⟨{ aliases }, {}⟩ call

def slots (call : Call) : List Slot := (call.entries aliases).map LogEntry.slot

/-- Two calls depend on each other if they write to one part of the table. -/
def Dependent (one two : Call) : Prop := ∃ slot ∈ one.slots aliases, slot ∈ two.slots aliases

instance (one two : Call) : Decidable (Dependent aliases one two) :=
  inferInstanceAs (Decidable (∃ slot ∈ one.slots aliases, slot ∈ two.slots aliases))

/-- The same calls in another order, in which dependent calls keep theirs. -/
def Rearranges (calls others : List Call) : Prop :=
  ∃ place : Fin calls.length ≃ Fin others.length,
    (∀ i, others.get (place i) = calls.get i) ∧
    ∀ i j, i < j → Dependent aliases (calls.get i) (calls.get j) → place i < place j

end Call

/-! ### What counts in a log -/

namespace Log

def writtenTo (log : Log) (slot : Slot) : Log := log.filter fun entry => entry.slot = slot

private def keyed? : LogEntry → Option (String × Handler)
  | .route _ _ key handler => some (key, handler)
  | .fallback .. => none

private theorem ofMethod_dynamic (log : Log) (method : String) :
    ByMethod.ofMethod method (log.routes .dynamic) =
      (log.writtenTo (.dynamic method)).filterMap keyed? := by
  simp only [ByMethod.ofMethod, routes, writtenTo, List.filter_filterMap, List.map_filterMap,
    List.filterMap_filter]
  congr 1
  funext entry
  cases entry with
  | fallback other handler => simp [LogEntry.route?, LogEntry.slot]
  | route other kind key handler =>
    by_cases of : other = method
    all_goals cases kind <;> simp [LogEntry.route?, LogEntry.slot, keyed?, of]

private theorem sources_writtenTo (log : Log) (method : String) :
    log.sources method =
      (((log.writtenTo (.dynamic method)).filterMap keyed?).map Prod.fst).eraseDups := by
  rw [sources, ofMethod_dynamic]

private theorem handler?_dynamic (log : Log) (method source : String) :
    log.handler? method .dynamic source =
      OrderedMap.lastValue? source ((log.writtenTo (.dynamic method)).filterMap keyed?) := by
  rw [handler?, ofMethod_dynamic]

private theorem handler?_static (log : Log) (method path : String) :
    log.handler? method .static path =
      OrderedMap.lastValue? path ((log.writtenTo (.static method path)).filterMap keyed?) := by
  rw [handler?, ← OrderedMap.lastValue?_filter]
  simp only [ByMethod.ofMethod, routes, writtenTo, List.filter_filterMap, List.map_filterMap,
    List.filterMap_filter]
  congr 2
  funext entry
  cases entry with
  | fallback other handler => simp [LogEntry.route?, LogEntry.slot]
  | route other kind key handler =>
    by_cases of : other = method
    all_goals
      by_cases there : key = path
      all_goals cases kind <;> simp [LogEntry.route?, LogEntry.slot, keyed?, of, there]

private theorem fallback?_writtenTo (log : Log) (method : String) :
    log.fallback? method =
      OrderedMap.lastValue? method ((log.writtenTo (.fallback method)).filterMap LogEntry.fallback?) := by
  rw [fallback?, ← OrderedMap.lastValue?_filter]
  simp only [fallbacks, writtenTo, List.filter_filterMap, List.filterMap_filter]
  congr 2
  funext entry
  cases entry with
  | route other kind key handler => cases kind <;> simp [LogEntry.fallback?, LogEntry.slot]
  | fallback other handler =>
    by_cases of : other = method
    all_goals simp [LogEntry.fallback?, LogEntry.slot, of]

variable {one two : Log} (same : ∀ slot, one.writtenTo slot = two.writtenTo slot)
include same

private theorem answer?_congr (method path : String) :
    one.answer? method path = two.answer? method path := by
  simp only [answer?, handler?_static, handler?_dynamic, sources_writtenTo, same]

private theorem fallback?_congr (method : String) : one.fallback? method = two.fallback? method := by
  rw [fallback?_writtenTo, fallback?_writtenTo, same]

end Log

namespace Call

variable {aliases : AliasTable} {calls others : List Call}

/-- What calls write to a part of the table is what those of them that write to it do. -/
theorem writtenTo_entries (calls : List Call) (slot : Slot) :
    Log.writtenTo (calls.flatMap (entries aliases)) slot =
      (calls.filter fun call => slot ∈ call.slots aliases).flatMap fun call =>
        Log.writtenTo (call.entries aliases) slot := by
  induction calls with
  | nil => rfl
  | cons call calls ih =>
    rw [List.flatMap_cons, Log.writtenTo, List.filter_append, List.filter_cons]
    split
    · rw [List.flatMap_cons, ← ih]
      rfl
    next idle =>
      have nothing : (call.entries aliases).filter (fun entry => entry.slot = slot) = [] := by
        rw [List.filter_eq_nil_iff]
        intro entry member written
        exact idle (decide_eq_true (List.mem_map.mpr ⟨entry, member, of_decide_eq_true written⟩))
      rw [nothing, List.nil_append, ← ih]
      rfl

/-- A rearrangement writes the same to each part of the table. -/
theorem Rearranges.writtenTo (rearranged : Rearranges aliases calls others) (slot : Slot) :
    Log.writtenTo (others.flatMap (entries aliases)) slot =
      Log.writtenTo (calls.flatMap (entries aliases)) slot := by
  obtain ⟨place, same, keeps⟩ := rearranged
  rw [writtenTo_entries, writtenTo_entries, filter_eq_of_place place same]
  intro i j ascends first second
  exact keeps i j ascends ⟨slot, of_decide_eq_true first, of_decide_eq_true second⟩

end Call

/-- Equal up to the order in which methods are offered. -/
def Outcome.Similar : Outcome → Outcome → Prop
  | methodNotAllowed allowed fallback, methodNotAllowed others other =>
    allowed.Perm others ∧ fallback = other
  | one, two => one = two

theorem Outcome.Similar.refl (outcome : Outcome) : outcome.Similar outcome := by
  cases outcome with
  | methodNotAllowed allowed fallback => exact ⟨.refl _, rfl⟩
  | _ => rfl

namespace Table

variable {one two : Table}
  (answers : ∀ method path, one.matchMethod? method path = two.matchMethod? method path)
include answers

private theorem perm_allowedMethods (method path : String) :
    (one.allowedMethods method path).Perm (two.allowedMethods method path) :=
  (List.perm_ext_iff_of_nodup (one.allowedMethods_nodup method path)
    (two.allowedMethods_nodup method path)).mpr fun _ => by simp only [mem_allowedMethods, answers]

/-- Tables that answer alike for each method answer all requests alike, up to the order in
which methods are offered. -/
theorem similar_dispatch (fallbacks : ∀ method, one.fallback? method = two.fallback? method)
    (method path : String) :
    one.dispatch method path false = two.dispatch method path false ∧
      (one.dispatch method path true).Similar (two.dispatch method path true) := by
  have offered := perm_allowedMethods answers method.toUpper path
  simp only [dispatch, resolve, answers, fallbacks, Bool.false_eq_true, if_true, if_false, true_and]
  split
  · exact .refl _
  rw [offered.isEmpty_eq]
  split
  · rfl
  · exact ⟨offered, rfl⟩

end Table

namespace Service

section

variable {service : Service} {routes : RouteSet} {fallbacks : Fallbacks}
  (phase : service.router.phase = .collecting routes fallbacks)
include phase

private theorem accepted_eq_entries (outside : service.router.stem = "") (call : Call) :
    service.accepted call = call.entries service.router.aliases := by
  have fresh : (⟨{ aliases := service.router.aliases }, {}⟩ : Service).router.phase =
    .collecting RouteSet.empty OrderedMap.empty := rfl
  cases call with
  | fallback method handler =>
    exact (acceptedFallbacks_collecting phase method handler).trans
      (acceptedFallbacks_collecting fresh method handler).symm
  | route methods template handler =>
    have same : service.router.compile template =
        Router.compile { aliases := service.router.aliases } template := by
      simp only [Router.compile, outside]
    simp only [accepted, Call.entries]
    by_cases none : methods = []
    · subst none
      rw [acceptedRoutes_nothing, acceptedRoutes_nothing]
    cases result : service.router.compile template with
    | error error =>
      rw [acceptedRoutes_refused result, acceptedRoutes_refused (same ▸ result)]
    | ok compiled =>
      rw [acceptedRoutes_stored phase none result, acceptedRoutes_stored fresh none (same ▸ result)]

private theorem call_collecting (call : Call) :
    ∃ routes fallbacks host, (service.call call).2 =
      ⟨{ service.router with phase := .collecting routes fallbacks }, host⟩ := by
  cases call with
  | fallback method handler =>
    obtain ⟨host, added⟩ := addFallback_collecting phase method handler
    exact ⟨_, _, host, congrArg Prod.snd added⟩
  | route methods template handler =>
    obtain ⟨_, host, same⟩ | ⟨_, _, _, same⟩ | ⟨_, _, _, same⟩ :=
      addRoute_cases phase methods template handler
    · exact ⟨routes, fallbacks, host, by rw [call, same, ← phase]⟩
    · exact ⟨routes, fallbacks, service.host, by rw [call, same, ← phase]⟩
    · exact ⟨_, _, _, congrArg Prod.snd same⟩

theorem registers_callAll (outside : service.router.stem = "") (calls : List Call) :
    Registers service (calls.flatMap (Call.entries service.router.aliases)) (service.callAll calls) := by
  induction calls generalizing service routes fallbacks with
  | nil => exact .done service
  | cons first rest ih =>
    obtain ⟨_, _, _, after⟩ := call_collecting phase first
    have aliases : (service.call first).2.router.aliases = service.router.aliases := by rw [after]
    have stem : (service.call first).2.router.stem = service.router.stem := by rw [after]
    have later := ih (congrArg (fun service : Service => service.router.phase) after)
      (stem.trans outside)
    rw [aliases] at later
    rw [List.flatMap_cons, ← accepted_eq_entries phase outside first]
    cases first with
    | route methods template handler => exact .addRoute methods template handler later
    | fallback method handler => exact .addFallback method handler later

end

/-- The order of independent registrations does not matter. For every two rows of the same
calls in which dependent calls stand in the same order, made on a fresh router: all
requests are answered alike, and with a list of the other methods if that is asked for, up
to the order of that list. -/
theorem dispatch_rearranged (aliases : AliasTable) (cache : Option Cache) (host : Host)
    {calls others : List Call} (rearranged : Call.Rearranges aliases calls others)
    (method path : String) :
    let fresh : Service := ⟨{ aliases, cache }, host⟩
    ((fresh.callAll others).dispatch method path false).1 =
        ((fresh.callAll calls).dispatch method path false).1 ∧
      ((fresh.callAll others).dispatch method path true).1.Similar
        ((fresh.callAll calls).dispatch method path true).1 := by
  intro fresh
  have replays : ∀ calls, (fresh.callAll calls).finish.1.Replays
      (calls.flatMap (Call.entries aliases)) := fun calls =>
    have run : Registers fresh _ _ := registers_callAll rfl rfl calls
    ((Collected.initial aliases cache host).registers run).replays
  simp only [dispatch_eq]
  refine Table.similar_dispatch (fun method path => ?_) (fun method => ?_) method path
  · rw [(replays others).matchMethod?, (replays calls).matchMethod?]
    exact Log.answer?_congr rearranged.writtenTo method path
  · rw [(replays others).fallback?, (replays calls).fallback?]
    exact Log.fallback?_congr rearranged.writtenTo method

/-- Two calls for one path of GET that keep their order, and one for POST that moves: the
last handler for GET is the same, and PUT is offered the same methods in another order. -/
theorem dispatch_rearranged_moved :
    let fresh : Service := ⟨{}, {}⟩
    let calls : List Call := [.route ["get"] "/a" "first", .route ["post"] "/a" "other",
      .route ["get"] "/a" "second"]
    let others : List Call := [.route ["post"] "/a" "other", .route ["get"] "/a" "first",
      .route ["get"] "/a" "second"]
    Call.Rearranges AliasTable.standard calls others ∧
    ((fresh.callAll others).dispatch "GET" "/a" false).1 =
      ((fresh.callAll calls).dispatch "GET" "/a" false).1 ∧
    ((fresh.callAll others).dispatch "PUT" "/a" true).1 = .methodNotAllowed ["POST", "GET"] none ∧
    ((fresh.callAll calls).dispatch "PUT" "/a" true).1 = .methodNotAllowed ["GET", "POST"] none ∧
    ((fresh.callAll others).dispatch "PUT" "/a" true).1.Similar
      ((fresh.callAll calls).dispatch "PUT" "/a" true).1 := by
  intro fresh calls others
  have rearranged : Call.Rearranges AliasTable.standard calls others :=
    ⟨(Equiv.swap 0 1 : Fin 3 ≃ Fin 3), by decide +kernel, by decide +kernel⟩
  have alike := dispatch_rearranged AliasTable.standard none {} rearranged
  exact ⟨rearranged, (alike "GET" "/a").1, by decide +kernel, by decide +kernel, (alike "PUT" "/a").2⟩

end Service

end PathRouting
