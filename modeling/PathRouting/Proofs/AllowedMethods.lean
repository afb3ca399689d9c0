import PathRouting.Proofs.RegistrationRuns

/-! The methods that are offered when a request finds nothing are exactly the other
methods that would find something. Looking for them and answering a request are
two ways through the table that have to agree. -/

namespace PathRouting

namespace Matcher

theorem isSome_captures? (matcher : Matcher) (path : String) :
    (matcher.captures? path).isSome = matcher.accepts path := by
  simp [captures?, Regex.captures?, accepts, Regex.isMatch]

end Matcher

namespace Table

variable (table : Table) (method path : String)

private theorem isSome_matchDynamic? (routes : List DynamicRoute) :
    (matchDynamic? routes path).isSome = routes.any fun route => route.matcher.accepts path := by
  rw [matchDynamic?]
  induction routes with
  | nil => rfl
  | cons route routes ih =>
    rw [List.findSome?_cons, List.any_cons, ← ih, ← Matcher.isSome_captures?]
    cases route.matcher.captures? path <;> simp

private theorem isSome_matchMethod? :
    (table.matchMethod? method path).isSome =
      ((table.routes.static.get? method).any (fun bucket => bucket.contains path) ||
        (table.routes.dynamic.get? method).any fun bucket =>
          bucket.values.any fun route => route.matcher.accepts path) := by
  have exact_ : (table.routes.static.get? method).any (fun bucket => bucket.contains path) =
      (ByMethod.find? table.routes.static method path).isSome := by
    rw [ByMethod.find?]
    cases table.routes.static.get? method <;> rfl
  rw [matchMethod?, exact_]
  cases ByMethod.find? table.routes.static method path with
  | some handler => rfl
  | none =>
    cases table.routes.dynamic.get? method with
    | none => rfl
    | some bucket => simp [isSome_matchDynamic?]

theorem isFound_of_matchMethod? {outcome : Outcome}
    (found : table.matchMethod? method path = some outcome) : outcome.isFound := by
  rw [matchMethod?] at found
  split at found
  · cases found
    rfl
  · obtain ⟨routes, _, matched⟩ := Option.bind_eq_some_iff.mp found
    obtain ⟨before, route, after, _, captured, _⟩ := List.findSome?_eq_some_iff.mp matched
    obtain ⟨params, _, rfl⟩ := Option.map_eq_some_iff.mp captured
    rfl

theorem mem_staticMethods {other : String} :
    other ∈ table.staticMethods method path ↔ other ≠ method ∧
      (table.routes.static.get? other).any fun bucket => bucket.contains path := by
  rw [staticMethods,
    OrderedMap.keys_filter table.routes.static fun other bucket => other ≠ method && bucket.contains path,
    List.mem_filter, ← OrderedMap.get?_isSome_iff]
  cases table.routes.static.get? other <;> simp

private theorem mem_dynamicMethods {other : String} :
    other ∈ table.dynamicMethods method path ↔ other ≠ method ∧
      (table.routes.dynamic.get? other).any fun bucket =>
        bucket.values.any fun route => route.matcher.accepts path := by
  rw [dynamicMethods,
    OrderedMap.keys_filter table.routes.dynamic fun other bucket =>
      other ≠ method && bucket.values.any fun route => route.matcher.accepts path,
    List.mem_filter, ← OrderedMap.get?_isSome_iff]
  cases table.routes.dynamic.get? other <;> simp

theorem staticMethods_nodup : (table.staticMethods method path).Nodup :=
  table.routes.static.distinct.sublist (List.filter_sublist.map Prod.fst)

theorem dynamicMethods_nodup : (table.dynamicMethods method path).Nodup :=
  table.routes.dynamic.distinct.sublist (List.filter_sublist.map Prod.fst)

theorem mem_allowedMethods {other : String} :
    other ∈ table.allowedMethods method path ↔
      other ≠ method ∧ (table.matchMethod? other path).isSome := by
  simp only [allowedMethods, List.mem_append, List.mem_filter, decide_eq_true_eq,
    mem_staticMethods, mem_dynamicMethods, isSome_matchMethod?, Bool.or_eq_true]
  constructor
  · rintro (⟨apart, static⟩ | ⟨⟨apart, dynamic⟩, _⟩)
    · exact ⟨apart, .inl static⟩
    · exact ⟨apart, .inr dynamic⟩
  · rintro ⟨apart, answers⟩
    by_cases static : (table.routes.static.get? other).any fun bucket => bucket.contains path
    · exact .inl ⟨apart, static⟩
    · exact .inr ⟨⟨apart, answers.resolve_left static⟩, fun first => static first.2⟩

private theorem mem_keys_of_allowed {other : String}
    (member : other ∈ table.allowedMethods method path) :
    other ∈ table.routes.static.keys ∨ other ∈ table.routes.dynamic.keys := by
  have answers := ((table.mem_allowedMethods method path).mp member).2
  rw [isSome_matchMethod?, Bool.or_eq_true] at answers
  rw [← OrderedMap.get?_isSome_iff, ← OrderedMap.get?_isSome_iff]
  apply answers.imp
  · intro static
    cases found : table.routes.static.get? other with
    | none => simp [found] at static
    | some bucket => rfl
  · intro dynamic
    cases found : table.routes.dynamic.get? other with
    | none => simp [found] at dynamic
    | some bucket => rfl

theorem allowedMethods_nodup : (table.allowedMethods method path).Nodup := by
  rw [allowedMethods, List.nodup_append]
  refine ⟨table.staticMethods_nodup method path,
    (table.dynamicMethods_nodup method path).filter _, ?_⟩
  intro first static second dynamic same
  subst same
  simpa [static] using (List.mem_filter.mp dynamic).2

/-- Offering the static methods first and the other dynamic ones after them is offering
all of them, each at its first place. -/
theorem allowedMethods_eq_eraseDups :
    table.allowedMethods method path =
      (table.staticMethods method path ++ table.dynamicMethods method path).eraseDups := by
  have unchanged : ∀ {names : List String}, names.Nodup → names.eraseDups = names := by
    intro names distinct
    induction names with
    | nil => rfl
    | cons name names ih =>
      obtain ⟨absent, rest⟩ := List.nodup_cons.mp distinct
      have kept : (names.filter fun other => !other == name) = names := by
        apply List.filter_eq_self.mpr
        intro other member
        have apart : other ≠ name := fun same => absent (same ▸ member)
        simp [apart]
      rw [List.eraseDups_cons, kept, ih rest]
  rw [List.eraseDups_append, unchanged (table.staticMethods_nodup method path), unchanged]
  · simp [allowedMethods, List.removeAll]
  · exact (table.dynamicMethods_nodup method path).filter _

private theorem isFound_resolve (wantAllowed : Bool) :
    (table.resolve method path wantAllowed).isFound ↔
      (table.matchMethod? method path).isSome ∨
        method = "HEAD" ∧ (table.matchMethod? "GET" path).isSome := by
  have missed : ∀ allowed : List String, ∀ fallback : Option Handler,
      ¬ (if allowed.isEmpty then Outcome.notFound fallback
        else .methodNotAllowed allowed fallback).isFound := by
    intro allowed fallback
    split <;> simp [Outcome.isFound]
  rw [resolve]
  cases own : table.matchMethod? method path with
  | some outcome => simpa using table.isFound_of_matchMethod? method path own
  | none =>
    by_cases head : method = "HEAD"
    · cases get : table.matchMethod? "GET" path with
      | some outcome => simpa [head, get] using table.isFound_of_matchMethod? "GET" path get
      | none =>
        simp only [head, if_true]
        exact iff_of_false (missed _ _) (by simp)
    · simp only [head, if_false]
      exact iff_of_false (missed _ _) (by simp)

private theorem resolve_missed (missed : ¬ (table.resolve method path true).isFound) :
    table.resolve method path true =
      if (table.allowedMethods method path).isEmpty then .notFound (table.fallback? method)
      else .methodNotAllowed (table.allowedMethods method path) (table.fallback? method) := by
  rw [isFound_resolve, not_or, Option.not_isSome_iff_eq_none] at missed
  have asGet : (if method = "HEAD" then table.matchMethod? "GET" path else none) = none := by
    split
    next head => simpa [head] using missed.2
    next => rfl
  simp only [resolve, missed.1, asGet]
  rfl

/-- After a miss of one method, another is answered if and only if it is offered or is
HEAD with GET on offer. -/
theorem isFound_resolve_iff_allowed (missed : ¬ (table.resolve method path true).isFound)
    (other : String) (wantAllowed : Bool) :
    (table.resolve other path wantAllowed).isFound ↔
      other ∈ table.allowedMethods method path ∨
        other = "HEAD" ∧ "GET" ∈ table.allowedMethods method path := by
  rw [isFound_resolve] at missed
  rw [isFound_resolve, mem_allowedMethods, mem_allowedMethods]
  have apart : ∀ name, (table.matchMethod? name path).isSome → name ≠ method := by
    rintro name answers rfl
    exact missed (.inl answers)
  constructor
  · rintro (answers | ⟨head, answers⟩)
    · exact .inl ⟨apart other answers, answers⟩
    · exact .inr ⟨head, apart "GET" answers, answers⟩
  · rintro (⟨_, answers⟩ | ⟨head, _, answers⟩)
    · exact .inl answers
    · exact .inr ⟨head, answers⟩

end Table

namespace Service

/-- In a table that registrations have built, the methods offered after a miss are
distinct, in upper case and without the one requested, and they are those under which
the path is found, HEAD being found as GET. If none is offered, none finds it. -/
theorem allowed_iff_found (aliases : AliasTable) (cache : Option Cache) (host : Host)
    {log : Log} {final : Service} (run : Registers ⟨{ aliases, cache }, host⟩ log final)
    (method path : String) :
    (∀ allowed fallback,
      final.finish.1.dispatch method path true = .methodNotAllowed allowed fallback →
      allowed.Nodup ∧ method.toUpper ∉ allowed ∧ (∀ name ∈ allowed, name.toUpper = name) ∧
      ∀ other wantAllowed, (final.finish.1.dispatch other path wantAllowed).isFound ↔
        other.toUpper ∈ allowed ∨ other.toUpper = "HEAD" ∧ "GET" ∈ allowed) ∧
    (∀ fallback, final.finish.1.dispatch method path true = .notFound fallback →
      ∀ other wantAllowed, ¬ (final.finish.1.dispatch other path wantAllowed).isFound) := by
  have upper : ∀ name : String, _ → name.toUpper = name := fun _ =>
    ((Collected.initial aliases cache host).registers run).upper_methods
  generalize final.finish.1 = table at *
  constructor
  · intro allowed fallback answer
    have missed : ¬ (table.resolve method.toUpper path true).isFound := by
      rw [show table.resolve method.toUpper path true = _ from answer]
      simp [Outcome.isFound]
    have listed := (table.resolve_missed _ _ missed).symm.trans answer
    split at listed
    · cases listed
    · cases listed
      refine ⟨table.allowedMethods_nodup _ _, ?_, ?_, ?_⟩
      · intro member
        exact ((table.mem_allowedMethods _ _).mp member).1 rfl
      · intro name member
        exact upper name (table.mem_keys_of_allowed _ _ member)
      · intro other wantAllowed
        exact table.isFound_resolve_iff_allowed _ _ missed other.toUpper wantAllowed
  · intro fallback answer other wantAllowed found
    have missed : ¬ (table.resolve method.toUpper path true).isFound := by
      rw [show table.resolve method.toUpper path true = _ from answer]
      simp [Outcome.isFound]
    have listed := (table.resolve_missed _ _ missed).symm.trans answer
    split at listed
    next empty =>
      rw [List.isEmpty_iff] at empty
      rcases (table.isFound_resolve_iff_allowed _ _ missed _ _).mp found with member | ⟨_, member⟩
      · simp [empty] at member
      · simp [empty] at member
    next => cases listed

/-- With a dynamic route for GET and a static one for POST, a request with PUT is offered
both, and HEAD is found with them. -/
theorem allowed_iff_found_two :
    let fresh : Service := ⟨{}, {}⟩
    let final := ((fresh.addRoute ["get"] "/a/{x}" "first").2.addRoute ["post"] "/a/1" "second").2
    final.finish.1.dispatch "put" "/a/1" true = .methodNotAllowed ["POST", "GET"] none ∧
      ∀ other wantAllowed, (final.finish.1.dispatch other "/a/1" wantAllowed).isFound ↔
        other.toUpper ∈ ["POST", "GET"] ∨ other.toUpper = "HEAD" ∧ "GET" ∈ ["POST", "GET"] := by
  intro fresh final
  have run : Registers fresh _ final := .addRoute _ _ _ (.addRoute _ _ _ (.done _))
  have answer : final.finish.1.dispatch "put" "/a/1" true =
      .methodNotAllowed ["POST", "GET"] none := by
    decide +kernel
  exact ⟨answer, ((allowed_iff_found _ _ _ run "put" "/a/1").1 _ _ answer).2.2.2⟩

end Service

end PathRouting
