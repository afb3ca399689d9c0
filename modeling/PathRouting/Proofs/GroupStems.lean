import PathRouting.Proofs.StemmedOperations

/-! Groups are nothing but stems in front of templates. A program with groups in it, nested
to any depth, is carried out like the program without them in which every template has
the stems of its groups in front: with the same answers, and up to the same tables. A
group that ends early leaves out the rest of its body and undoes nothing. -/

namespace PathRouting

/-! ### Programs with groups -/

mutual

/-- The operations of a use without its groups: the stems of the groups stand in front of
the templates. -/
def Use.flatten (stem : String) : Use → List Operation
  | .once operation => [operation.under stem]
  | .group inner body => flattenAll (stem ++ inner) body

def Use.flattenAll (stem : String) : List Use → List Operation
  | [] => []
  | use :: rest => use.flatten stem ++ flattenAll stem rest

end

def Step.result (step : Step) : Answer × List StoredTable × Phase :=
  (step.answer, step.saved, step.after.router.phase)

def Step.error? (step : Step) : Option RouteError := step.answer.error?

/-- How a use went: the steps that were taken, the error that it ended with, and the service
after it. -/
structure Course where
  steps : List Step
  failure : Option RouteError
  after : Service

def Course.andThen (course : Course) (next : Service → Course) : Course :=
  match course.failure with
  | some _ => course
  | none => { next course.after with steps := course.steps ++ (next course.after).steps }

theorem Course.andThen_assoc (course : Course) (next last : Service → Course) :
    (course.andThen next).andThen last =
      course.andThen fun after => (next after).andThen last := by
  cases failed : course.failure with
  | some _ => simp only [Course.andThen, failed]
  | none =>
    cases later : (next course.after).failure with
    | some _ => simp only [Course.andThen, failed, later]
    | none => simp only [Course.andThen, failed, later, List.append_assoc]

namespace Service

section

variable (keep : Store → Keeper)

mutual

/-- Carries out a use. The body of a group ends with its first use that fails, and passes the
error on. -/
def run (service : Service) : Use → Course
  | .once operation =>
    let (answer, saved, after) := service.operate keep operation
    ⟨[⟨service, operation, answer, saved, after⟩], answer.error?, after⟩
  | .group stem body =>
    let ((steps, failure), after) := service.group stem fun inner =>
      let course := inner.runBody body
      ((course.steps, course.failure), course.after)
    ⟨steps, failure, after⟩

def runBody (service : Service) : List Use → Course
  | [] => ⟨[], none, service⟩
  | use :: rest => (service.run use).andThen fun after => after.runBody rest

end

def runAll (service : Service) : List Use → List Step × Service
  | [] => ([], service)
  | use :: rest =>
    let course := service.run keep use
    let (later, final) := course.after.runAll rest
    (course.steps ++ later, final)

/-- The program without groups: the operations of one use after another, each up to the
first that is refused. -/
def flatProgram (service : Service) : List Use → List Operation
  | [] => []
  | use :: rest =>
    let course := service.runBody keep ((use.flatten "").map .once)
    course.steps.map Step.operation ++ course.after.flatProgram rest

end

private theorem run_group (keep : Store → Keeper) (service : Service) (stem : String) (body : List Use) :
    let course := (service.inGroup stem).runBody keep body
    service.run keep (.group stem body) = { course with after := { course.after with
      router := course.after.router.cutStem service.router.stem.length } } := rfl

private theorem runBody_once (keep : Store → Keeper) (service : Service) (operation : Operation) :
    service.runBody keep [.once operation] = service.run keep (.once operation) := by
  rw [runBody, Course.andThen]
  split
  · rfl
  next succeeded => simp only [runBody, List.append_nil, ← succeeded]

theorem runBody_append (keep : Store → Keeper) (service : Service) (uses later : List Use) :
    service.runBody keep (uses ++ later) =
      (service.runBody keep uses).andThen fun after => after.runBody keep later := by
  induction uses generalizing service with
  | nil => rfl
  | cons use uses ih => rw [List.cons_append, runBody, runBody, Course.andThen_assoc, funext ih]

/-! ### Stems and errors of groups -/

private theorem cutStem_append {router : Router} {outer inner : String}
    (entered : router.stem = outer ++ inner) : (router.cutStem outer.length).stem = outer := by
  simp only [Router.cutStem, entered, String.toList_append, ← String.length_toList,
    List.take_left', String.ofList_toList]

private theorem operate_stem (keep : Store → Keeper) (service : Service) (operation : Operation) :
    (service.operate keep operation).2.2.router.stem = service.router.stem := by
  cases phase : service.router.phase with
  | finished table =>
    obtain ⟨after, same, router, _⟩ := operate_finished keep phase operation
    rw [same, router]
    cases operation <;> rfl
  | collecting routes fallbacks =>
    cases operation with
    | register methods template handler =>
      obtain ⟨_, _, same⟩ | ⟨_, _, _, same⟩ | ⟨_, _, _, same⟩ :=
        addRoute_cases phase methods template handler
      all_goals simp only [operate, same]
    | registerFallback method handler =>
      obtain ⟨host, same⟩ := addFallback_collecting phase method handler
      simp only [operate, same]
    | loadCache =>
      simp only [operate, loadCacheBy]
      split
      · rfl
      cases service.router.activeCache? with
      | none => rfl
      | some cache =>
        simp only []
        obtain ⟨_, _, _, _, _, _, same⟩ | ⟨_, _, same⟩ :=
          received_cases service cache.expiry ((keep cache.store).load service.host).2
            ((keep cache.store).load service.host).1
        all_goals rw [same]
    | setCacheEnabled enabled => rfl
    | finish =>
      obtain ⟨host, same⟩ := finishBy_collecting keep phase
      simp only [operate, same]
    | dispatch method path wantAllowed =>
      obtain ⟨host, same⟩ := finishBy_collecting keep phase
      simp only [operate, same, dispatch, finish]
    | elsewhere change => rfl

mutual

/-- The stem after a use is the one before it, whether or not the use has failed. -/
theorem run_stem (keep : Store → Keeper) (service : Service) : ∀ use : Use,
    (service.run keep use).after.router.stem = service.router.stem
  | .once operation => operate_stem keep service operation
  | .group stem body => cutStem_append (runBody_stem keep (service.inGroup stem) body)

private theorem runBody_stem (keep : Store → Keeper) (service : Service) : ∀ uses : List Use,
    (service.runBody keep uses).after.router.stem = service.router.stem
  | [] => rfl
  | use :: rest => by
    rw [runBody, Course.andThen]
    split
    · exact run_stem keep service use
    · exact (runBody_stem keep _ rest).trans (run_stem keep service use)

end

mutual

/-- A use fails with the error of its first step that is refused. -/
theorem run_failure (keep : Store → Keeper) (service : Service) : ∀ use : Use,
    (service.run keep use).failure = (service.run keep use).steps.findSome? Step.error?
  | .once operation => by
    simp only [run, List.findSome?_cons, List.findSome?_nil, Step.error?]
    split
    next succeeded => rw [succeeded]
    next failed => rw [failed]
  | .group stem body => runBody_failure keep (service.inGroup stem) body

private theorem runBody_failure (keep : Store → Keeper) (service : Service) : ∀ uses : List Use,
    (service.runBody keep uses).failure = (service.runBody keep uses).steps.findSome? Step.error?
  | [] => rfl
  | use :: rest => by
    have first := run_failure keep service use
    rw [runBody, Course.andThen]
    split
    · exact first
    next succeeded =>
      rw [succeeded] at first
      simp only [List.findSome?_append, ← first, Option.none_or]
      exact runBody_failure keep _ rest

end

end Service

/-! ### Programs without groups -/

/-- The first course is that of a program within groups, the second that of the program
with the stems of the groups in front. -/
structure Course.Within (stem : String) (one two : Course) : Prop where
  results : one.steps.map Step.result = two.steps.map Step.result
  failure : one.failure = two.failure
  after : Service.Within stem one.after two.after

theorem Course.Within.andThen {stem : String} {one two : Course} (within : one.Within stem two)
    {next other : Service → Course}
    (further : (next one.after).Within stem (other two.after)) :
    (one.andThen next).Within stem (two.andThen other) := by
  rw [Course.andThen, Course.andThen, within.failure]
  cases two.failure with
  | some _ => exact within
  | none => exact ⟨by simp only [List.map_append, within.results, further.results],
      further.failure, further.after⟩

@[simp] theorem Operation.ignoresJournal_under (stem : String) (operation : Operation) :
    (operation.under stem).IgnoresJournal ↔ operation.IgnoresJournal := by
  cases operation <;> rfl

namespace Service

variable {keep : Store → Keeper} {one two : Service} {stem : String}

theorem Within.inGroup (within : Within stem one two) (inner : String) :
    Within (stem ++ inner) (one.inGroup inner) two :=
  ⟨by simp only [Service.inGroup, within.router, String.append_assoc], within.world⟩

theorem Within.cutStem {inner : String} (within : Within (stem ++ inner) one two) :
    Within stem
      { one with router := one.router.cutStem (two.router.stem ++ stem).length } two := by
  have entered : one.router.stem = two.router.stem ++ stem ++ inner := by
    rw [within.router, String.append_assoc]
  have cut := cutStem_append entered
  have others : one.router.cutStem (two.router.stem ++ stem).length = { two.router with
      stem := (one.router.cutStem (two.router.stem ++ stem).length).stem } := by
    simp only [Router.cutStem, within.router]
  exact ⟨others.trans (by rw [cut]), within.world⟩

mutual

/-- A use within groups goes like its operations outside of them under their stems. -/
theorem Within.run (ignores : ∀ store, (keep store).IgnoresJournal) {one two : Service}
    {stem : String} (within : Within stem one two) : ∀ use : Use,
    (∀ operation ∈ use.flatten stem, operation.IgnoresJournal) →
    (one.run keep use).Within stem (two.runBody keep ((use.flatten stem).map .once))
  | .once operation, blind => by
    obtain ⟨answer, saved, after⟩ := within.operate ignores
      ((Operation.ignoresJournal_under stem operation).mp (blind _ List.mem_cons_self))
    rw [Use.flatten, List.map_singleton, runBody_once]
    refine ⟨?_, congrArg Answer.error? answer, after⟩
    simp only [Service.run, List.map_cons, List.map_nil, Step.result, answer, saved, after.router]
  | .group inner body, blind => by
    obtain ⟨results, failure, after⟩ := runBody_within ignores (within.inGroup inner) body blind
    rw [run_group, Use.flatten]
    refine ⟨results, failure, ?_⟩
    have left := after.cutStem
    rw [runBody_stem, ← show one.router.stem = two.router.stem ++ stem by rw [within.router]] at left
    exact left

theorem runBody_within (ignores : ∀ store, (keep store).IgnoresJournal) {one two : Service}
    {stem : String} (within : Within stem one two) : ∀ uses : List Use,
    (∀ operation ∈ Use.flattenAll stem uses, operation.IgnoresJournal) →
    (one.runBody keep uses).Within stem
      (two.runBody keep ((Use.flattenAll stem uses).map .once))
  | [], _ => ⟨rfl, rfl, within⟩
  | use :: rest, blind => by
    rw [Use.flattenAll] at blind
    obtain ⟨here, later⟩ := List.forall_mem_append.mp blind
    have first := within.run ignores use here
    rw [Use.flattenAll, List.map_append, runBody_append, runBody]
    exact first.andThen (runBody_within ignores first.after rest later)

end

private theorem traceAll_append (keep : Store → Keeper) (service : Service) (uses later : List Use) :
    service.traceAll keep (uses ++ later) =
      ((service.traceAll keep uses).1 ++ ((service.traceAll keep uses).2.traceAll keep later).1,
        ((service.traceAll keep uses).2.traceAll keep later).2) := by
  induction uses generalizing service with
  | nil => rfl
  | cons use uses ih => simp only [List.cons_append, traceAll, ih, List.append_assoc]

private theorem traceAll_steps (keep : Store → Keeper) (service : Service)
    (operations : List Operation) :
    let course := service.runBody keep (operations.map .once)
    service.traceAll keep ((course.steps.map Step.operation).map .once) =
      (course.steps, course.after) := by
  induction operations generalizing service with
  | nil => rfl
  | cons operation rest ih =>
    have first : service.traceAll keep [.once operation] = ((service.run keep (.once operation)).steps,
        (service.run keep (.once operation)).after) := rfl
    rw [List.map_cons, runBody, Course.andThen]
    split
    · exact first
    · simp only [List.map_append, traceAll_append]
      rw [show (service.run keep (.once operation)).steps.map Step.operation = [operation] from rfl,
        List.map_singleton, first, ih]

private theorem operations_runBody (keep : Store → Keeper) (service : Service)
    (operations : List Operation) :
    let course := service.runBody keep (operations.map .once)
    course.steps.map Step.operation <+: operations ∧
      (course.failure = none → course.steps.map Step.operation = operations) := by
  induction operations generalizing service with
  | nil => exact ⟨List.prefix_rfl, fun _ => rfl⟩
  | cons operation rest ih =>
    have first : (service.run keep (.once operation)).steps.map Step.operation = [operation] := rfl
    simp only [List.map_cons, runBody, Course.andThen]
    cases failed : (service.run keep (.once operation)).failure with
    | some error =>
      simp only [first, failed]
      exact ⟨⟨rest, rfl⟩, fun none => nomatch none⟩
    | none =>
      obtain ⟨start, all⟩ := ih (service.run keep (.once operation)).after
      simp only [List.map_append, first]
      exact ⟨List.cons_prefix_cons.mpr ⟨rfl, start⟩, fun none => by rw [all none]; rfl⟩

theorem Within.runAll (ignores : ∀ store, (keep store).IgnoresJournal) (uses : List Use) :
    ∀ {one two : Service}, Within "" one two →
    (∀ operation ∈ Use.flattenAll "" uses, operation.IgnoresJournal) →
    (one.runAll keep uses).1.map Step.result =
        (two.traceAll keep ((two.flatProgram keep uses).map .once)).1.map Step.result ∧
      Within "" (one.runAll keep uses).2
        (two.traceAll keep ((two.flatProgram keep uses).map .once)).2 := by
  induction uses with
  | nil => exact fun within _ => ⟨rfl, within⟩
  | cons use rest ih =>
    intro one two within blind
    rw [Use.flattenAll] at blind
    obtain ⟨here, later⟩ := List.forall_mem_append.mp blind
    obtain ⟨results, _, after⟩ := within.run ignores use here
    obtain ⟨others, final⟩ := ih after later
    simp only [Service.runAll, flatProgram, List.map_append, traceAll_append, traceAll_steps,
      results, others]
    exact ⟨trivial, final⟩

end Service

/-! ### Scripts -/

theorem Store.ignoresJournal_keeper (store : Store) : store.keeper.IgnoresJournal where
  load same := by
    have content := store.content_of_world same
    cases store with
    | memory => exact ⟨content, same⟩
    | file path =>
      simp only [Store.keeper, Store.load, content]
      split
      · exact ⟨rfl, same⟩
      · exact ⟨rfl, same⟩
  save stored one two same := by
    obtain ⟨clock, kept⟩ := Prod.mk.inj same
    obtain ⟨cells, files⟩ := Prod.mk.inj kept
    cases store with
    | memory => exact ⟨rfl, by simp only [Store.keeper, Store.save, Host.world, clock, files]⟩
    | file path =>
      simp only [Store.keeper, Store.save, files]
      split
      · exact ⟨rfl, same⟩
      · refine ⟨rfl, ?_⟩
        rw [Host.world_log, Host.world_log, Host.world, Host.world, clock, cells]

mutual

def Use.command? : Use → Option Command
  | .once operation => operation.command?
  | .group stem body => (commands? body).map (.group stem)

def Use.commands? : List Use → Option (List Command)
  | [] => some []
  | use :: rest => do return (← use.command?) :: (← commands? rest)

end

mutual

def Answer.leaves : Answer → List Answer
  | .group _ answers _ => leavesAll answers
  | answer => [answer]

def Answer.leavesAll : List Answer → List Answer
  | [] => []
  | answer :: rest => answer.leaves ++ leavesAll rest

end

theorem Answer.leaves_ofRegistration (result : Except RouteError Unit) :
    (Answer.ofRegistration result).leaves = [.ofRegistration result] := by
  cases result <;> simp only [ofRegistration, leaves]

theorem Answer.leaves_ofLoading (result : Except RouteError Bool) :
    (Answer.ofLoading result).leaves = [.ofLoading result] := by
  cases result <;> simp only [ofLoading, leaves]

namespace Service

private theorem leaves_operate (keep : Store → Keeper) (service : Service) (operation : Operation) :
    (service.operate keep operation).1.leaves = [(service.operate keep operation).1] := by
  cases operation with
  | register methods template handler => exact Answer.leaves_ofRegistration _
  | registerFallback method handler => exact Answer.leaves_ofRegistration _
  | loadCache => exact Answer.leaves_ofLoading _
  | _ => simp only [operate, Answer.leaves]

mutual

private theorem perform_run (service : Service) : ∀ (use : Use) {command : Command},
    use.command? = some command →
    let course := service.run Store.keeper use
    (service.perform command).1.leaves = course.steps.map Step.answer ∧
      (service.perform command).1.error? = course.failure ∧
      (service.perform command).2 = course.after
  | .once operation, command, named => by
    rw [Use.command?] at named
    rw [operate_keeper named]
    exact ⟨leaves_operate Store.keeper service operation, rfl, rfl⟩
  | .group stem body, command, named => by
    rw [Use.command?] at named
    obtain ⟨commands, those, rfl⟩ := Option.map_eq_some_iff.mp named
    obtain ⟨leaves, failure, after⟩ := performUntilError_runBody (service.inGroup stem) body those
    refine ⟨?_, failure, ?_⟩
    · rw [perform, Answer.leaves]
      exact leaves
    · rw [run_group, ← after]
      rfl

theorem performUntilError_runBody (service : Service) : ∀ (uses : List Use) {commands : List Command},
    Use.commands? uses = some commands →
    let course := service.runBody Store.keeper uses
    Answer.leavesAll (service.performUntilError commands).1.1 = course.steps.map Step.answer ∧
      (service.performUntilError commands).1.2 = course.failure ∧
      (service.performUntilError commands).2 = course.after
  | [], commands, those => by
    cases those
    exact ⟨rfl, rfl, rfl⟩
  | use :: rest, commands, those => by
    simp only [Use.commands?, Option.bind_eq_bind, Option.bind_eq_some_iff, Option.pure_def,
      Option.some.injEq] at those
    obtain ⟨command, named, others, those, rfl⟩ := those
    obtain ⟨leaves, failure, after⟩ := perform_run service use named
    simp only [performUntilError, runBody, Course.andThen, failure]
    cases failed : (service.run Store.keeper use).failure with
    | some error =>
      exact ⟨by rw [Answer.leavesAll, Answer.leavesAll, List.append_nil, leaves], failed.symm, after⟩
    | none =>
      obtain ⟨further, failure, final⟩ :=
        performUntilError_runBody (service.run Store.keeper use).after rest those
      simp only [after]
      exact ⟨by rw [Answer.leavesAll, leaves, further, List.map_append], failure, final⟩

end

private theorem performAll_runAll (service : Service) : ∀ (uses : List Use) {commands : List Command},
    Use.commands? uses = some commands →
    Answer.leavesAll (service.performAll commands).1 =
        (service.runAll Store.keeper uses).1.map Step.answer ∧
      (service.performAll commands).2 = (service.runAll Store.keeper uses).2
  | [], commands, those => by
    cases those
    exact ⟨rfl, rfl⟩
  | use :: rest, commands, those => by
    simp only [Use.commands?, Option.bind_eq_bind, Option.bind_eq_some_iff, Option.pure_def,
      Option.some.injEq] at those
    obtain ⟨command, named, others, those, rfl⟩ := those
    obtain ⟨leaves, _, after⟩ := perform_run service use named
    obtain ⟨further, final⟩ := performAll_runAll (service.run Store.keeper use).after rest those
    simp only [performAll, runAll, after]
    exact ⟨by rw [Answer.leavesAll, leaves, further, List.map_append], final⟩

/-- Groups are nothing but stems in front of templates. For every router, every program and
all stores that take no notice of what is reported: the program goes like the one without
groups, in which the stems of its groups stand in front of each template and from each use
the operations after the first refused one are left out. All answers are the same, and so
are the routes and fallbacks after each step, what is handed to the store, and the world at
the end. A group leaves the stem as it was, and ends with the error of its first refused
step. With the stores at hand, the program is the script of its commands. -/
theorem groups_are_stems (keep : Store → Keeper) (ignores : ∀ store, (keep store).IgnoresJournal)
    (service : Service) (uses : List Use)
    (blind : ∀ operation ∈ Use.flattenAll "" uses, operation.IgnoresJournal) :
    let course := service.runAll keep uses
    let flat := service.traceAll keep ((service.flatProgram keep uses).map .once)
    course.1.map Step.result = flat.1.map Step.result ∧
    course.2.router = flat.2.router ∧
    course.2.host.world = flat.2.host.world ∧
    (∀ (inside : Service) (stem : String) (body : List Use),
      let inner := inside.run keep (.group stem body)
      inner.after.router.stem = inside.router.stem ∧
        inner.failure = inner.steps.findSome? Step.error?) ∧
    (∀ (inside : Service) (operations : List Operation),
      let taken := inside.runBody keep (operations.map .once)
      taken.steps.map Step.operation <+: operations ∧
        (taken.failure = none → taken.steps.map Step.operation = operations)) ∧
    (keep = Store.keeper → ∀ commands, Use.commands? uses = some commands →
      Answer.leavesAll (service.performAll commands).1 = course.1.map Step.answer ∧
        (service.performAll commands).2 = course.2) := by
  intro course flat
  have itself : Within "" service service := ⟨by rw [String.append_empty], rfl⟩
  obtain ⟨results, final⟩ := itself.runAll ignores uses blind
  refine ⟨results, ?_, final.world, fun inside stem body => ⟨?_, ?_⟩, ?_, ?_⟩
  · rw [final.router, String.append_empty]
  · exact run_stem keep inside (.group stem body)
  · exact run_failure keep inside (.group stem body)
  · exact operations_runBody keep
  · rintro rfl commands those
    exact performAll_runAll service uses those

/-- A stem that ends within a placeholder, and a group in it that fails: what has been
registered before stays, and the rest of both groups is left out. -/
theorem groups_are_stems_nested :
    let service : Service := ⟨{ cache := some { store := .memory, expiry := 60 } }, {}⟩
    let body : List Use := [.once (.register ["get"] ":x\x7d/b" "first"),
      .group "\x7d/c" [.once (.register ["get"] "/\x7by\x7d]" "lost"), .once (.register ["get"] "" "left")],
      .once (.register ["get"] "\x7d" "left")]
    let uses : List Use := [.group "/\x7ba" body, .once (.register ["put"] "/d[/e]" "second"),
      .once (.dispatch "get" "/x/b" false)]
    let flat := service.flatProgram Store.keeper uses
    let template? : Operation → Option String := fun operation =>
      match operation with
      | .register _ template _ => some template
      | _ => none
    (∀ operation ∈ Use.flattenAll "" uses, operation.IgnoresJournal) ∧
    flat.map template? = [some "/\x7ba:x\x7d/b", some "/\x7ba\x7d/c/\x7by\x7d]", some "/d[/e]", none] ∧
    (service.runAll Store.keeper uses).1.map Step.result =
      (service.traceAll Store.keeper (flat.map .once)).1.map Step.result ∧
    (service.runAll Store.keeper uses).2.router.stem = "" ∧
    ((service.runAll Store.keeper uses).2.dispatch "put" "/d/e" false).1 =
      .found "second" OrderedMap.empty := by
  intro service body uses flat template?
  have blind : ∀ operation ∈ Use.flattenAll "" uses, operation.IgnoresJournal := by
    simp only [uses, body, Use.flattenAll, Use.flatten, List.append_nil, List.cons_append,
      List.nil_append, List.forall_mem_cons, Operation.ignoresJournal_under]
    simp [Operation.IgnoresJournal]
  have same := groups_are_stems Store.keeper Store.ignoresJournal_keeper service uses blind
  exact ⟨blind, by decide +kernel, same.1, by decide +kernel, by decide +kernel⟩

end Service

end PathRouting
