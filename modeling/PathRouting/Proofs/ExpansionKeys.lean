import PathRouting.Proofs.OptionalExpansions
import PathRouting.Proofs.RegistrationFrame
import PathRouting.Proofs.RouteTokens

/-! The keys of the routes of one template. A longer route may be cut into other tokens than
the shorter one begins with, but only where the longer one opens a group in its expression
and the shorter one has a quoted brace. So no two routes of a template are stored under
the same key, and none of them writes over another. -/

namespace PathRouting

namespace Regex

private theorem escapeChars_cons (c : Char) (text : List Char) :
    escapeChars (c :: text) = (if isMeta c then ['\\', c] else [c]) ++ escapeChars text :=
  List.flatMap_cons

private theorem escapeChars_append (text more : List Char) :
    escapeChars (text ++ more) = escapeChars text ++ escapeChars more :=
  List.flatMap_append

private theorem escapeChars_cons_inj {c d : Char} {text other rest later : List Char}
    (same : escapeChars (c :: text) ++ rest = escapeChars (d :: other) ++ later) :
    c = d ∧ escapeChars text ++ rest = escapeChars other ++ later := by
  have plain : ∀ {e : Char}, isMeta e = false → e ≠ '\\' := by
    rintro e unquoted rfl
    exact absurd unquoted (by decide)
  rw [escapeChars_cons, escapeChars_cons] at same
  cases first : isMeta c <;> cases second : isMeta d <;>
    simp only [first, second, if_true, Bool.false_eq_true, if_false, List.cons_append,
      List.nil_append, List.cons.injEq, true_and] at same
  · exact same
  · exact absurd same.1 (plain first)
  · exact absurd same.1.symm (plain second)
  · exact same

private theorem escapeChars_append_eq {text other rest later : List Char}
    (same : escapeChars text ++ rest = escapeChars other ++ later) :
    (∃ more, other = text ++ more) ∨
      ∃ c more, text = other ++ c :: more ∧ escapeChars (c :: more) ++ rest = later := by
  induction text generalizing other with
  | nil => exact .inl ⟨other, rfl⟩
  | cons c text ih =>
    cases other with
    | nil => exact .inr ⟨c, text, rfl, same⟩
    | cons d other =>
      obtain ⟨rfl, further⟩ := escapeChars_cons_inj same
      rcases ih further with ⟨more, rfl⟩ | ⟨e, more, rfl, behind⟩
      · exact .inl ⟨more, rfl⟩
      · exact .inr ⟨e, more, rfl, behind⟩

private theorem escapeChars_ne_group (c : Char) (text rest later : List Char) :
    escapeChars (c :: text) ++ rest ≠ '(' :: later := by
  rw [escapeChars_cons]
  cases quoted : isMeta c with
  | true => simp
  | false =>
    have plain : c ≠ '(' := by
      rintro rfl
      exact absurd quoted (by decide)
    simp [plain]

end Regex

namespace Template

open Regex

variable (aliases : AliasTable)

def Piece.form (piece : Piece) : List Char := (Matcher.tokenSource (piece.token aliases)).toList

private theorem form_text (chars : List Char) : (Piece.text chars).form aliases = escapeChars chars := by
  simp [Piece.form, Piece.token, Matcher.tokenSource, escape]

private theorem form_slot (written : List Char) (found : Placeholder) :
    ∃ inner, (Piece.slot written found).form aliases = '(' :: inner := by
  simp [Piece.form, Piece.token, Matcher.tokenSource]

def sourceText (found : List Piece) : List Char := found.flatMap (Piece.form aliases)

private theorem sourceText_cons (piece : Piece) (found : List Piece) :
    sourceText aliases (piece :: found) = piece.form aliases ++ sourceText aliases found :=
  List.flatMap_cons

private theorem sourceText_injOn_sourceOf {first second : List Piece}
    (same : Matcher.sourceOf (first.map (Piece.token aliases)) =
      Matcher.sourceOf (second.map (Piece.token aliases))) :
    sourceText aliases first = sourceText aliases second := by
  have written : ∀ found : List Piece,
      (Matcher.sourceOf (found.map (Piece.token aliases))).toList =
        '^' :: (sourceText aliases found ++ ['$']) := by
    intro found
    simp only [Matcher.sourceOf, sourceText, String.toList_append, String.toList_join, List.flatMap_map]
    rfl
  have texts := congrArg String.toList same
  rw [written, written] at texts
  exact List.append_cancel_right (List.cons.inj texts).2

variable {aliases}

theorem Lengthens.sourceText {first second : List Piece} (lengthens : Lengthens first second)
    (filled : .text [] ∉ second) :
    ∃ added, added ≠ [] ∧ sourceText aliases second = sourceText aliases first ++ added := by
  refine lengthens.written (fun chars more => ?_) (fun piece filled => ?_) filled
  · rw [form_text, form_text, form_text, escapeChars_append]
  · cases piece with
    | slot written found =>
      obtain ⟨inner, form⟩ := form_slot aliases written found
      simp [form]
    | text chars =>
      obtain ⟨c, more, rfl⟩ := List.exists_cons_of_ne_nil fun empty => filled (congrArg Piece.text empty)
      rw [form_text, escapeChars_cons]
      split <;> simp

private theorem sourceText_ne_quoted {found : List Piece}
    (noText : ∀ piece ∈ found.head?, piece.isText = false) (c : Char) (more rest : List Char) :
    escapeChars (c :: more) ++ rest ≠ sourceText aliases found := by
  cases found with
  | nil =>
    rw [escapeChars_cons, sourceText, List.flatMap_nil]
    split <;> simp
  | cons piece later =>
    cases piece with
    | text chars => cases noText _ rfl
    | slot written placeholder =>
      obtain ⟨inner, form⟩ := form_slot aliases written placeholder
      rw [sourceText_cons, form]
      exact escapeChars_ne_group c more rest _

/-- Rows that part at a text have different expressions. -/
theorem Breaks.sourceText_ne {first second : List Piece} (breaks : Breaks first second)
    (filled : .text [] ∉ first) (alternates : Alternates second) :
    sourceText aliases first ≠ sourceText aliases second := by
  induction breaks with
  | cons piece _ ih =>
    rw [sourceText_cons, sourceText_cons]
    exact fun same => ih (fun member => filled (List.mem_cons_of_mem _ member))
      (List.isChain_cons.mp alternates).2 (List.append_cancel_left same)
  | @text chars second rest other =>
    obtain ⟨c, more, rfl⟩ := List.exists_cons_of_ne_nil (l := chars)
      fun empty => filled (empty ▸ List.mem_cons_self)
    rw [sourceText_cons, form_text]
    intro same
    cases second with
    | nil => exact sourceText_ne_quoted (by simp) c more _ same
    | cons piece later =>
      cases piece with
      | slot written found =>
        exact sourceText_ne_quoted (by simp [Piece.isText]) c more _ same
      | text chars =>
        obtain ⟨apart, _⟩ := List.isChain_cons.mp alternates
        rw [sourceText_cons, form_text] at same
        obtain ⟨further, rfl⟩ | ⟨d, further, _, behind⟩ := escapeChars_append_eq same
        · exact other further later rfl
        · refine sourceText_ne_quoted (fun next first => ?_) d further _ behind
          exact Bool.eq_false_iff.mpr fun text => apart next first ⟨rfl, text⟩

/-- More text behind a route changes its expression. -/
theorem sourceText_append_ne (route : List Char) {more : List Char} (some : more ≠ []) :
    sourceText aliases (pieces route) ≠ sourceText aliases (pieces (route ++ more)) := by
  have filled : ∀ text : List Char, .text [] ∉ pieces text := fun _ member =>
    text_pieces_ne_nil member rfl
  obtain ⟨_, breaks⟩ | ⟨_, lengthens⟩ := pieces_append route some
  · exact breaks.sourceText_ne (filled route) (alternates_pieces _)
  · obtain ⟨added, present, longer⟩ : ∃ added, added ≠ [] ∧
        sourceText aliases (pieces (route ++ more)) = sourceText aliases (pieces route) ++ added :=
      lengthens.sourceText (filled _)
    rw [longer]
    exact fun same => present (List.self_eq_append_right.mp same)

theorem toList_of_tokens {route : List Char} {path : String}
    (single : tokens aliases route = [.literal path]) : path.toList = route := by
  rw [tokens] at single
  split at single
  next empty =>
    cases single
    have whole := chars_pieces route
    rw [empty] at whole
    exact whole
  next =>
    obtain ⟨piece, alone, same⟩ := List.map_eq_singleton_iff.mp single
    cases piece with
    | slot written found => cases same
    | text chars =>
      have whole := chars_pieces route
      rw [alone, List.flatMap_singleton, Piece.chars] at whole
      obtain rfl := Token.literal.inj same
      rw [String.toList_ofList, whole]

end Template

theorem Matcher.source_ofTokens {tokens : List Token} {matcher : Matcher}
    (made : Matcher.ofTokens tokens = .ok matcher) : matcher.source = sourceOf tokens := by
  simp only [ofTokens] at made
  split at made
  · cases made
  · obtain ⟨again, read, rfl⟩ := exists_of_map_ok made
    have source : again.source = sourceOf tokens := source_ofSource read
    exact source

namespace Route

/-- What a route is stored under, among the routes of both kinds. -/
def slot (route : Route) : RouteKind × String := (route.kind, route.key)

theorem compile_cases {tokens : List Token} {route : Route} (compiled : compile tokens = .ok route) :
    (∃ path, tokens = [.literal path] ∧ route.slot = (.static, path)) ∨
      ((∀ path, tokens ≠ [.literal path]) ∧ route.slot = (.dynamic, Matcher.sourceOf tokens)) := by
  simp only [compile] at compiled
  split at compiled
  next path =>
    cases compiled
    exact .inl ⟨path, rfl, rfl⟩
  next other =>
    obtain ⟨matcher, made, rfl⟩ := exists_of_map_ok compiled
    exact .inr ⟨other, congrArg _ (Matcher.source_ofTokens made)⟩

/-- A route and a longer one are stored under different keys. -/
theorem slot_ne_of_longer {aliases : AliasTable} {route more : List Char} (some : more ≠ [])
    {shorter longer : Route} (first : compile (Template.tokens aliases route) = .ok shorter)
    (second : compile (Template.tokens aliases (route ++ more)) = .ok longer) :
    shorter.slot ≠ longer.slot := by
  obtain ⟨path, single, there⟩ | ⟨several, there⟩ := compile_cases first <;>
    obtain ⟨other, alone, place⟩ | ⟨others, place⟩ := compile_cases second <;>
    rw [there, place]
  · intro same
    have whole := Template.toList_of_tokens single
    rw [(Prod.mk.inj same).2, Template.toList_of_tokens alone] at whole
    exact some (List.append_right_eq_self.mp whole)
  · simp
  · simp
  · intro same
    have filled : route ≠ [] := fun empty => several "" (by rw [empty, Template.tokens_nil])
    have sources := (Prod.mk.inj same).2
    rw [Template.tokens_of_ne_nil _ filled, Template.tokens_of_ne_nil _ (by simp [filled])] at sources
    exact Template.sourceText_append_ne route some (Template.sourceText_injOn_sourceOf aliases sources)

end Route

namespace Template

private theorem expansions_pairwise (first : List Char) {groups : List (List Char)}
    (nonempty : ∀ segment ∈ groups, segment ≠ []) :
    (expansions first groups).Pairwise fun shorter longer =>
      ∃ more, more ≠ [] ∧ longer = shorter ++ more := by
  induction groups generalizing first with
  | nil => exact List.pairwise_singleton _ _
  | cons segment groups ih =>
    obtain ⟨some, others⟩ := List.forall_mem_cons.mp nonempty
    rw [expansions_cons]
    refine List.pairwise_cons.mpr ⟨fun longer member => ?_, ih _ others⟩
    obtain ⟨k, _, rfl⟩ := List.mem_map.mp member
    exact ⟨segment ++ (groups.take k).flatten, by simp [some], List.append_assoc ..⟩

end Template

/-! ### Entries of one method -/

namespace RouteSet

def slotsOf (routes : RouteSet) (method : String) : List (RouteKind × String) :=
  (ByMethod.keysOf routes.static method).map (RouteKind.static, ·) ++
    (ByMethod.keysOf routes.dynamic method).map (RouteKind.dynamic, ·)

private theorem slotsOf_nodup (routes : RouteSet) (method : String) : (routes.slotsOf method).Nodup := by
  have apart : ∀ kind : RouteKind, Function.Injective fun key : String => (kind, key) :=
    fun kind one two same => (Prod.mk.inj same).2
  refine List.nodup_append.mpr ⟨ByMethod.keysOf_nodup.map (apart _),
    ByMethod.keysOf_nodup.map (apart _), ?_⟩
  intro slot first other second
  obtain ⟨_, _, rfl⟩ := List.mem_map.mp first
  obtain ⟨_, _, rfl⟩ := List.mem_map.mp second
  simp

private theorem mem_slotsOf_iff {routes : RouteSet} {method : String} {slot : RouteKind × String} :
    slot ∈ routes.slotsOf method ↔ (routes.find? method slot.1 slot.2).isSome := by
  obtain ⟨kind, key⟩ := slot
  cases kind <;> simp [slotsOf, find?, ByMethod.mem_keysOf_iff]

/-- A method without routes that gets some has exactly these, each under its own key. -/
theorem Stored.slotsOf_perm {entries : List (String × Route)} {handler : Handler}
    {after before : RouteSet} (stored : after.Stored entries handler before) {method : String}
    (none : before.slotsOf method = []) {compiled : List Route}
    (own : ∀ route, (method, route) ∈ entries ↔ route ∈ compiled)
    (distinct : (compiled.map Route.slot).Nodup) :
    (after.slotsOf method).Perm (compiled.map Route.slot) := by
  refine (List.perm_ext_iff_of_nodup (slotsOf_nodup _ _) distinct).mpr fun slot => ?_
  rw [mem_slotsOf_iff, List.mem_map]
  constructor
  · intro found
    by_contra absent
    have same := stored.others method slot.1 slot.2 (by
      rintro ⟨_, route⟩ member ⟨rfl, kind, key⟩
      exact absent ⟨route, (own route).mp member, by rw [Route.slot, kind, key]⟩)
    rw [same, ← mem_slotsOf_iff, none] at found
    cases found
  · rintro ⟨route, member, rfl⟩
    obtain ⟨other, _, _, _, found⟩ := stored.new _ ((own route).mpr member)
    exact Option.isSome_of_eq_some found

end RouteSet

private theorem mem_methodRoutes_iff {methods : List String} {compiled : List Route} {method : String}
    (named : method ∈ expandMethods anyMethods methods) (route : Route) :
    (method, route) ∈ methodRoutes methods compiled ↔ route ∈ compiled := by
  simp only [methodRoutes, List.mem_flatMap, List.mem_map, Prod.mk.injEq]
  constructor
  · rintro ⟨_, _, _, member, _, rfl⟩
    exact member
  · intro member
    exact ⟨method, named, route, member, rfl, rfl⟩

namespace Service

/-- The routes of one template never write over each other. If a template is accepted and all
of its routes compile, there is one more of them than it has groups, and no two of them
agree in kind and key. Registering it gives every method that had no routes as many
entries as there are routes. -/
theorem addRoute_keeps_expansions_apart {aliases : AliasTable} {template : String}
    {expansions : List (List Token)} {compiled : List Route}
    (parsed : Template.parse aliases template = .ok expansions)
    (each : List.Forall₂ (fun tokens route => Route.compile tokens = .ok route) expansions compiled) :
    ∃ first groups, Template.Grouped template.toList first groups ∧
      compiled.length = groups.length + 1 ∧
      (compiled.map fun route => (route.kind, route.key)).Nodup ∧
      ∀ (service : Service) (routes : RouteSet) (fallbacks : Fallbacks) (written : String)
        (methods : List String) (handler : Handler),
        service.router.phase = .collecting routes fallbacks → service.router.aliases = aliases →
        service.router.stem ++ written = template →
        ∃ stored, (service.addRoute methods written handler).1 = .ok () ∧
          (service.addRoute methods written handler).2.router.phase = .collecting stored fallbacks ∧
          ∀ method ∈ expandMethods anyMethods methods,
            ByMethod.keysOf routes.static method = [] → ByMethod.keysOf routes.dynamic method = [] →
            (ByMethod.keysOf stored.static method).length +
              (ByMethod.keysOf stored.dynamic method).length = groups.length + 1 := by
  obtain ⟨found, cut, rfl⟩ := exists_of_map_ok parsed
  obtain ⟨first, groups, grouped, rfl⟩ := Template.exists_grouped_of_routes cut
  have count : compiled.length = groups.length + 1 := by
    rw [← each.length_eq, List.length_map, Template.expansions, List.length_map, List.length_range]
  have apart : (compiled.map Route.slot).Nodup := by
    refine List.pairwise_map.mpr (pairwise_of_forall₂ ?_ (List.forall₂_map_left_iff.mp each)
      (Template.expansions_pairwise first grouped.nonempty))
    rintro route _ shorter longer short long ⟨more, some, rfl⟩
    exact Route.slot_ne_of_longer some short long
  refine ⟨first, groups, grouped, count, apart, ?_⟩
  rintro service routes fallbacks written methods handler phase rfl rfl
  by_cases none : methods = []
  · subst none
    obtain ⟨host, unchanged⟩ := addRoute_nothing written handler phase
    exact ⟨routes, by rw [unchanged], by rw [unchanged, phase], by simp [expandMethods]⟩
  · have good : service.router.compile written = .ok compiled := by
      rw [Router.compile, parsed]
      exact mapM_ok_of_forall₂ each
    refine ⟨_, by rw [addRoute_stored handler phase none good],
      by rw [addRoute_stored handler phase none good], ?_⟩
    intro method named static dynamic
    have empty : routes.slotsOf method = [] := by simp [RouteSet.slotsOf, static, dynamic]
    have perm := (routes.stored_insertAll (methodRoutes methods compiled) handler).slotsOf_perm empty
      (mem_methodRoutes_iff named) apart
    have total := perm.length_eq
    rwa [RouteSet.slotsOf, List.length_append, List.length_map, List.length_map, List.length_map,
      count] at total

/-- Two groups, the second of which completes a placeholder that the first has begun, in a
router that has a route for another method under one of the keys. -/
theorem addRoute_keeps_expansions_apart_straddled :
    let template := "/x[/\x7b na[me\x7d]]"
    let expansions := [[Token.literal "/x"], [.literal "/x/\x7b na"],
      [.literal "/x/", .parameter "name" "[^/]+"]]
    let routes := RouteSet.empty.insert "PUT" (.static "/x") "old"
    let service : Service := ⟨{ stem := "/x", phase := .collecting routes OrderedMap.empty }, {}⟩
    let registered := service.addRoute ["get", "Get"] "[/\x7b na[me\x7d]]" "new"
    ∃ compiled stored, Template.parse .standard template = .ok expansions ∧
      List.Forall₂ (fun tokens route => Route.compile tokens = .ok route) expansions compiled ∧
      (compiled.map fun route => (route.kind, route.key)).Nodup ∧ registered.1 = .ok () ∧
      registered.2.router.phase = .collecting stored OrderedMap.empty ∧
      ByMethod.keysOf routes.static "GET" = [] ∧ ByMethod.keysOf routes.dynamic "GET" = [] ∧
      (ByMethod.keysOf stored.static "GET").length +
        (ByMethod.keysOf stored.dynamic "GET").length = 3 := by
  intro template expansions routes service registered
  have parsed : Template.parse .standard template = .ok expansions := by decide +kernel
  have compiles : (expansions.mapM Route.compile).isOk = true := by decide +kernel
  cases made : expansions.mapM Route.compile with
  | error error =>
    rw [made] at compiles
    cases compiles
  | ok compiled =>
    have each := forall₂_of_mapM_ok made
    obtain ⟨first, groups, _, count, apart, registers⟩ :=
      addRoute_keeps_expansions_apart parsed each
    have three : groups.length + 1 = 3 := count.symm.trans each.length_eq.symm
    obtain ⟨stored, done, after, entries⟩ := registers service routes OrderedMap.empty
      "[/\x7b na[me\x7d]]" ["get", "Get"] "new" rfl rfl (by decide +kernel)
    have static : ByMethod.keysOf routes.static "GET" = [] := by decide +kernel
    have dynamic : ByMethod.keysOf routes.dynamic "GET" = [] := by decide +kernel
    have total := entries "GET" (by decide +kernel) static dynamic
    rw [three] at total
    exact ⟨compiled, stored, parsed, each, apart, done, after, static, dynamic, total⟩

end Service

end PathRouting
