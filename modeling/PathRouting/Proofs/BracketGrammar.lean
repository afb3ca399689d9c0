import Mathlib.Data.List.Basic
import PathRouting.Proofs.Attempts
import PathRouting.Proofs.RoutePieces

/-! The grammar of optional groups. A template is accepted exactly if the brackets outside
its placeholders open one group after the other and all groups are closed at its end. -/

namespace PathRouting.Template

open Placeholder

/-- The characters of a text, each with whether it is a bracket outside the placeholders. -/
def outline (text : List Char) : List (Char × Bool) :=
  (pieces text).flatMap fun piece =>
    match piece with
    | .text chars => chars.map fun c => (c, c = '[' || c = ']')
    | .slot written _ => written.map (·, false)

def layout (bracket : Char) (first : List Char) (later : List (List Char)) : List (Char × Bool) :=
  first.map (·, false) ++ later.flatMap fun segment => (bracket, true) :: segment.map (·, false)

/-- The template has the given groups behind its first segment: each is opened by a bracket
in front of its text, which is not empty, and all are closed by the last characters. No
other brackets stand outside of placeholders. -/
structure Grouped (template first : List Char) (groups : List (List Char)) : Prop where
  brackets : outline template =
    layout '[' first groups ++ List.replicate groups.length (']', true)
  nonempty : ∀ segment ∈ groups, segment ≠ []

def closingRun (text : List Char) : Nat := (text.reverse.takeWhile (· = ']')).length

/-- Why a template that has no groups in this sense is refused. -/
def refusal (template : List Char) : String :=
  if (']', true) ∈ (outline template).take (template.length - closingRun template) then
    "Optional segments can only occur at the end of a route"
  else if (outline template).count ('[', true) ≠ closingRun template then
    "Number of opening '[' and closing ']' does not match"
  else "Empty optional part"

/-! ### Outlines -/

theorem outline_nil : outline [] = [] := by
  rw [outline, pieces_nil]
  rfl

private theorem outline_placeholder {written : List Char} {found : Placeholder}
    (writes : Writes written found) (after : List Char) :
    outline (written ++ after) = written.map (·, false) ++ outline after := by
  rw [outline, pieces_placeholder writes]
  rfl

theorem outline_char {c : Char} {rest : List Char} (nothing : scan? (c :: rest) = none) :
    outline (c :: rest) = (c, c = '[' || c = ']') :: outline rest := by
  rw [outline, pieces_char nothing]
  unfold consText
  split
  next chars later same =>
    rw [outline, same]
    rfl
  next => rfl

theorem chars_outline (text : List Char) : (outline text).map Prod.fst = text := by
  induction text using pieces_induction with
  | nil => rw [outline_nil]; rfl
  | placeholder written found after writes ih =>
    rw [outline_placeholder writes, List.map_append, ih, List.map_map]
    exact congrArg (· ++ after) (List.map_id written)
  | char c rest nothing ih => rw [outline_char nothing, List.map_cons, ih]

private theorem bracket_of_mem_outline {text : List Char} {c : Char}
    (member : (c, true) ∈ outline text) :
    c = '[' ∨ c = ']' := by
  obtain ⟨piece, _, inside⟩ := List.mem_flatMap.mp member
  cases piece with
  | text chars =>
    obtain ⟨d, _, equal⟩ := List.mem_map.mp inside
    obtain ⟨rfl, marked⟩ := Prod.mk.inj equal
    simpa using marked
  | slot written found => simp at inside

private theorem scan?_append_closing {text : List Char} (nothing : scan? text = none) (run : Nat) :
    scan? (text ++ List.replicate run ']') = none := by
  cases scanned : scan? (text ++ List.replicate run ']') with
  | none => rfl
  | some result =>
    obtain ⟨found, rest⟩ := result
    obtain ⟨written, writes, whole⟩ := scan?_eq_some_iff.mp scanned
    obtain ⟨inner, rfl⟩ := writes.last
    obtain ⟨between, longer, later⟩ | ⟨between, rfl, _⟩ := List.append_eq_append_iff.mp whole
    · obtain rfl | ⟨front, last, rfl⟩ := List.eq_nil_or_concat between
      · rw [List.append_nil] at longer
        rw [scan?_eq_some_iff.mpr ⟨_, writes, by rw [longer, List.append_nil]⟩] at nothing
        cases nothing
      · rw [List.concat_eq_append, ← List.append_assoc] at longer
        obtain ⟨_, same⟩ := List.append_inj' longer rfl
        cases same
        have member : '}' ∈ List.replicate run ']' := later ▸ by simp
        exact absurd (List.eq_of_mem_replicate member) (by decide)
    · rw [scan?_eq_some_iff.mpr ⟨_, writes, rfl⟩] at nothing
      cases nothing

private theorem outline_closing (run : Nat) :
    outline (List.replicate run ']') = List.replicate run (']', true) := by
  induction run with
  | zero => exact outline_nil
  | succ run ih => rw [List.replicate_succ, outline_char rfl, ih]; rfl

private theorem outline_append_closing (text : List Char) (run : Nat) :
    outline (text ++ List.replicate run ']') = outline text ++ List.replicate run (']', true) := by
  induction text using pieces_induction with
  | nil => rw [List.nil_append, outline_nil, outline_closing]; rfl
  | placeholder written found after writes ih =>
    rw [List.append_assoc, outline_placeholder writes, outline_placeholder writes, ih,
      List.append_assoc]
  | char c rest nothing ih =>
    have still := scan?_append_closing nothing run
    rw [List.cons_append] at still ⊢
    rw [outline_char still, outline_char nothing, ih, List.cons_append]

/-! ### Segments -/

private theorem layout_append (bracket : Char) (written first : List Char) (later : List (List Char)) :
    layout bracket (written ++ first) later = written.map (·, false) ++ layout bracket first later := by
  simp [layout]

private theorem layout_cons (bracket : Char) (first : List Char) (later : List (List Char)) :
    layout bracket [] (first :: later) = (bracket, true) :: layout bracket first later := rfl

def segments : List (Char × Bool) → List (List Char)
  | [] => [[]]
  | (_, true) :: rest => [] :: segments rest
  | (c, false) :: rest => consSegment c (segments rest)

private theorem foldr_consSegment (written first : List Char) (later : List (List Char)) :
    written.foldr consSegment (first :: later) = (written ++ first) :: later := by
  induction written with
  | nil => rfl
  | cons c written ih => rw [List.foldr_cons, ih]; rfl

private theorem segments_append (written : List Char) (rest : List (Char × Bool)) :
    segments (written.map (·, false) ++ rest) = written.foldr consSegment (segments rest) := by
  induction written with
  | nil => rfl
  | cons c written ih => rw [List.map_cons, List.cons_append, segments, ih, List.foldr_cons]

private theorem segments_layout (bracket : Char) (first : List Char) (later : List (List Char)) :
    segments (layout bracket first later) = first :: later := by
  induction later generalizing first with
  | nil =>
    rw [layout, List.flatMap_nil, segments_append, segments, foldr_consSegment, List.append_nil]
  | cons second later ih =>
    rw [← List.append_nil first, layout_append, layout_cons, segments_append, segments, ih,
      foldr_consSegment]

private theorem layout_inj {bracket : Char} {first other : List Char} {later others : List (List Char)}
    (same : layout bracket first later = layout bracket other others) :
    first = other ∧ later = others := by
  have cut := congrArg segments same
  rw [segments_layout, segments_layout] at cut
  exact List.cons.inj cut

private theorem splitPieces_consText (delimiter c : Char) (found : List Piece) :
    splitPieces delimiter (consText c found) =
      if c = delimiter then [] :: splitPieces delimiter found
      else consSegment c (splitPieces delimiter found) := by
  unfold consText
  split <;> rfl

/-- Splitting at one kind of bracket: a segment more than there are such brackets, and the
layout of these segments if no other brackets stand in the text. -/
theorem splitOutside_spec {delimiter : Char} (bracket : delimiter = '[' ∨ delimiter = ']')
    (text : List Char) :
    ∃ first later, splitOutside delimiter text = first :: later ∧
      later.length = (outline text).count (delimiter, true) ∧
      ((∀ c, (c, true) ∈ outline text → c = delimiter) →
        outline text = layout delimiter first later) := by
  induction text using pieces_induction with
  | nil =>
    refine ⟨[], [], ?_, ?_, fun _ => ?_⟩
    · rw [splitOutside, pieces_nil]
      rfl
    · rw [outline_nil]
      rfl
    · rw [outline_nil]
      rfl
  | placeholder written found after writes ih =>
    obtain ⟨first, later, cut, count, laid⟩ := ih
    refine ⟨written ++ first, later, ?_, ?_, fun only => ?_⟩
    · rw [splitOutside, pieces_placeholder writes, splitPieces, ← splitOutside, cut, foldr_consSegment]
    · rw [outline_placeholder writes, List.count_append, List.count_eq_zero_of_not_mem (by simp),
        Nat.zero_add, count]
    · rw [outline_placeholder writes] at only ⊢
      rw [layout_append, laid fun c member => only c (List.mem_append_right _ member)]
  | char c rest nothing ih =>
    obtain ⟨first, later, cut, count, laid⟩ := ih
    have split : splitOutside delimiter (c :: rest) =
        if c = delimiter then [] :: first :: later else (c :: first) :: later := by
      rw [splitOutside, pieces_char nothing, splitPieces_consText, ← splitOutside, cut]
      rfl
    rw [outline_char nothing, split]
    by_cases same : c = delimiter
    · subst same
      have marked : (decide (c = '[') || decide (c = ']')) = true := by simpa using bracket
      refine ⟨[], first :: later, if_pos rfl, ?_, fun only => ?_⟩
      · rw [marked, List.count_cons_self, ← count, List.length_cons]
      · rw [marked, layout_cons, laid fun d member => only d (List.mem_cons_of_mem _ member)]
    · refine ⟨c :: first, later, if_neg same, ?_, fun only => ?_⟩
      · rw [List.count_cons_of_ne (by simpa using fun equal => absurd equal same), count]
      · have plain : (decide (c = '[') || decide (c = ']')) = false := by
          rw [Bool.eq_false_iff]
          intro marked
          rw [marked] at only
          exact same (only c List.mem_cons_self)
        rw [plain, laid fun d member => only d (List.mem_cons_of_mem _ member)]
        rfl

/-! ### Templates -/

private theorem withoutClosing_append (template : List Char) :
    withoutClosing template ++ List.replicate (closingRun template) ']' = template := by
  have closing : template.reverse.takeWhile (· = ']') = List.replicate (closingRun template) ']' :=
    List.eq_replicate_of_mem fun c member => by simpa using List.mem_takeWhile_imp member
  rw [withoutClosing, ← List.reverse_replicate, ← closing, ← List.reverse_append,
    List.takeWhile_append_dropWhile, List.reverse_reverse]

private theorem outline_eq_append (template : List Char) : outline template =
    outline (withoutClosing template) ++ List.replicate (closingRun template) (']', true) := by
  rw [← outline_append_closing, withoutClosing_append]

private theorem getLast?_withoutClosing (template : List Char) :
    (withoutClosing template).getLast? ≠ some ']' := by
  rw [withoutClosing, List.getLast?_reverse]
  intro last
  have other := List.head?_dropWhile_not (· = ']') template.reverse
  rw [last] at other
  simp at other

private theorem not_mem_layout (first : List Char) (later : List (List Char)) :
    (']', true) ∉ layout '[' first later := by
  simp [layout]

/-- What makes a template one of groups can be seen without its closing brackets. -/
theorem grouped_iff {template first : List Char} {groups : List (List Char)} :
    Grouped template first groups ↔
      (']', true) ∉ outline (withoutClosing template) ∧
      splitOutside '[' (withoutClosing template) = first :: groups ∧
      groups.length = closingRun template ∧ ∀ segment ∈ groups, segment ≠ [] := by
  obtain ⟨front, later, cut, _, laid⟩ := splitOutside_spec (.inl rfl) (withoutClosing template)
  constructor
  · rintro ⟨brackets, nonempty⟩
    rw [outline_eq_append] at brackets
    have open_ := not_mem_layout first groups
    have same : outline (withoutClosing template) = layout '[' first groups := by
      obtain ⟨more, longer, closing⟩ | ⟨more, longer, closing⟩ := List.append_eq_append_iff.mp brackets
      · obtain rfl | ⟨before, last, rfl⟩ := List.eq_nil_or_concat more
        · rw [longer, List.append_nil]
        · rw [longer] at open_
          have member : last ∈ List.replicate (closingRun template) (']', true) := closing ▸ by simp
          exact absurd (List.eq_of_mem_replicate member ▸ by simp) open_
      · obtain rfl | ⟨before, last, rfl⟩ := List.eq_nil_or_concat more
        · rw [longer, List.append_nil]
        · have member : last ∈ List.replicate groups.length (']', true) := closing ▸ by simp
          have ends := congrArg List.getLast? (congrArg (List.map Prod.fst) longer)
          rw [chars_outline, List.eq_of_mem_replicate member] at ends
          simp at ends
          exact absurd ends (getLast?_withoutClosing template)
    have count := congrArg List.length brackets
    rw [same, List.length_append, List.length_append, List.length_replicate,
      List.length_replicate] at count
    have only : ∀ c, (c, true) ∈ outline (withoutClosing template) → c = '[' := by
      intro c member
      rw [same] at member
      simp [layout] at member
      exact member.2
    obtain ⟨rfl, rfl⟩ := layout_inj ((laid only).symm.trans same)
    exact ⟨same ▸ open_, cut, by omega, nonempty⟩
  · rintro ⟨noClosing, split, count, nonempty⟩
    obtain ⟨rfl, rfl⟩ := List.cons.inj (cut.symm.trans split)
    have only : ∀ c, (c, true) ∈ outline (withoutClosing template) → c = '[' := by
      intro c member
      rcases bracket_of_mem_outline member with rfl | rfl
      · rfl
      · exact absurd member noClosing
    exact ⟨by rw [outline_eq_append, laid only, count], nonempty⟩

/-- The routes of a template: its first segment with none, one, … all of the groups. -/
def expansions (first : List Char) (groups : List (List Char)) : List (List Char) :=
  (List.range (groups.length + 1)).map fun k => first ++ (groups.take k).flatten

theorem expansions_cons (first segment : List Char) (groups : List (List Char)) :
    expansions first (segment :: groups) = first :: expansions (first ++ segment) groups := by
  rw [expansions, List.length_cons, List.range_succ_eq_map, List.map_cons, List.map_map, expansions]
  simp [Function.comp_def]

private theorem expansions?_some (before : List Char) {rest : List (List Char)}
    (nonempty : ∀ segment ∈ rest, segment ≠ []) :
    (expansions? before rest).map (before :: ·) = some (expansions before rest) := by
  induction rest generalizing before with
  | nil => simp [expansions?, expansions]
  | cons segment rest ih =>
    have some : segment.isEmpty = false := by simpa using nonempty segment List.mem_cons_self
    have later := ih (before ++ segment)
      fun other member => nonempty other (List.mem_cons_of_mem _ member)
    rw [expansions?, some, expansions_cons]
    simp only [Bool.false_eq_true, if_false, later, Option.map_some]

private theorem expansions?_none {before : List Char} {rest : List (List Char)}
    (empty : ¬ ∀ segment ∈ rest, segment ≠ []) : expansions? before rest = none := by
  induction rest generalizing before with
  | nil => simp at empty
  | cons segment rest ih =>
    rw [expansions?]
    split
    · rfl
    next some =>
      rw [List.forall_mem_cons, not_and] at empty
      rw [ih (empty (by simpa using some)), Option.map_none]

private theorem mem_outline_iff (text : List Char) :
    (']', true) ∈ outline text ↔ 1 < (splitOutside ']' text).length := by
  obtain ⟨first, later, cut, count, _⟩ := splitOutside_spec (.inr rfl) text
  rw [← List.count_pos_iff, ← count, cut, List.length_cons]
  omega

private theorem routes_grouped {template : String} {first : List Char} {groups : List (List Char)}
    (grouped : Grouped template.toList first groups) :
    routes template = .ok (expansions first groups) := by
  obtain ⟨noClosing, cut, count, nonempty⟩ := grouped_iff.mp grouped
  have whole := congrArg List.length (withoutClosing_append template.toList)
  rw [List.length_append, List.length_replicate] at whole
  have listed := expansions?_some first nonempty
  obtain ⟨longer, found, all⟩ := Option.map_eq_some_iff.mp listed
  rw [mem_outline_iff] at noClosing
  rw [routes, if_neg noClosing, cut]
  simp only [found]
  rw [if_neg (by omega), all]

private theorem routes_refused {template : String}
    (other : ¬ ∃ first groups, Grouped template.toList first groups) :
    ∃ fault, routes template = .error (.badPattern fault template) ∧
      fault.message = refusal template.toList := by
  have whole := congrArg List.length (withoutClosing_append template.toList)
  rw [List.length_append, List.length_replicate] at whole
  have front : (outline template.toList).take (template.toList.length - closingRun template.toList) =
      outline (withoutClosing template.toList) := by
    have size := congrArg List.length (chars_outline (withoutClosing template.toList))
    rw [List.length_map] at size
    rw [outline_eq_append, List.take_left' (by omega)]
  have opened : (outline template.toList).count ('[', true) =
      (outline (withoutClosing template.toList)).count ('[', true) := by
    rw [outline_eq_append, List.count_append, List.count_replicate]
    exact Nat.add_zero _
  obtain ⟨first, later, cut, count, _⟩ := splitOutside_spec (.inl rfl) (withoutClosing template.toList)
  rw [refusal, front, opened, ← count, routes]
  by_cases misplaced : (']', true) ∈ outline (withoutClosing template.toList)
  · rw [if_pos misplaced, if_pos ((mem_outline_iff _).mp misplaced)]
    exact ⟨.misplaced, rfl, rfl⟩
  · rw [if_neg misplaced, if_neg (fun many => misplaced ((mem_outline_iff _).mpr many)), cut]
    by_cases balanced : later.length = closingRun template.toList
    · have empty : ¬ ∀ segment ∈ later, segment ≠ [] := fun nonempty =>
        other ⟨first, later, grouped_iff.mpr ⟨misplaced, cut, balanced, nonempty⟩⟩
      rw [if_neg (by omega)]
      simp only [expansions?_none empty]
      rw [if_neg (by omega)]
      exact ⟨.emptyGroup, rfl, rfl⟩
    · rw [if_pos balanced]
      simp only
      rw [if_pos (by omega)]
      exact ⟨.unbalanced, rfl, rfl⟩

theorem exists_grouped_of_routes {template : String} {found : List (List Char)}
    (cut : routes template = .ok found) :
    ∃ first groups, Grouped template.toList first groups ∧ found = expansions first groups := by
  by_cases grouped : ∃ first groups, Grouped template.toList first groups
  · obtain ⟨first, groups, grouped⟩ := grouped
    exact ⟨first, groups, grouped, Except.ok.inj (cut.symm.trans (routes_grouped grouped))⟩
  · obtain ⟨fault, refused, _⟩ := routes_refused grouped
    cases refused.symm.trans cut

/-- Templates are accepted exactly if their brackets outside of placeholders form groups at
the end, one inside the other and none of them empty. Such a template stands for one
route more than it has groups: the first segment with the texts of the first groups,
without the brackets. Every other template is refused as it is, with a reason that says
which of the conditions does not hold. -/
theorem parse_eq_ok_iff_grouped (aliases : AliasTable) (template : String) :
    (∀ all, parse aliases template = .ok all ↔
      ∃ first groups, Grouped template.toList first groups ∧
        all = (List.range (groups.length + 1)).map fun k =>
          tokens aliases (first ++ (groups.take k).flatten)) ∧
    ((¬ ∃ first groups, Grouped template.toList first groups) →
      ∃ fault, parse aliases template = .error (.badPattern fault template) ∧
        fault.message = refusal template.toList) := by
  refine ⟨fun all => ⟨fun parsed => ?_, ?_⟩, fun other => ?_⟩
  · obtain ⟨found, cut, rfl⟩ := exists_of_map_ok parsed
    obtain ⟨first, groups, grouped, rfl⟩ := exists_grouped_of_routes cut
    exact ⟨first, groups, grouped, by rw [expansions, List.map_map]; rfl⟩
  · rintro ⟨first, groups, grouped, rfl⟩
    rw [parse, routes_grouped grouped, expansions]
    exact congrArg Except.ok List.map_map
  · obtain ⟨fault, refused, message⟩ := routes_refused other
    exact ⟨fault, by rw [parse, refused]; rfl, message⟩

/-- Two groups behind a placeholder with brackets of its own, and one closing bracket too
many. -/
theorem parse_eq_ok_iff_grouped_nested :
    let first := "/a/\x7bx:[]0-9]+\x7d".toList
    let groups := ["/b".toList, "/\x7bc\x7d".toList]
    Grouped "/a/\x7bx:[]0-9]+\x7d[/b[/\x7bc\x7d]]".toList first groups ∧
    parse .standard "/a/\x7bx:[]0-9]+\x7d[/b[/\x7bc\x7d]]" =
      .ok ((List.range 3).map fun k => tokens .standard (first ++ (groups.take k).flatten)) ∧
    (¬ ∃ first groups, Grouped "/a[/b]]".toList first groups) ∧
    ∃ fault, parse .standard "/a[/b]]" = .error (.badPattern fault "/a[/b]]") ∧
      fault.message = "Number of opening '[' and closing ']' does not match" := by
  intro first groups
  have grouped : Grouped "/a/\x7bx:[]0-9]+\x7d[/b[/\x7bc\x7d]]".toList first groups :=
    ⟨by decide +kernel, by decide +kernel⟩
  obtain ⟨accepts, _⟩ := parse_eq_ok_iff_grouped .standard "/a/\x7bx:[]0-9]+\x7d[/b[/\x7bc\x7d]]"
  obtain ⟨acceptsOther, refuses⟩ := parse_eq_ok_iff_grouped .standard "/a[/b]]"
  have other : ¬ ∃ first groups, Grouped "/a[/b]]".toList first groups := by
    rintro ⟨first, groups, grouped⟩
    have parsed := (acceptsOther _).mpr ⟨first, groups, grouped, rfl⟩
    have refused : parse .standard "/a[/b]]" = .error (.badPattern .unbalanced "/a[/b]]") := by
      decide +kernel
    cases refused.symm.trans parsed
  obtain ⟨fault, refused, message⟩ := refuses other
  exact ⟨grouped, (accepts _).mpr ⟨first, groups, grouped, rfl⟩, other, fault, refused,
    message.trans (by decide +kernel)⟩

end PathRouting.Template
