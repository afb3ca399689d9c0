import PathRouting.Proofs.GroupReading
import PathRouting.Proofs.RoutePieces
import PathRouting.Proofs.RouteReadings
import PathRouting.Table

/-! Routes whose patterns keep to their groups. The expression of such a route is read
as the row that was meant, so that every match is a reading of the whole path. -/

namespace PathRouting

/-- The pattern of a parameter keeps to the group that is opened for it. -/
def Token.Contained : Token → Prop
  | literal _ => True
  | parameter _ pattern => Regex.Contained pattern

instance (token : Token) : Decidable token.Contained :=
  match token with
  | .literal _ => inferInstanceAs (Decidable True)
  | .parameter _ pattern => inferInstanceAs (Decidable (Regex.Contained pattern))

/-- The names of the groups that a token is read as: that of the parameter, and those that its
pattern opens within. -/
def Token.groupNames : Token → List String
  | literal _ => []
  | parameter name pattern =>
    name :: (Regex.body? pattern).elim [] fun body => body.groups.filterMap Prod.snd

namespace Regex

variable {state after : ReadState} {text rest : List Char} {expr : Expr}

def Level.append (level : Level) (exprs : List Expr) : Level :=
  { level with parts := (exprs.map Part.matching).reverse ++ level.parts }

theorem Level.append_append (level : Level) (first second : List Expr) :
    (level.append first).append second = level.append (first ++ second) := by
  simp [append]

namespace Expr

private theorem items_ofItems (parts : List Expr) : (ofItems parts).items = parts.flatMap items := by
  induction parts with
  | nil => rfl
  | cons part rest ih =>
    cases rest with
    | nil => exact (List.append_nil _).symm
    | cons next later => exact congrArg (part.items ++ ·) ih

private theorem items_items (expr : Expr) : expr.items.flatMap items = expr.items := by
  induction expr with
  | seq first second firstIh secondIh => rw [items, List.flatMap_append, firstIh, secondIh]
  | _ => rfl

private theorem filter_items_joinLiterals (parts : List Expr) :
    ((joinLiterals parts).flatMap items).filter isGroup = (parts.flatMap items).filter isGroup := by
  induction parts with
  | nil => rfl
  | cons part rest ih =>
    unfold joinLiterals
    split
    next chars more later joined =>
      rw [joined] at ih
      exact ih
    next => rw [List.flatMap_cons, List.flatMap_cons, List.filter_append, ih, List.filter_append]

private theorem filter_items_concat (parts : List Expr) :
    (concat parts).items.filter isGroup = (parts.flatMap items).filter isGroup := by
  rw [concat, items_ofItems, filter_items_joinLiterals, List.flatMap_assoc]
  simp only [items_items]

end Expr

theorem Expr.branches_concat_look (condition : Look) (parts : List Expr) :
    (concat (look condition :: parts)).branches = [concat (look condition :: parts)] := by
  have whole : concat (look condition :: parts) =
      ofItems (look condition :: joinLiterals (parts.flatMap items)) := rfl
  rw [whole]
  cases joinLiterals (parts.flatMap items) <;> rfl

theorem Level.toExpr_row (condition : Look) (parts : List Expr) :
    (({} : Level).append (.look condition :: parts)).toExpr = .concat (.look condition :: parts) := by
  have exprs : ((.look condition :: parts).map Part.matching).map Part.toExpr =
      .look condition :: parts := by
    rw [List.map_map]
    exact List.map_id _
  have branches := Expr.branches_concat_look condition parts
  rw [toExpr, finishBranch, append, List.append_nil, List.reverse_reverse, exprs]
  simp only [List.reverse_singleton, Expr.alternate, List.flatMap_singleton, branches]
  rfl

private theorem readEscape_meta {c : Char} (quoted : isMeta c = true) (rest : List Char) :
    readEscape {} (c :: rest) = some (.char c false, rest) := by
  have member : c ∈ ['\\', '.', '+', '*', '?', '(', ')', '|', '[', ']', '{', '}', '^', '$', '#', '&',
      '-', '~'] := by simpa only [isMeta, decide_eq_true_eq] using quoted
  simp only [List.mem_cons, List.not_mem_nil, or_false] at member
  rcases member with rfl | rfl | rfl | rfl | rfl | rfl | rfl | rfl | rfl | rfl | rfl | rfl | rfl | rfl | rfl |
    rfl | rfl | rfl <;> rfl

theorem readStep_char {c : Char} (plain : isMeta c = false) (flags : state.level.flags = {})
    (rest : List Char) : readStep state (c :: rest) = some (state.push (.literal [c]), rest) := by
  unfold readStep
  simp only [flags]
  split
  all_goals first
    | exact absurd plain (by decide)
    | rfl

theorem readStep_quoted {c : Char} (quoted : isMeta c = true) (flags : state.level.flags = {})
    (rest : List Char) :
    readStep state ('\\' :: c :: rest) = some (state.push (.literal [c]), rest) := by
  simp only [readStep, flags, readEscape_meta quoted, bind, Option.bind_some]
  rfl

private theorem readGroupName_spec {name label : String} (valid : '>' ∉ name.toList)
    (read : readGroupName (name.toList ++ '>' :: rest) = some (label, text)) :
    label = name ∧ text = rest := by
  have other : ∀ c ∈ name.toList, decide (c ≠ '>') = true := by
    intro c member
    exact decide_eq_true fun equal => valid (equal ▸ member)
  unfold readGroupName at read
  rw [List.takeWhile_append_of_pos other, List.dropWhile_append_of_pos other] at read
  simp only [List.takeWhile_cons, List.dropWhile_cons, ne_eq, not_true_eq_false, decide_false,
    Bool.false_eq_true, if_false, List.append_nil] at read
  split at read
  next => cases read
  next =>
    split at read
    next =>
      cases read
      exact ⟨String.ofList_toList, rfl⟩
    next => cases read

namespace Completes

private theorem literal {written : List Char}
    (completes : Completes state (escapeChars written ++ rest) expr)
    (flags : state.level.flags = {}) :
    ∃ after, after.level = state.level.append (written.map fun c => .literal [c]) ∧
      after.outer = state.outer ∧ Completes after rest expr := by
  induction written generalizing state with
  | nil => exact ⟨state, rfl, rfl, completes⟩
  | cons c written ih =>
    have pushed : Completes (state.push (.literal [c])) (escapeChars written ++ rest) expr := by
      rw [escapeChars, List.flatMap_cons, List.append_assoc] at completes
      split at completes
      next quoted =>
        simp only [List.cons_append, List.nil_append] at completes
        obtain ⟨after, left, stepped, later⟩ := completes.step (by rw [flags]; rfl)
        rw [readStep_quoted quoted flags] at stepped
        cases stepped
        exact later
      next plain =>
        obtain ⟨after, left, stepped, later⟩ := completes.step (by rw [flags]; rfl)
        rw [readStep_char (by simpa using plain) flags] at stepped
        cases stepped
        exact later
    obtain ⟨after, level, outer, later⟩ := ih pushed flags
    refine ⟨after, ?_, outer, later⟩
    rw [level]
    exact Level.append_append state.level [.literal [c]] _

private theorem parameter {name pattern : String} {body : Expr} (contained : body? pattern = some body)
    (valid : '>' ∉ name.toList) (flags : state.level.flags = {})
    (completes : Completes state ((Matcher.tokenSource (.parameter name pattern)).toList ++ rest) expr) :
    ∃ index after, after.level = state.level.append [.group index (some name) (body.shift index)] ∧
      after.outer = state.outer ∧ Completes after rest expr := by
  have written : (Matcher.tokenSource (.parameter name pattern)).toList ++ rest =
      '(' :: '?' :: 'P' :: '<' :: (name.toList ++ '>' :: (pattern.toList ++ [')'] ++ rest)) := by
    simp [Matcher.tokenSource]
  rw [written] at completes
  obtain ⟨opened, left, stepped, later⟩ := completes.step (by rw [flags]; rfl)
  have started : readGroupStart state ('?' :: 'P' :: '<' :: (name.toList ++ '>' ::
    (pattern.toList ++ [')'] ++ rest))) = some (opened, left) := stepped
  rw [readGroupStart, flags] at started
  obtain ⟨⟨label, behind⟩, named, captured⟩ := Option.bind_eq_some_iff.mp started
  obtain ⟨opened, entered, equal⟩ := Option.bind_eq_some_iff.mp captured
  cases equal
  obtain ⟨rfl, rfl⟩ := readGroupName_spec valid named
  rw [openCapture_start flags entered] at later
  rw [body?] at contained
  split at contained
  next read =>
    cases contained
    obtain ⟨after, closed, around, last⟩ := later.contained read
    exact ⟨state.nextIndex, after, closed, around, last⟩
  next => cases contained

/-- The text of a route is read as the parts that its tokens ask for. -/
theorem tokens {tokens : List Token}
    (contained : ∀ name pattern, .parameter name pattern ∈ tokens →
      '>' ∉ name.toList ∧ Contained pattern)
    (flags : state.level.flags = {})
    (completes : Completes state
      (tokens.flatMap (fun token => (Matcher.tokenSource token).toList) ++ rest) expr) :
    ∃ parts after, Token.parts? tokens (parts.filter Expr.isGroup) = some parts ∧
      (parts.flatMap Expr.groups).filterMap Prod.snd = tokens.flatMap Token.groupNames ∧
      after.level = state.level.append parts ∧ after.outer = state.outer ∧
      Completes after rest expr := by
  induction tokens generalizing state with
  | nil => exact ⟨[], state, rfl, rfl, rfl, rfl, completes⟩
  | cons token tokens ih =>
    have others : ∀ name pattern, .parameter name pattern ∈ tokens →
        '>' ∉ name.toList ∧ Contained pattern :=
      fun name pattern member => contained name pattern (List.mem_cons_of_mem _ member)
    rw [List.flatMap_cons, List.append_assoc] at completes
    cases token with
    | literal written =>
      rw [Matcher.tokenSource, escape, String.toList_ofList] at completes
      obtain ⟨between, level, outer, later⟩ := completes.literal flags
      have still : between.level.flags = {} := by
        rw [level]
        exact flags
      obtain ⟨parts, after, laid, names, lastLevel, lastOuter, last⟩ := ih others still later
      have plain : (written.toList.map fun c => Expr.literal [c]).filter Expr.isGroup = [] := by
        simp [Expr.isGroup]
      have unnamed : (written.toList.map fun c => Expr.literal [c]).flatMap Expr.groups = [] := by
        simp [Expr.groups]
      refine ⟨written.toList.map (fun c => .literal [c]) ++ parts, after, ?_, ?_, ?_, ?_, last⟩
      · rw [List.filter_append, plain, List.nil_append, Token.parts?, laid, Option.map_some]
      · rw [List.flatMap_append, unnamed, List.nil_append, names, List.flatMap_cons,
          Token.groupNames, List.nil_append]
      · rw [lastLevel, level, Level.append_append]
      · rw [lastOuter, outer]
    | parameter name pattern =>
      obtain ⟨valid, inside⟩ := contained name pattern List.mem_cons_self
      obtain ⟨body, inside⟩ := contained_iff.mp inside
      obtain ⟨index, between, level, outer, later⟩ := completes.parameter inside valid flags
      have still : between.level.flags = {} := by
        rw [level]
        exact flags
      obtain ⟨parts, after, laid, names, lastLevel, lastOuter, last⟩ := ih others still later
      refine ⟨.group index (some name) (body.shift index) :: parts, after, ?_, ?_, ?_, ?_, last⟩
      · rw [List.filter_cons_of_pos (by rfl), Token.parts?, if_pos rfl, laid, Option.map_some]
      · have own : (body.shift index).groups.filterMap Prod.snd = body.groups.filterMap Prod.snd := by
          rw [Expr.groups_shift, List.filterMap_map]
          rfl
        rw [List.flatMap_cons, List.filterMap_append, names, List.flatMap_cons, Token.groupNames,
          inside, Option.elim_some, ← own]
        rfl
      · rw [lastLevel, level, Level.append_append, List.singleton_append]
      · rw [lastOuter, outer]

private theorem ends (completes : Completes state [] expr) : expr = state.level.toExpr := by
  obtain ⟨fuel, read⟩ := completes
  cases fuel with
  | zero => cases read
  | succ fuel =>
    rw [readAll, Flags.skip_nil] at read
    simp only at read
    split at read
    next =>
      cases read
      rfl
    next => cases read

/-- The text of a route is read as a row of its parts between the two anchors. -/
theorem route {tokens : List Token}
    (contained : ∀ name pattern, .parameter name pattern ∈ tokens →
      '>' ∉ name.toList ∧ Contained pattern)
    (completes : Completes {} (Matcher.sourceOf tokens).toList expr) :
    ∃ parts, Token.parts? tokens (parts.filter Expr.isGroup) = some parts ∧
      (parts.flatMap Expr.groups).filterMap Prod.snd = tokens.flatMap Token.groupNames ∧
      expr = .concat ([.look .textStart] ++ parts ++ [.look .textEnd]) := by
  have written : (Matcher.sourceOf tokens).toList =
      '^' :: (tokens.flatMap (fun token => (Matcher.tokenSource token).toList) ++ ['$']) := by
    simp [Matcher.sourceOf, List.flatMap_map]
  rw [written] at completes
  obtain ⟨first, left, stepped, later⟩ := completes.step rfl
  cases stepped
  obtain ⟨parts, between, laid, names, level, outer, later⟩ := later.tokens contained rfl
  obtain ⟨last, left, stepped, later⟩ := later.step (by rw [level]; rfl)
  have flags : between.level.flags = {} := by
    rw [level]
    rfl
  rw [readStep, flags] at stepped
  cases stepped
  refine ⟨parts, laid, names, ?_⟩
  have row : (between.push (.look .textEnd)).level =
      ({} : Level).append ([.look .textStart] ++ parts ++ [.look .textEnd]) := by
    rw [← Level.append_append, ← Level.append_append, ReadState.push, level]
    rfl
  rw [later.ends]
  exact (congrArg Level.toExpr row).trans (Level.toExpr_row _ _)

end Completes

end Regex

open Regex in
/-- If all patterns keep to their groups, the matcher has a group of its own for every
parameter, between the anchors. -/
theorem Matcher.intact_of_contained {tokens : List Token} {matcher : Matcher}
    (built : ofTokens tokens = .ok matcher)
    (contained : ∀ name pattern, .parameter name pattern ∈ tokens →
      '>' ∉ name.toList ∧ Contained pattern) : matcher.Intact tokens := by
  obtain ⟨parts, laid, _, shape⟩ := Completes.route contained ⟨_, read_of_ofTokens built⟩
  refine ⟨parts, ?_, shape⟩
  have kept : matcher.regex.expr.items.filter Expr.isGroup = parts.filter Expr.isGroup := by
    rw [shape, Expr.filter_items_concat, List.flatMap_append, List.flatMap_append, Token.items_parts laid,
      List.filter_append, List.filter_append]
    exact List.append_nil _
  rw [kept]
  exact laid

example : ∀ entry ∈ AliasTable.standard.entries.entries, Regex.Contained entry.2 := by decide +kernel

namespace Template

theorem valid_of_parse {aliases : AliasTable} {template : String} {all : List (List Token)}
    (parsed : parse aliases template = .ok all) {tokens : List Token} (member : tokens ∈ all)
    {name pattern : String} (parameter : .parameter name pattern ∈ tokens) : '>' ∉ name.toList := by
  cases cut : routes template with
  | error failure =>
    rw [parse, cut] at parsed
    cases parsed
  | ok found =>
    rw [parse, cut] at parsed
    cases parsed
    obtain ⟨route, _, rfl⟩ := List.mem_map.mp member
    unfold Template.tokens at parameter
    split at parameter
    next => simp at parameter
    next =>
      obtain ⟨piece, inside, equal⟩ := List.mem_map.mp parameter
      cases piece with
      | text chars => cases equal
      | slot written placeholder =>
        cases equal
        exact (writes_of_slot inside).isName.not_mem (by decide) (by decide)

/-- The matcher of a route whose patterns keep to their groups has one group for every
parameter between the two anchors. Every match of such a matcher reads the whole path:
the literal texts and the values of the parameters, in order, are the path. -/
theorem reads_of_captures? {aliases : AliasTable} {template : String} {all : List (List Token)}
    (parsed : parse aliases template = .ok all) {tokens : List Token} (member : tokens ∈ all)
    {matcher : Matcher} (compiled : Route.compile tokens = .ok (.dynamic matcher)) :
    ((∀ token ∈ tokens, token.Contained) → matcher.Intact tokens) ∧
      (matcher.Intact tokens →
        ∀ path params, matcher.captures? path = some params → Token.Reads tokens params path) := by
  have built : Matcher.ofTokens tokens = .ok matcher := by
    unfold Route.compile at compiled
    split at compiled
    next => cases compiled
    next =>
      cases made : Matcher.ofTokens tokens with
      | error failure =>
        rw [made] at compiled
        cases compiled
      | ok found =>
        rw [made] at compiled
        cases compiled
        rfl
  constructor
  · intro contained
    exact Matcher.intact_of_contained built fun name pattern inside =>
      ⟨valid_of_parse parsed member inside, contained _ inside⟩
  · intro intact path params captured
    exact intact.reads built captured

/-- Of two parameters the first takes as much as it can. -/
theorem reads_of_captures?_two :
    let tokens : List Token :=
      [.literal "/", .parameter "name" "[^/]+", .literal ".", .parameter "kind" "[a-zA-Z]+"]
    let params : Params := OrderedMap.ofList [("name", "a.b"), ("kind", "c")]
    ∃ matcher, Route.compile tokens = .ok (.dynamic matcher) ∧
      matcher.captures? "/a.b.c" = some params ∧ Token.Reads tokens params "/a.b.c" := by
  intro tokens params
  have parsed : parse .standard "/{name}.{kind:a}" = .ok [tokens] := by decide +kernel
  have answer : (match Route.compile tokens with
      | .ok (.dynamic matcher) => matcher.captures? "/a.b.c"
      | _ => none) = some params := by decide +kernel
  split at answer
  next matcher compiled =>
    obtain ⟨intact, reads⟩ := reads_of_captures? parsed List.mem_cons_self compiled
    have contained : ∀ token ∈ tokens, token.Contained := by decide +kernel
    exact ⟨matcher, compiled, answer, reads (intact contained) _ _ answer⟩
  next => cases answer

/-- A pattern that closes its group early: the anchor at the end stands in the other branch
only, and a path matches of which no parameter holds the rest. -/
theorem captures?_not_reads :
    let tokens : List Token := [.literal "/", .parameter "a" "x)|(?P<b>y"]
    let params : Params := OrderedMap.ofList [("a", "x")]
    parse .standard "/\x7ba:x)|(?P<b>y\x7d" = .ok [tokens] ∧
      ∃ matcher, Route.compile tokens = .ok (.dynamic matcher) ∧
        matcher.captures? "/xz" = some params ∧ ¬ Token.Reads tokens params "/xz" := by
  intro tokens params
  refine ⟨by decide +kernel, ?_⟩
  have answer : (match Route.compile tokens with
      | .ok (.dynamic matcher) => matcher.captures? "/xz"
      | _ => none) = some params := by decide +kernel
  split at answer
  next matcher compiled => exact ⟨matcher, compiled, answer, by decide +kernel⟩
  next => cases answer

end Template

end PathRouting
