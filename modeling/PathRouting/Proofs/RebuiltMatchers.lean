import PathRouting.Proofs.ContainedPatterns
import PathRouting.Proofs.StoredTables

/-! Matchers that are read back from their texts. The text tells everything about a matcher but
which of its named groups are parameters of the route: a pattern may name groups of its
own, and a match has values for these as well. -/

namespace PathRouting

open Regex

namespace Token

private theorem length_names_le (tokens : List Token) :
    (tokens.filterMap name?).length ≤ (tokens.flatMap groupNames).length := by
  induction tokens with
  | nil => exact Nat.le_refl _
  | cons token tokens ih =>
    cases token with
    | literal text => exact ih
    | parameter name pattern =>
      simp only [name?, List.filterMap_cons, List.flatMap_cons, List.length_append, List.length_cons,
        groupNames]
      omega

private theorem groupNames_eq_iff {tokens : List Token} :
    tokens.flatMap groupNames = tokens.filterMap name? ↔
      ∀ token ∈ tokens, token.groupNames = token.name?.toList := by
  induction tokens with
  | nil => simp
  | cons token tokens ih =>
    rw [List.forall_mem_cons, ← ih, List.flatMap_cons]
    cases token with
    | literal text => simp [groupNames, name?, List.filterMap_cons]
    | parameter name pattern =>
      have shorter := length_names_le tokens
      simp only [groupNames, name?, List.filterMap_cons, List.cons_append, List.cons.injEq, true_and,
        Option.toList_some]
      constructor
      · intro same
        have lengths := congrArg List.length same
        rw [List.length_append] at lengths
        have none : (body? pattern).elim [] (fun body => body.groups.filterMap Prod.snd) = [] :=
          List.length_eq_zero_iff.mp (by omega)
        rw [none, List.nil_append] at same
        exact ⟨none, same⟩
      · rintro ⟨none, same⟩
        rw [none, same, List.nil_append]

end Token

namespace Matcher

/-- The named groups of the expression are those of the parameters, in order. -/
def NamesParameters (matcher : Matcher) (tokens : List Token) : Prop :=
  matcher.regex.namedGroups.map Prod.snd = tokens.filterMap Token.name?

variable {tokens : List Token} {matcher : Matcher}

private theorem names_of_ofTokens (built : ofTokens tokens = .ok matcher) :
    matcher.names = tokens.filterMap Token.name? := by
  simp only [ofTokens] at built
  split at built
  · cases built
  · obtain ⟨_, _, rfl⟩ := exists_of_map_ok built
    rfl

private theorem ofSource_source (built : ofTokens tokens = .ok matcher) :
    ofSource matcher.source = .ok matcher.reread := by
  obtain ⟨again, read, same⟩ := Route.readable_ofTokens built
  exact ofSource_reread read same

private theorem keys_captures?_subset {path : String} {params : Params}
    (captured : matcher.captures? path = some params) : params.keys ⊆ matcher.reread.names := by
  obtain ⟨found, matched, rfl⟩ := Option.map_eq_some_iff.mp captured
  intro name member
  rw [OrderedMap.keys_ofList, List.mem_eraseDups] at member
  rw [reread, names_namedGroups]
  exact (names_captures? matched).subset member

/-- The named groups of a route whose patterns keep to their groups are those of its tokens. -/
theorem namedGroups_of_contained (built : ofTokens tokens = .ok matcher)
    (contained : ∀ name pattern, .parameter name pattern ∈ tokens →
      '>' ∉ name.toList ∧ Regex.Contained pattern) :
    matcher.regex.namedGroups.map Prod.snd = tokens.flatMap Token.groupNames := by
  obtain ⟨parts, _, names, shape⟩ := Completes.route contained ⟨_, read_of_ofTokens built⟩
  have anchors : ([Expr.look .textStart] ++ parts ++ [Expr.look .textEnd]).flatMap Expr.groups =
      parts.flatMap Expr.groups := by
    simp [Expr.groups]
  rw [names_namedGroups, shape, Expr.groups_concat, anchors, names]

end Matcher

namespace Template

variable {aliases : AliasTable} {template : String} {all : List (List Token)} {tokens : List Token}
  {matcher : Matcher}

/-- If all patterns keep to their groups, the parameters alone have names exactly if no
pattern names a group of its own. -/
theorem namesParameters_iff (parsed : parse aliases template = .ok all) (member : tokens ∈ all)
    (built : Matcher.ofTokens tokens = .ok matcher) (contained : ∀ token ∈ tokens, token.Contained) :
    matcher.NamesParameters tokens ↔ ∀ token ∈ tokens, token.groupNames = token.name?.toList := by
  have inside : ∀ name pattern, .parameter name pattern ∈ tokens →
      '>' ∉ name.toList ∧ Regex.Contained pattern := fun name pattern inside =>
    ⟨valid_of_parse parsed member inside, contained _ inside⟩
  rw [Matcher.NamesParameters, Matcher.namedGroups_of_contained built inside, Token.groupNames_eq_iff]

/-- The matcher of a route is rebuilt from its text, with the same text and the same matches,
and all values of a match stand under names of the rebuilt matcher. Both matchers have the same
names, if only the parameters of the route have named groups. This is so if every
pattern keeps to its group and names no group of its own. -/
theorem ofSource_matcher (parsed : parse aliases template = .ok all) (member : tokens ∈ all)
    (built : Matcher.ofTokens tokens = .ok matcher) :
    ∃ rebuilt, Matcher.ofSource matcher.source = .ok rebuilt ∧ rebuilt.source = matcher.source ∧
      (∀ path, rebuilt.captures? path = matcher.captures? path) ∧
      (∀ path params, rebuilt.captures? path = some params → params.keys ⊆ rebuilt.names) ∧
      (matcher.NamesParameters tokens → rebuilt.names = matcher.names ∧
        ∀ path params, matcher.captures? path = some params → params.keys ⊆ matcher.names) ∧
      ((∀ token ∈ tokens, token.Contained ∧ token.groupNames = token.name?.toList) →
        matcher.NamesParameters tokens) := by
  have subset : ∀ path params, matcher.captures? path = some params →
      params.keys ⊆ matcher.reread.names := fun _ _ => Matcher.keys_captures?_subset
  refine ⟨matcher.reread, Matcher.ofSource_source built, rfl, fun _ => rfl, subset, ?_, ?_⟩
  · intro parameters
    have names : matcher.reread.names = matcher.names :=
      parameters.trans (Matcher.names_of_ofTokens built).symm
    exact ⟨names, names ▸ subset⟩
  · intro only
    exact (namesParameters_iff parsed member built fun token inside => (only token inside).1).mpr
      fun token inside => (only token inside).2

/-- Groups without names in a pattern do not show in the names of the rebuilt matcher. -/
theorem ofSource_matcher_unnamed :
    let tokens : List Token :=
      [.literal "/file/", .parameter "name" "([a-z]+)\\.(txt|md)"]
    ∃ matcher rebuilt, Matcher.ofTokens tokens = .ok matcher ∧
      Matcher.ofSource matcher.source = .ok rebuilt ∧ rebuilt.names = matcher.names ∧
      rebuilt.captures? "/file/a.md" = some (OrderedMap.ofList [("name", "a.md")]) := by
  intro tokens
  have parsed : parse .standard "/file/\x7bname:([a-z]+)\\.(txt|md)\x7d" = .ok [tokens] := by
    decide +kernel
  have answer : (Matcher.ofTokens tokens).map (fun matcher => matcher.captures? "/file/a.md") =
      .ok (some (OrderedMap.ofList [("name", "a.md")])) := by decide +kernel
  obtain ⟨matcher, built, captured⟩ := exists_of_map_ok answer
  obtain ⟨rebuilt, read, _, captures, _, names, only⟩ :=
    ofSource_matcher parsed List.mem_cons_self built
  have unnamed : ∀ token ∈ tokens, token.Contained ∧ token.groupNames = token.name?.toList := by
    decide +kernel
  exact ⟨matcher, rebuilt, built, read, (names (only unnamed)).1, (captures _).trans captured⟩

/-- A pattern that names a group of its own: the rebuilt matcher counts this name as its own,
and matches have a value for a name that the matcher does not know. -/
theorem ofSource_matcher_nested :
    let tokens : List Token := [.literal "/", .parameter "a" "(?P<b>x)"]
    parse .standard "/\x7ba:(?P<b>x)\x7d" = .ok [tokens] ∧
      ∃ matcher rebuilt params, Matcher.ofTokens tokens = .ok matcher ∧
        Matcher.ofSource matcher.source = .ok rebuilt ∧ rebuilt.names ≠ matcher.names ∧
        matcher.captures? "/x" = some params ∧ ¬ params.keys ⊆ matcher.names := by
  intro tokens
  refine ⟨by decide +kernel, ?_⟩
  have answer : (Matcher.ofTokens tokens).map (fun matcher =>
      (matcher.captures? "/x").map fun params => (matcher.reread.names, matcher.names, params.keys)) =
        .ok (some (["a", "b"], ["a"], ["a", "b"])) := by decide +kernel
  obtain ⟨matcher, built, found⟩ := exists_of_map_ok answer
  obtain ⟨params, captured, equal⟩ := Option.map_eq_some_iff.mp found
  obtain ⟨reread, rest⟩ := Prod.mk.inj equal
  obtain ⟨names, keys⟩ := Prod.mk.inj rest
  refine ⟨matcher, matcher.reread, params, built, Matcher.ofSource_source built, ?_, captured, ?_⟩
  · rw [reread, names]
    decide
  · rw [keys, names]
    decide

end Template

end PathRouting
