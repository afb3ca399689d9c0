import PathRouting.Config.Build
import PathRouting.Proofs.BalancedBraces
import PathRouting.Proofs.OrderedMaps
import PathRouting.Proofs.ReportedProblems
import PathRouting.Proofs.RoutePieces

/-! Aliases that a route can name. The pattern of a placeholder is trimmed and has balanced
braces, so an alias can be named exactly if it is such a text. Checking a configuration
looks at white space only: an alias with unbalanced braces passes, and no route names it. -/

namespace PathRouting

open Placeholder Template

namespace AliasTable

/-- The alias is the pattern of some placeholder of some route. -/
def Nameable (key : String) : Prop :=
  ∃ route written found, .slot written found ∈ pieces route ∧ found.pattern = some key

def routeNaming (key : String) : List Char := '{' :: 'x' :: ':' :: (key.toList ++ ['}'])

private theorem writes_routeNaming_iff {key : String} {found : Placeholder} :
    Writes (routeNaming key) found ↔
      Balanced 0 key.toList ∧ found = ⟨"x", some (Text.trimmed key)⟩ := by
  have read : scan? (routeNaming key) = (closing? 0 (key.toList ++ ['}'])).map fun found =>
      (⟨"x", some (String.ofList (Text.trim found.1))⟩, found.2) := rfl
  constructor
  · intro writes
    have scanned : scan? (routeNaming key) = some (found, []) :=
      scan?_eq_some_iff.mpr ⟨_, writes, (List.append_nil _).symm⟩
    obtain ⟨⟨pattern, rest⟩, closed, equal⟩ := Option.map_eq_some_iff.mp (read.symm.trans scanned)
    cases equal
    obtain ⟨whole, balanced⟩ := closing?_eq_some_iff.mp closed
    obtain rfl := List.append_cancel_right whole
    exact ⟨balanced, rfl⟩
  · rintro ⟨balanced, rfl⟩
    have named : IsName ['x'] := ⟨'x', [], rfl, rfl, by simp⟩
    exact .compact named balanced

private theorem pieces_routeNaming {key : String} (balanced : Balanced 0 key.toList) :
    pieces (routeNaming key) = [.slot (routeNaming key) ⟨"x", some (Text.trimmed key)⟩] := by
  have cut := pieces_placeholder (writes_routeNaming_iff.mpr ⟨balanced, rfl⟩) []
  rwa [List.append_nil, pieces_nil] at cut

/-- The pattern of a placeholder is trimmed and balanced, and any such text is a pattern. -/
theorem nameable_iff (key : String) :
    Nameable key ↔ Text.trimmed key = key ∧ Balanced 0 key.toList := by
  constructor
  · rintro ⟨route, written, found, member, given⟩
    cases writes_of_slot member with
    | named => cases given
    | @patterned before name after pattern blankBefore valid blankAfter balanced =>
      cases given
      rw [Text.trimmed, String.toList_ofList, Text.trim_trim]
      exact ⟨rfl, (balanced_trim_iff pattern).mpr balanced⟩
  · rintro ⟨trimmed, balanced⟩
    refine ⟨routeNaming key, routeNaming key, ⟨"x", some (Text.trimmed key)⟩, ?_, congrArg some trimmed⟩
    rw [pieces_routeNaming balanced]
    exact List.mem_singleton_self _

end AliasTable

namespace Config

private theorem untrimmedAlias_mem_problems_iff (config : Config) (key : String) :
    .untrimmedAlias key ∈ config.problems ↔
      key ∈ config.aliases.keys ∧ Text.trimmed key ≠ key := by
  have reports : ∀ rule : Rule, rule.problem = .untrimmedAlias key ↔ rule = .aliasTrimmed key := by
    intro rule
    cases rule <;> simp [Rule.problem]
  have listed : .aliasTrimmed key ∈ config.rules ↔ key ∈ config.aliases.keys := by
    simp [rules, RouteEntry.outerRules, RouteEntry.rules, Group.rules, FallbackEntry.rules, methodRules]
  rw [problems_eq_violations, violations, List.mem_map]
  simp only [reports, exists_eq_right, List.mem_filter, listed, decide_eq_true_eq]
  rfl

private theorem get?_allAliases (config : Config) (key : String) :
    config.allAliases.get? key =
      (config.aliases.get? key).or (AliasTable.standard.get? key) :=
  OrderedMap.get?_insertAll_entries _ _ _

/-- A route can name an alias of a configuration exactly if the alias is not reported and its
braces are balanced. Among the aliases that are not reported, those with balanced braces
are the ones that give their fragment to the placeholder that names them. -/
theorem nameable_iff_not_reported (config : Config) {key fragment : String}
    (entry : config.aliases.get? key = some fragment) :
    (AliasTable.Nameable key ↔
      .untrimmedAlias key ∉ config.problems ∧ Balanced 0 key.toList) ∧
    (.untrimmedAlias key ∉ config.problems →
      (tokens config.allAliases (AliasTable.routeNaming key) =
          [.parameter "x" (Text.trimmed fragment)] ↔
        Balanced 0 key.toList)) := by
  have present : key ∈ config.aliases.keys := by
    rw [← OrderedMap.get?_isSome_iff, entry]
    rfl
  have reported : .untrimmedAlias key ∉ config.problems ↔ Text.trimmed key = key := by
    rw [untrimmedAlias_mem_problems_iff, and_iff_right present, ne_eq, not_not]
  refine ⟨by rw [AliasTable.nameable_iff, reported], fun clear => ⟨fun cut => ?_, fun balanced => ?_⟩⟩
  · have filled : AliasTable.routeNaming key ≠ [] := by simp [AliasTable.routeNaming]
    rw [tokens_of_ne_nil _ filled] at cut
    obtain ⟨piece, alone, token⟩ := List.map_eq_singleton_iff.mp cut
    cases piece with
    | text chars => cases token
    | slot written found =>
      have whole := chars_pieces (AliasTable.routeNaming key)
      rw [alone, List.flatMap_singleton, Piece.chars] at whole
      have writes : Writes written found := writes_of_slot (alone ▸ List.mem_singleton_self _)
      rw [whole] at writes
      exact (AliasTable.writes_routeNaming_iff.mp writes).1
  · have named : config.allAliases.get? key = some fragment := by
      rw [get?_allAliases, entry]
      rfl
    have trimmed := reported.mp clear
    rw [tokens, AliasTable.pieces_routeNaming balanced]
    simp only [List.map_singleton, Piece.token, trimmed, AliasTable.resolve, named]

/-- An alias with balanced braces and a fragment with white space around it. -/
theorem nameable_iff_not_reported_braces :
    let key := "hex\x7b2\x7d"
    let config : Config := { aliases := OrderedMap.ofList [("n", "1"), (key, " [0-9a-f]\x7b2\x7d ")] }
    config.aliases.get? key = some " [0-9a-f]\x7b2\x7d " ∧ .untrimmedAlias key ∉ config.problems ∧
      AliasTable.Nameable key ∧
      tokens config.allAliases (AliasTable.routeNaming key) =
        [.parameter "x" "[0-9a-f]\x7b2\x7d"] := by
  intro key config
  have entry : config.aliases.get? key = some " [0-9a-f]\x7b2\x7d " := by decide +kernel
  have clear : .untrimmedAlias key ∉ config.problems := by decide +kernel
  have balanced : Balanced 0 key.toList := by decide +kernel
  have trimmed : Text.trimmed " [0-9a-f]\x7b2\x7d " = "[0-9a-f]\x7b2\x7d" := by decide +kernel
  obtain ⟨nameable, gives⟩ := nameable_iff_not_reported config entry
  rw [trimmed] at gives
  exact ⟨entry, clear, nameable.mpr ⟨clear, balanced⟩, (gives clear).mpr balanced⟩

/-- An opening brace as an alias is not reported, but no route can name it, and the route
that should is one literal. -/
theorem unreported_not_nameable :
    let config : Config := { aliases := OrderedMap.ofList [("\x7b", "y")] }
    config.problems = [] ∧ ¬ AliasTable.Nameable "\x7b" ∧
      tokens config.allAliases (AliasTable.routeNaming "\x7b") = [.literal "\x7bx:\x7b\x7d"] := by
  refine ⟨by decide +kernel, ?_, by decide +kernel⟩
  rw [AliasTable.nameable_iff]
  decide +kernel

end Config

end PathRouting
