import PathRouting.Proofs.BalancedBraces
import PathRouting.Proofs.OrderedMaps
import PathRouting.Proofs.RoutePieces

/-! Rendering the tokens of a route and reading them again. Rendering drops the blanks of a
placeholder and writes out its pattern; with balanced fragments that stand for themselves
it neither makes a placeholder nor takes one away, and the tokens are the same. -/

namespace PathRouting

open Placeholder

namespace AliasTable

def fragments (aliases : AliasTable) : List String :=
  aliases.entries.values.map Text.trimmed ++
    if aliases.get? "" = none then [defaultPattern] else []

/-- Every fragment has balanced braces and, where it is an alias itself, stands for itself. -/
structure Settled (aliases : AliasTable) : Prop where
  balanced : ∀ fragment ∈ aliases.fragments, Balanced 0 fragment.toList
  kept : ∀ fragment ∈ aliases.fragments, ∀ other ∈ aliases.get? fragment,
    Text.trimmed other = fragment

private theorem standard_settled : standard.Settled :=
  ⟨by decide +kernel, by decide +kernel⟩

variable {aliases : AliasTable}

private theorem trimmed_mem_fragments {name fragment : String}
    (found : aliases.get? name = some fragment) :
    Text.trimmed fragment ∈ aliases.fragments := by
  have entry := OrderedMap.get?_eq_some_iff.mp found
  exact List.mem_append_left _ (List.mem_map_of_mem (List.mem_map_of_mem (f := Prod.snd) entry))

private theorem trimmed_of_mem_fragments {fragment : String} (member : fragment ∈ aliases.fragments) :
    Text.trimmed fragment = fragment := by
  rcases List.mem_append.mp member with entry | standard
  · obtain ⟨whole, _, rfl⟩ := List.mem_map.mp entry
    exact Text.trimmed_trimmed whole
  · split at standard
    · obtain rfl := List.mem_singleton.mp standard
      decide +kernel
    · cases standard

private theorem resolve_cases (aliases : AliasTable) (pattern : Option String) :
    aliases.resolve pattern ∈ aliases.fragments ∨
      ∃ text, pattern = some text ∧ aliases.get? text = none ∧ aliases.resolve pattern = text := by
  unfold resolve
  split
  next text =>
    split
    next fragment found => exact .inl (trimmed_mem_fragments found)
    next none => exact .inr ⟨text, rfl, none, rfl⟩
  next =>
    split
    next fragment found => exact .inl (trimmed_mem_fragments found)
    next none =>
      refine .inl (List.mem_append_right _ ?_)
      rw [if_pos none]
      exact List.mem_singleton_self _

theorem Settled.resolve_fragment (settled : aliases.Settled) {fragment : String}
    (member : fragment ∈ aliases.fragments) : aliases.resolve (some fragment) = fragment := by
  unfold resolve
  simp only
  split
  next other found => exact settled.kept fragment member other found
  next => rfl

/-- A resolved pattern stands for itself. -/
theorem Settled.resolve_resolve (settled : aliases.Settled) (pattern : Option String) :
    aliases.resolve (some (aliases.resolve pattern)) = aliases.resolve pattern := by
  rcases aliases.resolve_cases pattern with member | ⟨text, rfl, none, equal⟩
  · exact settled.resolve_fragment member
  · rw [equal]
    exact equal

end AliasTable

namespace Template

variable {aliases : AliasTable}

/-- The placeholder that is read where the parameter of a placeholder is written out. -/
def renderedSlot (aliases : AliasTable) (found : Placeholder) : Placeholder :=
  ⟨found.name, some (aliases.resolve found.pattern)⟩

private theorem writes_describe (settled : aliases.Settled) {written : List Char} {found : Placeholder}
    (writes : Writes written found) :
    Writes (Token.parameter found.name (aliases.resolve found.pattern)).describe.toList
      (renderedSlot aliases found) := by
  have named : IsName found.name.toList := by
    cases writes <;> rwa [String.toList_ofList]
  have trimmed : Text.trimmed (aliases.resolve found.pattern) = aliases.resolve found.pattern ∧
      Balanced 0 (aliases.resolve found.pattern).toList := by
    rcases aliases.resolve_cases found.pattern with member | ⟨text, given, none, equal⟩
    · exact ⟨AliasTable.trimmed_of_mem_fragments member, settled.balanced _ member⟩
    · rw [equal]
      cases writes with
      | named => cases given
      | @patterned before name after pattern blankBefore valid blankAfter balanced =>
        cases given
        rw [Text.trimmed, String.toList_ofList, Text.trim_trim]
        exact ⟨rfl, (balanced_trim_iff pattern).mpr balanced⟩
  have form := Writes.compact named trimmed.2
  rw [String.ofList_toList] at form
  have same : String.ofList (Text.trim (aliases.resolve found.pattern).toList) =
      aliases.resolve found.pattern := trimmed.1
  rw [same] at form
  simpa [Token.describe, renderedSlot] using form

def rendered (aliases : AliasTable) (route : List Char) : List Char :=
  described aliases (pieces route)

private theorem rendered_nil : rendered aliases [] = [] := by
  rw [rendered, pieces_nil]
  rfl

private theorem rendered_placeholder {written : List Char} {found : Placeholder}
    (writes : Writes written found) (after : List Char) :
    rendered aliases (written ++ after) =
      (Token.parameter found.name (aliases.resolve found.pattern)).describe.toList ++
        rendered aliases after := by
  rw [rendered, pieces_placeholder writes, described_cons]
  rfl

private theorem described_consText (c : Char) (found : List Piece) :
    described aliases (consText c found) = c :: described aliases found := by
  unfold consText
  split
  · rw [described_cons, described_cons]
    simp [Piece.token, Token.describe]
  · rw [described_cons]
    simp [Piece.token, Token.describe]

private theorem rendered_char {c : Char} {rest : List Char} (nothing : scan? (c :: rest) = none) :
    rendered aliases (c :: rest) = c :: rendered aliases rest := by
  rw [rendered, pieces_char nothing, described_consText]
  rfl

/-- The search for a closing brace ends in a rendered route exactly if it ends in the route:
rendering changes only text with balanced braces. -/
theorem closing?_rendered (settled : aliases.Settled) (route : List Char) :
    ∀ depth, (closing? depth (rendered aliases route)).isSome = (closing? depth route).isSome := by
  induction route using pieces_induction with
  | nil => exact fun _ => by rw [rendered_nil]
  | placeholder written found after writes ih =>
    intro depth
    rw [rendered_placeholder writes, closing?_isSome_append (writes_describe settled writes).balanced,
      closing?_isSome_append writes.balanced, ih]
  | char c rest nothing ih =>
    intro depth
    rw [rendered_char nothing]
    unfold closing?
    split
    · rw [Option.isSome_map, Option.isSome_map, ih]
    · split
      · cases depth with
        | zero => rfl
        | succ depth => rw [Option.isSome_map, Option.isSome_map, ih]
      · rw [Option.isSome_map, Option.isSome_map, ih]

private theorem open_not_mem_name {before name after : List Char} {last : Char}
    (blankBefore : ∀ c ∈ before, Text.isBlank c = true) (valid : IsName name)
    (blankAfter : ∀ c ∈ after, Text.isBlank c = true) (other : last ≠ '{') :
    '{' ∉ before ++ (name ++ (after ++ [last])) := by
  have noBlank : Text.isBlank '{' = false := by decide
  simp only [List.mem_append, List.mem_singleton, not_or]
  exact ⟨fun inside => by simp [blankBefore _ inside] at noBlank,
    valid.not_mem (by decide) (by decide),
    fun inside => by simp [blankAfter _ inside] at noBlank, other.symm⟩

private theorem rendered_start {start later route : List Char} (opens : '{' ∉ start)
    (whole : rendered aliases route = start ++ later) :
    ∃ rest, route = start ++ rest ∧ rendered aliases rest = later := by
  induction start generalizing route with
  | nil => exact ⟨route, rfl, whole⟩
  | cons c start ih =>
    induction route using pieces_induction with
    | nil =>
      rw [rendered_nil] at whole
      cases whole
    | placeholder written found after writes _ =>
      rw [rendered_placeholder writes, Token.describe] at whole
      have first : '{' = c := by simpa using congrArg List.head? whole
      exact absurd (first ▸ List.mem_cons_self) opens
    | char d rest nothing _ =>
      rw [rendered_char nothing] at whole
      obtain ⟨rfl, later⟩ := List.cons.inj whole
      obtain ⟨rest, rfl, same⟩ := ih (fun inside => opens (List.mem_cons_of_mem _ inside)) later
      exact ⟨rest, rfl, same⟩

/-- A brace that opens no placeholder in a route opens none in the rendered route. -/
theorem scan?_rendered (settled : aliases.Settled) {c : Char} {rest : List Char}
    (nothing : scan? (c :: rest) = none) : scan? (c :: rendered aliases rest) = none := by
  cases scanned : scan? (c :: rendered aliases rest) with
  | none => rfl
  | some result =>
    obtain ⟨found, tail⟩ := result
    exfalso
    obtain ⟨written, writes, whole⟩ := scan?_eq_some_iff.mp scanned
    have absent : ∀ {left placeholder}, scan? (c :: rest) ≠ some (placeholder, left) :=
      fun equal => by cases nothing.symm.trans equal
    cases writes with
    | @named before name after blankBefore valid blankAfter =>
      obtain ⟨rfl, later⟩ := List.cons.inj whole
      obtain ⟨rest, rfl, _⟩ :=
        rendered_start (open_not_mem_name blankBefore valid blankAfter (by decide)) later
      exact absent (scan?_eq_some_iff.mpr ⟨_, .named blankBefore valid blankAfter, rfl⟩)
    | @patterned before name after pattern blankBefore valid blankAfter balanced =>
      obtain ⟨rfl, later⟩ := List.cons.inj whole
      have split : before ++ (name ++ (after ++ ':' :: (pattern ++ ['}']))) ++ tail =
          before ++ (name ++ (after ++ [':'])) ++ (pattern ++ '}' :: tail) := by simp
      obtain ⟨rest, rfl, same⟩ := rendered_start
        (open_not_mem_name blankBefore valid blankAfter (by decide)) (later.trans split)
      have closed : (closing? 0 rest).isSome = true := by
        rw [← closing?_rendered settled, same, closing?_eq_some_iff.mpr ⟨rfl, balanced⟩]
        rfl
      obtain ⟨⟨inner, left⟩, closed⟩ := Option.isSome_iff_exists.mp closed
      obtain ⟨rfl, inside⟩ := closing?_eq_some_iff.mp closed
      have whole : '{' :: (before ++ (name ++ (after ++ [':'])) ++ (inner ++ '}' :: left)) =
          '{' :: (before ++ (name ++ (after ++ ':' :: (inner ++ ['}'])))) ++ left := by simp
      exact absent (scan?_eq_some_iff.mpr
        ⟨_, .patterned blankBefore valid blankAfter inside, whole⟩)

def Piece.rendered (aliases : AliasTable) : Piece → Piece
  | text chars => text chars
  | slot _ found =>
    slot (Token.parameter found.name (aliases.resolve found.pattern)).describe.toList
      (renderedSlot aliases found)

private theorem map_rendered_consText (c : Char) (found : List Piece) :
    (consText c found).map (Piece.rendered aliases) =
      consText c (found.map (Piece.rendered aliases)) := by
  cases found with
  | nil => rfl
  | cons piece later => cases piece <;> rfl

/-- A rendered route is cut at the same places as the route. -/
theorem pieces_rendered (settled : aliases.Settled) (route : List Char) :
    pieces (rendered aliases route) = (pieces route).map (Piece.rendered aliases) := by
  induction route using pieces_induction with
  | nil => rw [rendered_nil, pieces_nil, List.map_nil]
  | placeholder written found after writes ih =>
    rw [rendered_placeholder writes, pieces_placeholder (writes_describe settled writes),
      pieces_placeholder writes, ih]
    rfl
  | char c rest nothing ih =>
    rw [rendered_char nothing, pieces_char (scan?_rendered settled nothing), pieces_char nothing, ih,
      map_rendered_consText]

private theorem token_rendered (settled : aliases.Settled) (piece : Piece) :
    (piece.rendered aliases).token aliases = piece.token aliases := by
  cases piece with
  | text chars => rfl
  | slot written found => exact congrArg (Token.parameter found.name) (settled.resolve_resolve _)

/-- Rendering the tokens of a route and cutting the text again gives the same tokens. -/
theorem tokens_describeAll_tokens (settled : aliases.Settled) (route : String) :
    tokens aliases (Token.describeAll (tokens aliases route.toList)).toList =
      tokens aliases route.toList := by
  have text : (Token.describeAll (tokens aliases route.toList)).toList =
      rendered aliases route.toList := by
    rw [describeAll_tokens]
    rfl
  rw [text]
  by_cases empty : route.toList = []
  · rw [empty, rendered_nil]
  · have cut := pieces_rendered settled route.toList
    have filled : rendered aliases route.toList ≠ [] := by
      intro none
      rw [none, pieces_nil] at cut
      exact pieces_ne_nil empty (List.map_eq_nil_iff.mp cut.symm)
    rw [tokens_of_ne_nil aliases filled, tokens_of_ne_nil aliases empty, cut, List.map_map]
    exact List.map_congr_left fun piece _ => token_rendered settled piece

/-- An unclosed pattern around a placeholder, blanks, an alias and a brace that is text. -/
theorem tokens_describeAll_tokens_unclosed :
    let route := "/\x7ba:\x7b\x7b b : i \x7d\x7b/\x7bc\x7d"
    let text := "/\x7ba:\x7b\x7bb:\\d+\x7d\x7b/\x7bc:[^/]+\x7d"
    let found := [Token.literal "/\x7ba:\x7b", .parameter "b" "\\d+", .literal "\x7b/",
      .parameter "c" "[^/]+"]
    AliasTable.standard.Settled ∧ tokens .standard route.toList = found ∧
      Token.describeAll found = text ∧ tokens .standard text.toList = found := by
  intro route text found
  have cut : tokens .standard route.toList = found := by decide +kernel
  have described : Token.describeAll found = text := by decide +kernel
  have again := tokens_describeAll_tokens AliasTable.standard_settled route
  rw [cut, described] at again
  exact ⟨AliasTable.standard_settled, cut, described, again⟩

end Template

end PathRouting
