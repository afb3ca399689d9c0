import PathRouting.Proofs.GroupNumbering
import PathRouting.Proofs.OrderedMaps
import PathRouting.Proofs.RegexPassages

/-! Matches as readings of the path. If every parameter of a route has kept a group of
its own between the two anchors, a match cuts the whole path into the literal texts
of the route and the values of its parameters, in order. A pattern that closes its
group early can break this. -/

namespace PathRouting

namespace Token

def value? (params : Params) : Token → Option String
  | literal text => some text
  | parameter name _ => params.get? name

/-- Every parameter has a value, and the path is made of these values and the literal
texts, in the order of the tokens. -/
def Reads (tokens : List Token) (params : Params) (path : String) : Prop :=
  ∃ values ∈ tokens.mapM (value? params), path = String.join values

instance (tokens : List Token) (params : Params) (path : String) :
    Decidable (Reads tokens params path) :=
  inferInstanceAs (Decidable (∃ values ∈ tokens.mapM _, _))

def parts? : List Token → List Regex.Expr → Option (List Regex.Expr)
  | [], [] => some []
  | literal text :: tokens, groups =>
    (parts? tokens groups).map (text.toList.map (fun c => .literal [c]) ++ ·)
  | parameter name _ :: tokens, .group index found body :: groups =>
    if found = some name then (parts? tokens groups).map (.group index found body :: ·) else none
  | _, _ => none

end Token

def Regex.Expr.isGroup : Regex.Expr → Bool
  | group .. => true
  | _ => false

/-- The expression of a matcher is a row of the literals of the tokens and one group for
every parameter, between the two anchors. -/
def Matcher.Intact (matcher : Matcher) (tokens : List Token) : Prop :=
  ∃ parts ∈ Token.parts? tokens (matcher.regex.expr.items.filter Regex.Expr.isGroup),
    matcher.regex.expr = .concat ([.look .textStart] ++ parts ++ [.look .textEnd])

instance (matcher : Matcher) (tokens : List Token) : Decidable (matcher.Intact tokens) :=
  inferInstanceAs (Decidable (∃ parts ∈ Token.parts? tokens _, _))

namespace Token

private theorem parts?_parameter {name pattern : String} {tokens : List Token}
    {groups parts : List Regex.Expr}
    (laid : parts? (parameter name pattern :: tokens) groups = some parts) :
    ∃ index body rest later, groups = .group index (some name) body :: rest ∧
      parts? tokens rest = some later ∧ parts = .group index (some name) body :: later := by
  unfold parts? at laid
  split at laid
  next equal => cases equal
  next equal => cases equal
  next equal =>
    cases equal
    split at laid
    next same =>
      obtain ⟨later, laidLater, rfl⟩ := Option.map_eq_some_iff.mp laid
      exact ⟨_, _, _, later, by rw [same], laidLater, by rw [same]⟩
    next => cases laid
  next => cases laid

theorem items_parts {tokens : List Token} {groups parts : List Regex.Expr}
    (laid : parts? tokens groups = some parts) : parts.flatMap Regex.Expr.items = parts := by
  induction tokens generalizing groups parts with
  | nil =>
    cases groups with
    | nil =>
      cases laid
      rfl
    | cons group groups => cases laid
  | cons token tokens ih =>
    cases token with
    | literal text =>
      obtain ⟨later, laidLater, rfl⟩ := Option.map_eq_some_iff.mp laid
      rw [List.flatMap_append, ih laidLater, List.flatMap_map]
      simp only [Regex.Expr.items, List.map_eq_flatMap]
    | parameter name pattern =>
      obtain ⟨index, body, rest, later, rfl, laidLater, rfl⟩ := parts?_parameter laid
      rw [List.flatMap_cons, ih laidLater]
      rfl

end Token

namespace Regex.Expr

private theorem passesRow_literals {text chars : List Char} {rest : List Expr} {start stop : Nat}
    {before after : Marks}
    (passed : PassesRow text (chars.map (fun c => literal [c]) ++ rest) start before stop after) :
    text.drop start = chars ++ text.drop (start + chars.length) ∧
      PassesRow text rest (start + chars.length) before stop after := by
  induction chars generalizing start before with
  | nil => exact ⟨rfl, passed⟩
  | cons c chars ih =>
    obtain ⟨position, between, ⟨⟨tail, whole⟩, rfl, rfl⟩, later⟩ := passed
    obtain ⟨written, further⟩ := ih later
    have next : text.drop (start + 1) = tail := by
      rw [← List.drop_drop, ← whole]
      rfl
    rw [List.length_cons, Nat.add_comm chars.length, ← Nat.add_assoc]
    refine ⟨?_, further⟩
    rw [← whole, ← next, List.cons_append, List.nil_append]
    exact congrArg (c :: ·) written

end Regex.Expr

open Regex Regex.Expr

/-- What a token stands for in a text that a match has gone through. -/
def Token.Stands (text : List Char) (marks : Marks) (groups : List (Nat × Option String)) :
    Token → List Char → Prop
  | literal written, value => value = written.toList
  | parameter name _, value =>
    ∃ index, (index, some name) ∈ groups ∧ marks.text? index text = some value

/-- A match that passes the parts of the tokens up to the end cuts the text into what the
tokens stand for. -/
theorem Token.stands_of_passes {text : List Char} {known : List (Nat × Option String)}
    {tokens : List Token} {found parts : List Expr} {start stop : Nat} {before after : Marks}
    (laid : parts? tokens found = some parts)
    (passed : PassesRow text (parts ++ [.look .textEnd]) start before stop after)
    (distinct : (parts.flatMap indices).Nodup)
    (listed : ∀ group ∈ parts.flatMap groups, group ∈ known) :
    ∃ values, text.drop start = values.flatten ∧
      List.Forall₂ (Stands text after known) tokens values := by
  induction tokens generalizing found parts start before with
  | nil =>
    cases found with
    | cons group found => cases laid
    | nil =>
      cases laid
      obtain ⟨position, between, ⟨ended, _, _⟩, _⟩ := passed
      refine ⟨[], ?_, .nil⟩
      have none : text[start]? = none := by simpa [Look.holds, Program.placeAt] using ended
      simpa using none
  | cons token tokens ih =>
    cases token with
    | literal written =>
      obtain ⟨later, laidLater, rfl⟩ := Option.map_eq_some_iff.mp laid
      rw [List.append_assoc] at passed
      obtain ⟨whole, rest⟩ := passesRow_literals passed
      have without : (written.toList.map fun c => Expr.literal [c]).flatMap groups = [] := by
        simp [groups]
      have numbers : (written.toList.map fun c => Expr.literal [c]).flatMap indices = [] := by
        simp [indices, groups]
      rw [List.flatMap_append, numbers, List.nil_append] at distinct
      rw [List.flatMap_append, without, List.nil_append] at listed
      obtain ⟨values, cut, stands⟩ := ih laidLater rest distinct listed
      exact ⟨written.toList :: values, by rw [whole, cut, List.flatten_cons], .cons rfl stands⟩
    | parameter name pattern =>
      obtain ⟨index, body, found, later, rfl, laidLater, rfl⟩ := parts?_parameter laid
      rw [List.cons_append] at passed
      obtain ⟨position, between, first, rest⟩ := passed
      rw [List.flatMap_cons, indices, groups, List.map_cons, List.cons_append,
        List.nodup_cons, List.mem_append, not_or] at distinct
      obtain ⟨⟨outside, apart⟩, others⟩ := distinct
      obtain ⟨values, cut, stands⟩ := ih laidLater rest others.of_append_right
        fun group member => listed group (List.mem_append_right _ member)
      have ended : (later ++ [Expr.look .textEnd]).flatMap indices = later.flatMap indices := by
        simp [indices, groups]
      -- no other part has the number of this group, so its marks stay the last ones
      have value := text?_of_passes first rest outside (by rwa [ended])
      have known := listed (index, some name) (List.mem_append_left _ List.mem_cons_self)
      refine ⟨_ :: values, ?_, .cons ⟨index, known, value⟩ stands⟩
      have forward : start + (position - start) = position := Nat.add_sub_cancel' first.1
      have tail : text.drop position = (text.drop start).drop (position - start) := by
        rw [List.drop_drop, forward]
      rw [List.flatten_cons, ← cut, tail, List.take_append_drop]

theorem Regex.names_namedGroups (regex : Regex) :
    regex.namedGroups.map Prod.snd = regex.expr.groups.filterMap Prod.snd := by
  rw [namedGroups, List.map_filterMap]
  apply List.filterMap_congr
  rintro ⟨index, name⟩ _
  cases name <;> rfl

theorem Regex.names_captures? {regex : Regex} {text : String} {found : List (String × String)}
    (captured : regex.captures? text = some found) :
    (found.map Prod.fst).Sublist (regex.expr.groups.filterMap Prod.snd) := by
  obtain ⟨marks, _, rfl⟩ := Option.map_eq_some_iff.mp captured
  rw [← names_namedGroups]
  induction regex.namedGroups with
  | nil => exact List.Sublist.refl _
  | cons group groups ih =>
    obtain ⟨index, name⟩ := group
    cases value : marks.text? index text.toList with
    | none =>
      simp only [List.filterMap_cons, value]
      exact ih.cons _
    | some found =>
      simp only [List.filterMap_cons, value]
      exact ih.cons_cons _

/-- The value of a named group is the text that the match has marked for it. -/
theorem Matcher.get?_of_captures? {matcher : Matcher} {path : String} {params : Params}
    (distinct : (matcher.regex.expr.groups.filterMap Prod.snd).Nodup)
    (captured : matcher.captures? path = some params) :
    ∃ marks, matcher.regex.expr.program.find? path.toList = some marks ∧
      ∀ index name value, (index, some name) ∈ matcher.regex.expr.groups →
        marks.text? index path.toList = some value → params.get? name = some (String.ofList value) := by
  obtain ⟨found, matched, rfl⟩ := Option.map_eq_some_iff.mp captured
  have fewer := Regex.names_captures? matched
  obtain ⟨marks, search, rfl⟩ := Option.map_eq_some_iff.mp matched
  refine ⟨marks, matcher.regex.program_eq ▸ search, ?_⟩
  intro index name value member text
  have named : (index, name) ∈ matcher.regex.namedGroups :=
    List.mem_filterMap.mpr ⟨(index, some name), member, rfl⟩
  rw [OrderedMap.get?_eq_some_iff, OrderedMap.entries_ofList (distinct.sublist fewer)]
  exact List.mem_filterMap.mpr ⟨(index, name), named, by simp only [text, Option.map_some]⟩

theorem Token.reads_of_stands {text : List Char} {marks : Marks} {groups : List (Nat × Option String)}
    {params : Params} {tokens : List Token} {values : List (List Char)}
    (stands : List.Forall₂ (Stands text marks groups) tokens values)
    (known : ∀ index name value, (index, some name) ∈ groups →
      marks.text? index text = some value → params.get? name = some (String.ofList value)) :
    Reads tokens params (String.ofList values.flatten) := by
  induction stands with
  | nil => exact ⟨[], rfl, rfl⟩
  | @cons token value tokens values first _ ih =>
    obtain ⟨texts, read, whole⟩ := ih
    have here : value? params token = some (String.ofList value) := by
      cases token with
      | literal written => rw [value?, first, String.ofList_toList]
      | parameter name _ =>
        obtain ⟨index, member, marked⟩ := first
        exact known index name value member marked
    refine ⟨String.ofList value :: texts, by rw [List.mapM_cons, here, read]; rfl, ?_⟩
    rw [List.flatten_cons, String.ofList_append, whole, String.join_cons]

theorem Matcher.read_of_ofTokens {tokens : List Token} {matcher : Matcher}
    (built : ofTokens tokens = .ok matcher) :
    Expr.read? (sourceOf tokens).toList = some matcher.regex.expr := by
  unfold ofTokens at built
  simp only at built
  split at built
  · cases built
  · unfold ofSource at built
    split at built
    · cases built
    next regex read =>
      cases built
      obtain ⟨expr, understood, rfl⟩ := Option.map_eq_some_iff.mp read
      exact understood

/-- If every parameter has kept a group of its own between the anchors, a match reads the
path in the order of the tokens. -/
theorem Matcher.Intact.reads {matcher : Matcher} {tokens : List Token} (intact : matcher.Intact tokens)
    (built : Matcher.ofTokens tokens = .ok matcher) {path : String} {params : Params}
    (captured : matcher.captures? path = some params) : Token.Reads tokens params path := by
  obtain ⟨increasing, distinct⟩ := Expr.groups_read? (read_of_ofTokens built)
  obtain ⟨parts, laid, shape⟩ := intact
  obtain ⟨marks, search, known⟩ := get?_of_captures? distinct captured
  obtain ⟨start, stop, inside, _, passed⟩ := passes_of_find? search
  rw [shape] at passed
  have row := passesRow_of_joinLiterals (passesRow_of_ofItems passed)
  rw [List.flatMap_append, List.flatMap_append, Token.items_parts laid] at row
  obtain ⟨position, between, ⟨anchored, stays, same⟩, rest⟩ := row
  subst stays same
  have begins : position = 0 := by
    by_contra later
    have positive : position - 1 < path.toList.length := by omega
    simp [Look.holds, Program.placeAt, later, positive] at anchored
  have all : matcher.regex.expr.groups = parts.flatMap groups := by
    rw [shape, groups_concat, List.flatMap_append, List.flatMap_append]
    simp [groups]
  have numbers : (parts.flatMap indices).Nodup := by
    have strict := increasing.imp Nat.ne_of_lt
    rw [all, List.map_flatMap] at strict
    exact strict
  obtain ⟨values, cut, stands⟩ :=
    Token.stands_of_passes laid rest numbers fun group member => all ▸ member
  have reads := Token.reads_of_stands stands known
  rw [← cut, begins, List.drop_zero, String.ofList_toList] at reads
  exact reads

end PathRouting
