import PathRouting.Proofs.FragmentReading

/-! Building and matching paths are inverse. In a route of standard fragments every parameter
is followed by a slash, or by nothing, and no fragment matches a slash; so a path can be
taken apart in one way only, and a match gives the values from which the path is built. -/

namespace PathRouting

open Regex Regex.Expr

/-- The pattern, taken alone, matches the whole of a text. -/
def Regex.MatchesFully (pattern value : String) : Prop :=
  ∃ regex ∈ Regex.read? ("^(?:" ++ pattern ++ ")$"), regex.isMatch value = true

instance (pattern value : String) : Decidable (Regex.MatchesFully pattern value) :=
  inferInstanceAs (Decidable (∃ regex ∈ Regex.read? _, _))

/-! ### Fragments -/

/-- The pattern is read as the given expression, alone and within a group, and matches texts
without slashes only. -/
structure Regex.Segment (pattern : String) (body : Expr) : Prop where
  fragment : fragment? pattern = some body
  alone : Expr.read? ("^(?:" ++ pattern ++ ")$").toList = some (.anchored [body])
  plain : body.isPlain = true
  avoids : body.avoids '/' = true

theorem AliasTable.segment_of_standard {pattern : String}
    (member : pattern ∈ standard.entries.values) : ∃ body, Segment pattern body := by
  have all : ∀ pattern ∈ standard.entries.values, ∃ body ∈ fragment? pattern,
      Expr.read? ("^(?:" ++ pattern ++ ")$").toList = some (.anchored [body]) ∧
        body.isPlain = true ∧ body.avoids '/' = true := by decide +kernel
  obtain ⟨body, fragment, alone, plain, avoids⟩ := all pattern member
  exact ⟨body, fragment, alone, plain, avoids⟩

theorem Regex.Segment.matchesFully_iff {pattern : String} {word : List Char} {body : Expr}
    (segment : Segment pattern body) :
    MatchesFully pattern (String.ofList word) ↔ body.Matches word := by
  rw [← find?_anchored segment.plain]
  simp only [MatchesFully, Regex.read?, segment.alone, Option.map_some, Option.mem_some_iff,
    exists_eq_left', isMatch, String.toList_ofList]

namespace Regex.Expr

variable {text : List Char} {start stop : Point}

private theorem groups_of_isPlain {expr : Expr} (plain : expr.isPlain = true) : expr.groups = [] := by
  induction expr with
  | look => rfl
  | group => cases plain
  | repeated least most isLazy body ih => exact ih plain
  | seq first second firstIh secondIh =>
    obtain ⟨one, two⟩ := Bool.and_eq_true_iff.mp plain
    rw [groups, firstIh one, secondIh two, List.append_nil]
  | alt first second firstIh secondIh =>
    obtain ⟨one, two⟩ := Bool.and_eq_true_iff.mp plain
    rw [groups, firstIh one, secondIh two, List.append_nil]
  | _ => rfl

def groupMarks (index start length : Nat) : Marks :=
  [(2 * index + 1, start + length), (2 * index, start)]

private theorem crosses_group {index : Nat} {name : Option String} {body : Expr}
    (plain : body.isPlain = true) :
    Crosses text (group index name body) start stop ↔
      ∃ word, body.Matches word ∧ word <+: text.drop start.1 ∧
        stop = (start.1 + word.length, groupMarks index start.1 word.length ++ start.2) := by
  rw [Crosses, crosses_plain plain]
  constructor
  · rintro ⟨_, ⟨word, matched, written, rfl⟩, rfl⟩
    exact ⟨word, matched, written, rfl⟩
  · rintro ⟨word, matched, written, rfl⟩
    exact ⟨_, ⟨word, matched, written, rfl⟩, rfl⟩

private theorem text?_groupMarks {index start : Nat} {more before : Marks} {word : List Char}
    (written : word <+: text.drop start) (apart : ∀ mark ∈ more, mark.1 / 2 ≠ index) :
    Marks.text? (more ++ (groupMarks index start word.length ++ before)) index text = some word := by
  have outside : ∀ slot, slot / 2 = index → ∀ mark ∈ more, mark.1 ≠ slot := by
    rintro slot half mark member rfl
    exact apart mark member half
  have odd : (2 * index == 2 * index + 1) = false := by simp
  have last : (groupMarks index start word.length ++ before).lookup (2 * index + 1) =
      some (start + word.length) := List.lookup_cons_self
  have first : (groupMarks index start word.length ++ before).lookup (2 * index) = some start := by
    rw [groupMarks, List.cons_append, List.lookup_cons, odd]
    exact List.lookup_cons_self
  rw [Marks.text?, lookup_own (outside (2 * index) (by omega)),
    lookup_own (outside (2 * index + 1) (by omega)), first, last]
  show some ((text.drop start).take (start + word.length - start)) = some word
  rw [Nat.add_sub_cancel_left, ← List.prefix_iff_eq_take.mp written]

end Regex.Expr

namespace Token

def Segmented (tokens : List Token) : Prop :=
  ∀ name pattern, .parameter name pattern ∈ tokens → ∃ body, Segment pattern body

theorem Segmented.tail {token : Token} {tokens : List Token} (segmented : Segmented (token :: tokens)) :
    Segmented tokens :=
  fun name pattern member => segmented name pattern (List.mem_cons_of_mem _ member)

/-- What a token may stand for: a literal for itself, a parameter for a text of its pattern. -/
def Fits : Token → List Char → Prop
  | literal text, value => value = text.toList
  | parameter _ pattern, value => MatchesFully pattern (String.ofList value)

def entries : List Token → List (List Char) → List (String × String)
  | literal _ :: tokens, _ :: values => entries tokens values
  | parameter name _ :: tokens, value :: values => (name, String.ofList value) :: entries tokens values
  | _, _ => []

def recorded (marks : Marks) (text : List Char) (groups : List (Nat × Option String)) :
    List (String × String) :=
  groups.filterMap fun group => group.2.bind fun name =>
    (marks.text? group.1 text).map fun value => (name, String.ofList value)

variable {text : List Char} {tokens : List Token} {parts : List Expr}

private theorem groups_literals (chars : List Char) (parts : List Expr) :
    (chars.map (fun c => Expr.literal [c]) ++ parts).flatMap groups = parts.flatMap groups := by
  simp [groups]

private theorem indices_literals (chars : List Char) (parts : List Expr) :
    (chars.map (fun c => Expr.literal [c]) ++ parts).flatMap indices = parts.flatMap indices := by
  simp [indices, groups]

/-- Passing the parts of tokens cuts the text into what the tokens stand for, and records
the values of the parameters. -/
theorem Laid.cuts (laid : Laid tokens parts) (segmented : Segmented tokens)
    (distinct : (parts.flatMap indices).Nodup) {start stop : Point}
    (crossed : CrossesRow text parts start stop) :
    ∃ values added, List.Forall₂ Fits tokens values ∧ values.flatten <+: text.drop start.1 ∧
      stop = (start.1 + values.flatten.length, added ++ start.2) ∧
      (∀ mark ∈ added, mark.1 / 2 ∈ parts.flatMap indices) ∧
      recorded stop.2 text (parts.flatMap groups) = entries tokens values := by
  induction laid generalizing start with
  | nil =>
    cases crossed
    exact ⟨[], [], .nil, List.nil_prefix, rfl, by simp, rfl⟩
  | @literal written tokens parts _ ih =>
    rw [crossesRow_append, crossesRow_literals] at crossed
    rw [indices_literals] at distinct ⊢
    rw [groups_literals]
    obtain ⟨_, ⟨_, rfl, here, rfl⟩, rest⟩ := crossed
    obtain ⟨values, added, fits, later, rfl, own, found⟩ := ih segmented.tail distinct rest
    exact ⟨written.toList :: values, added, .cons rfl fits, append_prefix_drop_iff.mpr ⟨here, later⟩,
      by rw [List.flatten_cons, List.length_append, Nat.add_assoc], own, found⟩
  | @parameter name index pattern body tokens parts fragment _ ih =>
    obtain ⟨same, segment⟩ := segmented name pattern List.mem_cons_self
    cases fragment.symm.trans segment.fragment
    have inner : body.groups = [] := groups_of_isPlain segment.plain
    have numbers : ((Expr.group index (some name) body :: parts).flatMap indices) =
        index :: parts.flatMap indices := by
      rw [List.flatMap_cons, indices, groups, inner]
      rfl
    rw [numbers] at distinct ⊢
    obtain ⟨apart, others⟩ := List.nodup_cons.mp distinct
    obtain ⟨_, first, rest⟩ := crossed
    obtain ⟨word, matched, here, rfl⟩ := (crosses_group segment.plain).mp first
    obtain ⟨values, added, fits, later, rfl, own, found⟩ := ih segmented.tail others rest
    refine ⟨word :: values, added ++ groupMarks index start.1 word.length,
      .cons (segment.matchesFully_iff.mpr matched) fits,
      append_prefix_drop_iff.mpr ⟨here, later⟩, ?_, ?_, ?_⟩
    · rw [List.flatten_cons, List.length_append, Nat.add_assoc, List.append_assoc]
    · intro mark member
      rcases List.mem_append.mp member with inside | inside
      · exact List.mem_cons_of_mem _ (own mark inside)
      · have half : mark.1 / 2 = index := by
          simp only [groupMarks, List.mem_cons, List.not_mem_nil, or_false] at inside
          rcases inside with rfl | rfl <;> simp only <;> omega
        rw [half]
        exact List.mem_cons_self
    · have value : Marks.text? (added ++ (groupMarks index start.1 word.length ++ start.2)) index
          text = some word :=
        text?_groupMarks here fun mark member equal => apart (equal ▸ own mark member)
      rw [List.flatMap_cons, groups, inner, List.cons_append, List.nil_append, entries, ← found,
        recorded, List.filterMap_cons]
      simp only [Option.bind_some, value, Option.map_some]
      rfl

/-- Whatever fits the tokens, side by side, can be passed. -/
theorem Laid.crosses (laid : Laid tokens parts) (segmented : Segmented tokens)
    {values : List (List Char)} (fits : List.Forall₂ Fits tokens values) (start : Point)
    (written : values.flatten <+: text.drop start.1) :
    ∃ marks, CrossesRow text parts start (start.1 + values.flatten.length, marks) := by
  induction laid generalizing start values with
  | nil =>
    cases fits
    exact ⟨start.2, rfl⟩
  | @literal chars tokens parts _ ih =>
    obtain ⟨value, values, rfl, others, rfl⟩ := List.forall₂_cons_left_iff.mp fits
    obtain ⟨here, later⟩ := append_prefix_drop_iff.mp written
    obtain ⟨marks, crossed⟩ := ih segmented.tail others
      (start.1 + chars.toList.length, start.2) later
    refine ⟨marks, ?_⟩
    rw [crossesRow_append, crossesRow_literals, List.flatten_cons, List.length_append, ← Nat.add_assoc]
    exact ⟨_, ⟨_, rfl, here, rfl⟩, crossed⟩
  | @parameter name index pattern body tokens parts fragment _ ih =>
    obtain ⟨value, values, matched, others, rfl⟩ := List.forall₂_cons_left_iff.mp fits
    obtain ⟨same, segment⟩ := segmented name pattern List.mem_cons_self
    cases fragment.symm.trans segment.fragment
    obtain ⟨here, later⟩ := append_prefix_drop_iff.mp written
    obtain ⟨marks, crossed⟩ := ih segmented.tail others
      (start.1 + value.length, groupMarks index start.1 value.length ++ start.2) later
    refine ⟨marks, ?_⟩
    rw [List.flatten_cons, List.length_append, ← Nat.add_assoc]
    exact ⟨_, (crosses_group segment.plain).mpr
      ⟨value, segment.matchesFully_iff.mp matched, here, rfl⟩, crossed⟩

/-- Behind every parameter comes a slash, or nothing. -/
def Separated (tokens : List Token) : Prop :=
  tokens.IsChain fun token next => token.name?.isSome = true →
    ∃ text rest, next = .literal text ∧ text.toList = '/' :: rest

private theorem eq_of_append_slash {one two rest more : List Char} (noSlash : '/' ∉ one)
    (noSlashToo : '/' ∉ two) (same : one ++ '/' :: rest = two ++ '/' :: more) :
    one = two ∧ rest = more := by
  have before : ∀ {word : List Char} (rest : List Char), '/' ∉ word →
      (word ++ '/' :: rest).takeWhile (· ≠ '/') = word := by
    intro word rest free
    have others : ∀ c ∈ word, decide (c ≠ '/') = true := by
      intro c member
      refine decide_eq_true ?_
      rintro rfl
      exact free member
    rw [List.takeWhile_append_of_pos others]
    simp
  have equal : one = two := by rw [← before rest noSlash, same, before more noSlashToo]
  subst equal
  exact ⟨rfl, (List.cons.inj (List.append_cancel_left same)).2⟩

/-- A text can be cut into what separated tokens stand for in one way only. -/
theorem Separated.unique (separated : Separated tokens) (segmented : Segmented tokens)
    {values others : List (List Char)} (fits : List.Forall₂ Fits tokens values)
    (fitsToo : List.Forall₂ Fits tokens others) (same : values.flatten = others.flatten) :
    values = others := by
  induction tokens generalizing values others with
  | nil =>
    cases fits
    cases fitsToo
    rfl
  | cons token tokens ih =>
    have later := @ih (List.IsChain.of_cons separated) segmented.tail
    obtain ⟨value, values, first, rest, rfl⟩ := List.forall₂_cons_left_iff.mp fits
    obtain ⟨other, others, firstToo, restToo, rfl⟩ := List.forall₂_cons_left_iff.mp fitsToo
    rw [List.flatten_cons, List.flatten_cons] at same
    cases token with
    | literal text =>
      cases first
      cases firstToo
      rw [later rest restToo (List.append_cancel_left same)]
    | parameter name pattern =>
      obtain ⟨body, segment⟩ := segmented name pattern List.mem_cons_self
      cases tokens with
      | nil =>
        cases rest
        cases restToo
        simpa using same
      | cons next tokens =>
        -- both values end where the first slash stands
        obtain ⟨text, inner, rfl, written⟩ := (List.isChain_cons_cons.mp separated).1 rfl
        have noSlash := (segment.matchesFully_iff.mp first).avoids segment.avoids
        have noSlashToo := (segment.matchesFully_iff.mp firstToo).avoids segment.avoids
        have head : ∀ {values : List (List Char)}, List.Forall₂ Fits (.literal text :: tokens) values →
            ∃ rest, values.flatten = '/' :: rest := by
          intro values fits
          obtain ⟨_, values, rfl, _, rfl⟩ := List.forall₂_cons_left_iff.mp fits
          exact ⟨inner ++ values.flatten, by rw [List.flatten_cons, written, List.cons_append]⟩
        obtain ⟨tail, cut⟩ := head rest
        obtain ⟨tailToo, cutToo⟩ := head restToo
        rw [cut, cutToo] at same
        obtain ⟨rfl, equal⟩ := eq_of_append_slash noSlash noSlashToo same
        rw [later rest restToo (by rw [cut, cutToo, equal])]

private theorem keys_entries {values : List (List Char)} (fits : List.Forall₂ Fits tokens values) :
    (entries tokens values).map Prod.fst = tokens.filterMap name? := by
  induction fits with
  | nil => rfl
  | @cons token value tokens values _ _ ih =>
    cases token with
    | literal text => exact ih
    | parameter name pattern => exact congrArg (name :: ·) ih

private theorem exists_values {params : Params} {path : String}
    (full : ∀ name pattern, .parameter name pattern ∈ tokens →
      ∃ value ∈ params.get? name, MatchesFully pattern value)
    (reads : Reads tokens params path) :
    ∃ values, List.Forall₂ Fits tokens values ∧ path.toList = values.flatten ∧
      (tokens.filterMap name?).filterMap (fun key => (params.get? key).map fun value => (key, value)) =
        entries tokens values := by
  obtain ⟨texts, read, rfl⟩ := reads
  induction tokens generalizing texts with
  | nil =>
    cases read
    exact ⟨[], .nil, rfl, rfl⟩
  | cons token tokens ih =>
    rw [List.mapM_cons] at read
    obtain ⟨text, first, read⟩ := Option.bind_eq_some_iff.mp read
    obtain ⟨texts, rest, equal⟩ := Option.bind_eq_some_iff.mp read
    cases equal
    obtain ⟨values, fits, whole, listed⟩ :=
      ih (fun name pattern member => full name pattern (List.mem_cons_of_mem _ member)) texts rest
    refine ⟨text.toList :: values, .cons ?_ fits, ?_, ?_⟩
    · cases token with
      | literal written =>
        cases first
        rfl
      | parameter name pattern =>
        obtain ⟨value, found, matched⟩ := full name pattern List.mem_cons_self
        cases first.symm.trans found
        rwa [Fits, String.ofList_toList]
    · rw [String.join_cons, String.toList_append, whole, List.flatten_cons]
    · cases token with
      | literal written => exact listed
      | parameter name pattern =>
        have names : (parameter name pattern :: tokens).filterMap name? =
            name :: tokens.filterMap name? := rfl
        have value : params.get? name = some text := first
        rw [names, List.filterMap_cons, value, entries, ← listed, String.ofList_toList]
        rfl

private theorem reads_of_entries {params : Params} {values : List (List Char)}
    (fits : List.Forall₂ Fits tokens values)
    (listed : ∀ entry ∈ entries tokens values, entry ∈ params.entries) :
    (∀ name pattern, .parameter name pattern ∈ tokens →
      ∃ value ∈ params.get? name, MatchesFully pattern value) ∧
    Reads tokens params (String.ofList values.flatten) := by
  induction fits with
  | nil => exact ⟨by simp, [], rfl, rfl⟩
  | @cons token value tokens values first _ ih =>
    cases token with
    | literal text =>
      obtain ⟨full, texts, read, whole⟩ := ih listed
      refine ⟨fun name pattern member => ?_, text :: texts, ?_, ?_⟩
      · rcases List.mem_cons.mp member with equal | later
        · cases equal
        · exact full name pattern later
      · rw [List.mapM_cons, read]
        rfl
      · rw [List.flatten_cons, String.ofList_append, whole, String.join_cons, first,
          String.ofList_toList]
    | parameter name pattern =>
      obtain ⟨here, later⟩ := List.forall_mem_cons.mp listed
      have known := OrderedMap.get?_of_mem here
      obtain ⟨full, texts, read, whole⟩ := ih later
      refine ⟨fun other otherPattern member => ?_, String.ofList value :: texts, ?_, ?_⟩
      · rcases List.mem_cons.mp member with equal | later
        · cases equal
          exact ⟨_, known, first⟩
        · exact full other otherPattern later
      · rw [List.mapM_cons, value?, known, read]
        rfl
      · rw [List.flatten_cons, String.ofList_append, whole, String.join_cons]

end Token

namespace Matcher

variable {matcher : Matcher} {tokens : List Token} {parts : List Expr}

private theorem captures?_eq (matcher : Matcher) (path : String) :
    matcher.captures? path = (matcher.regex.expr.program.find? path.toList).map fun marks =>
      OrderedMap.ofList (Token.recorded marks path.toList matcher.regex.expr.groups) := by
  rw [captures?, Regex.captures?, Option.map_map, matcher.regex.program_eq]
  congr 1
  funext marks
  rw [Function.comp_apply, Regex.namedGroups, List.filterMap_filterMap, Token.recorded]
  congr 1
  apply List.filterMap_congr
  rintro ⟨index, name⟩ _
  cases name <;> rfl

/-- A match of a row of tokens gives values of which the path is made up. -/
theorem values_of_captures? (laid : Token.Laid tokens parts)
    (shape : matcher.regex.expr = .anchored parts) (built : Matcher.ofTokens tokens = .ok matcher)
    (segmented : Token.Segmented tokens)
    (distinct : (tokens.filterMap Token.name?).Nodup) {path : String} {params : Params}
    (captured : matcher.captures? path = some params) :
    ∃ values, List.Forall₂ Token.Fits tokens values ∧ path.toList = values.flatten ∧
      params.entries = Token.entries tokens values := by
  obtain ⟨increasing, _⟩ := Expr.groups_read? (read_of_ofTokens built)
  have groups : matcher.regex.expr.groups = parts.flatMap Expr.groups := by
    rw [shape, anchored, groups_concat]
    simp [Expr.groups]
  have numbers : (parts.flatMap indices).Nodup := by
    rw [groups, List.map_flatMap] at increasing
    exact increasing.imp Nat.ne_of_lt
  rw [captures?_eq, groups] at captured
  obtain ⟨marks, found, rfl⟩ := Option.map_eq_some_iff.mp captured
  rw [shape] at found
  obtain ⟨stop, ended, crossed⟩ := accepted_anchored.mp (Program.find?_accepted found)
  obtain ⟨values, added, fits, written, equal, _, recorded⟩ := laid.cuts segmented numbers crossed
  obtain ⟨rfl, rfl⟩ := Prod.mk.inj equal
  refine ⟨values, fits, ?_, ?_⟩
  · rw [Nat.zero_add] at ended
    rw [List.drop_zero, List.prefix_iff_eq_take, List.take_of_length_le ended] at written
    exact written.symm
  · rw [recorded]
    exact OrderedMap.entries_ofList (by rwa [Token.keys_entries fits])

/-- A match of a separated row of tokens gives the values of which the path is made up, and
there is one for every path that is made up of such values. -/
theorem captures?_iff_values (laid : Token.Laid tokens parts)
    (shape : matcher.regex.expr = .anchored parts) (built : Matcher.ofTokens tokens = .ok matcher)
    (segmented : Token.Segmented tokens)
    (distinct : (tokens.filterMap Token.name?).Nodup) (separated : Token.Separated tokens)
    (path : String) (params : Params) :
    matcher.captures? path = some params ↔ ∃ values, List.Forall₂ Token.Fits tokens values ∧
      path.toList = values.flatten ∧ params.entries = Token.entries tokens values := by
  refine ⟨values_of_captures? laid shape built segmented distinct, ?_⟩
  rintro ⟨values, fits, whole, listed⟩
  have written : values.flatten <+: path.toList.drop 0 :=
    ⟨[], by rw [List.append_nil, List.drop_zero, whole]⟩
  obtain ⟨marks, crossed⟩ := laid.crosses segmented fits (0, [(0, 0)]) written
  have accepted : Program.Accepted (anchored parts).program path.toList marks :=
    accepted_anchored.mpr ⟨_, by rw [whole, Nat.zero_add], crossed⟩
  obtain ⟨found, search⟩ := Option.isSome_iff_exists.mp (Program.find?_isSome_iff.mpr ⟨marks, accepted⟩)
  rw [← shape] at search
  have captured := captures?_eq matcher path
  rw [search, Option.map_some] at captured
  obtain ⟨others, fitsToo, wholeToo, listedToo⟩ :=
    values_of_captures? laid shape built segmented distinct captured
  obtain rfl := separated.unique segmented fits fitsToo (whole.symm.trans wholeToo)
  rw [captured, OrderedMap.ext_entries (listedToo.trans listed.symm)]

/-- Standard tokens have a matcher, and it gives parameters for a path exactly if these are
the parameters of the tokens, each with a value of its own pattern, and the path is built
from them. -/
theorem captures?_eq_some_iff_reads
    (standard : ∀ name pattern, .parameter name pattern ∈ tokens →
      Token.IsIdentifier name ∧ pattern ∈ AliasTable.standard.entries.values)
    (distinct : (tokens.filterMap Token.name?).Nodup) (separated : Token.Separated tokens) :
    ∃ matcher, Matcher.ofTokens tokens = .ok matcher ∧ ∀ path params,
      matcher.captures? path = some params ↔
        params.keys = tokens.filterMap Token.name? ∧
        (∀ name pattern, .parameter name pattern ∈ tokens →
          ∃ value ∈ params.get? name, MatchesFully pattern value) ∧
        Token.Reads tokens params path := by
  have segmented : Token.Segmented tokens := fun name pattern member =>
    AliasTable.segment_of_standard (standard name pattern member).2
  have readable : ∀ token ∈ tokens, token.Readable := by
    intro token member
    cases token with
    | literal => trivial
    | parameter name pattern =>
      obtain ⟨body, segment⟩ := segmented name pattern member
      exact ⟨(standard name pattern member).1, body, segment.fragment⟩
  obtain ⟨matcher, parts, built, laid, shape⟩ := exists_ofTokens readable distinct
  refine ⟨matcher, built, fun path params => ?_⟩
  rw [captures?_iff_values laid shape built segmented distinct separated]
  constructor
  · rintro ⟨values, fits, whole, listed⟩
    have within : ∀ entry ∈ Token.entries tokens values, entry ∈ params.entries :=
      fun entry member => listed ▸ member
    obtain ⟨full, reads⟩ := Token.reads_of_entries fits within
    rw [← whole, String.ofList_toList] at reads
    exact ⟨by rw [OrderedMap.keys, listed, Token.keys_entries fits], full, reads⟩
  · rintro ⟨keys, full, reads⟩
    obtain ⟨values, fits, whole, listed⟩ := Token.exists_values full reads
    exact ⟨values, fits, whole, by rw [OrderedMap.entries_eq_filterMap, keys, listed]⟩

/-- The dot and the bracket stand for themselves, and a digit is a digit of any script. -/
theorem captures?_eq_some_iff_reads_two :
    let tokens : List Token :=
      [.literal "/v1.0(", .parameter "id" "\\d+", .literal "/", .parameter "_rest" "[^/]+"]
    ∃ matcher, Matcher.ofTokens tokens = .ok matcher ∧
      matcher.captures? "/v1.0(4٣/a\n" = some (OrderedMap.ofList [("id", "4٣"), ("_rest", "a\n")]) ∧
      ∀ params, matcher.captures? "/v1x0(4/a" ≠ some params := by
  intro tokens
  have parameters : ∀ name pattern, .parameter name pattern ∈ tokens →
      (name = "id" ∧ pattern = "\\d+") ∨ (name = "_rest" ∧ pattern = "[^/]+") := by
    simp [tokens]
  have standard : ∀ name pattern, .parameter name pattern ∈ tokens →
      Token.IsIdentifier name ∧ pattern ∈ AliasTable.standard.entries.values := by
    intro name pattern member
    obtain ⟨rfl, rfl⟩ | ⟨rfl, rfl⟩ := parameters name pattern member
    · exact ⟨⟨'i', ['d'], rfl, by decide, by simp [Text.isLetter]⟩, by decide⟩
    · exact ⟨⟨'_', ['r', 'e', 's', 't'], rfl, by decide, by simp [Text.isLetter]⟩, by decide⟩
  have separated : Token.Separated tokens := by
    simp [tokens, Token.Separated, Token.name?]
  obtain ⟨matcher, built, captured⟩ := captures?_eq_some_iff_reads standard (by decide) separated
  refine ⟨matcher, built, (captured _ _).mpr ⟨by decide, ?_, by decide⟩, ?_⟩
  · intro name pattern member
    obtain ⟨rfl, rfl⟩ | ⟨rfl, rfl⟩ := parameters name pattern member
    · exact ⟨"4٣", rfl, by decide +kernel⟩
    · exact ⟨"a\n", rfl, by decide +kernel⟩
  · intro params wrong
    obtain ⟨_, _, values, read, whole⟩ := (captured _ _).mp wrong
    rw [List.mapM_cons] at read
    obtain ⟨first, here, read⟩ := Option.bind_eq_some_iff.mp read
    obtain ⟨others, _, equal⟩ := Option.bind_eq_some_iff.mp read
    cases here
    cases equal
    simpa [String.join_cons] using congrArg String.toList whole

end Matcher

end PathRouting
