import PathRouting.Proofs.BracketGrammar

/-! Routes of one template. Each route of a template is the one before it with the text of
one more group, but its tokens need not go on from the tokens before: when the bracket is
taken out, text in front of it and text behind it can become one placeholder. Without
such a placeholder across the seam every route extends the shorter one. -/

namespace PathRouting

namespace Token

/-- The longer row goes on where the shorter one ends, or it makes the last text of the
shorter one longer. -/
def Extends (shorter longer : List Token) : Prop :=
  (shorter <+: longer ∧ shorter ≠ longer) ∨
    ∃ start text more later, shorter = start ++ [.literal text] ∧
      longer = start ++ .literal (text ++ more) :: later ∧ more ≠ ""

/-- The tokens that count; the one empty text of the empty route does not. -/
def counted (tokens : List Token) : List Token := if tokens = [.literal ""] then [] else tokens

theorem Extends.text {shorter longer : List Token} (extends_ : Extends shorter longer) {i : Nat}
    {text : String} (there : shorter[i]? = some (.literal text)) :
    ∃ more, longer[i]? = some (.literal (text ++ more)) := by
  obtain ⟨⟨rest, rfl⟩, _⟩ | ⟨start, last, more, later, rfl, rfl, _⟩ := extends_
  · obtain ⟨inside, _⟩ := List.getElem?_eq_some_iff.mp there
    exact ⟨"", by rw [List.getElem?_append_left inside, there, String.append_empty]⟩
  · rcases Nat.lt_or_ge i start.length with inside | beyond
    · rw [List.getElem?_append_left inside] at there ⊢
      exact ⟨"", by rw [there, String.append_empty]⟩
    · rw [List.getElem?_append_right beyond] at there ⊢
      cases place : i - start.length with
      | zero =>
        rw [place] at there
        cases there
        exact ⟨more, rfl⟩
      | succ n =>
        rw [place] at there
        cases there

end Token

namespace Template

open Placeholder

/-- Whether a placeholder begins before the given place and ends after it. -/
def straddles (place : Nat) : List Piece → Bool
  | [] => false
  | .text chars :: rest => straddles (place - chars.length) rest
  | .slot written _ :: rest =>
    (0 < place && place < written.length) || straddles (place - written.length) rest

inductive Lengthens : List Piece → List Piece → Prop where
  | more {later : List Piece} (some : later ≠ []) : Lengthens [] later
  | text (chars : List Char) {more : List Char} (later : List Piece) (some : more ≠ []) :
      Lengthens [.text chars] (.text (chars ++ more) :: later)
  | cons (piece : Piece) {first second : List Piece} (rest : Lengthens first second) :
      Lengthens (piece :: first) (piece :: second)

/-- After some common pieces the first row has a text that the second one does not have. -/
inductive Breaks : List Piece → List Piece → Prop where
  | text {chars : List Char} {second : List Piece} (first : List Piece)
      (other : ∀ more later, second ≠ .text (chars ++ more) :: later) :
      Breaks (.text chars :: first) second
  | cons (piece : Piece) {first second : List Piece} (rest : Breaks first second) :
      Breaks (piece :: first) (piece :: second)

private theorem straddles_zero (found : List Piece) : straddles 0 found = false := by
  induction found with
  | nil => rfl
  | cons piece rest ih => cases piece <;> simp [straddles, ih]

private theorem straddles_consText (place : Nat) (c : Char) (found : List Piece) :
    straddles (place + 1) (consText c found) = straddles place found := by
  unfold consText
  split
  · rw [straddles, straddles, List.length_cons, Nat.add_sub_add_right]
  · rfl

theorem Lengthens.consText {first second : List Piece} (lengthens : Lengthens first second)
    (filled : ∀ chars, .text chars ∈ second → chars ≠ []) (c : Char) :
    Lengthens (consText c first) (consText c second) := by
  cases lengthens with
  | more some =>
    cases second with
    | nil => exact absurd rfl some
    | cons piece later =>
      cases piece with
      | text chars => exact .text [c] later (filled chars List.mem_cons_self)
      | slot written found => exact .cons (.text [c]) (.more some)
  | text chars later some => exact .text (c :: chars) later some
  | cons piece rest =>
    cases piece with
    | text chars => exact .cons (.text (c :: chars)) rest
    | slot written found => exact .cons (.text [c]) (.cons _ rest)

theorem Breaks.consText {first second : List Piece} (breaks : Breaks first second)
    (filled : ∀ chars, .text chars ∈ first → chars ≠ []) (c : Char) :
    Breaks (consText c first) (consText c second) := by
  cases breaks with
  | @text chars _ first other =>
    have some := filled chars List.mem_cons_self
    refine .text first fun more later equal => ?_
    unfold Template.consText at equal
    split at equal
    · obtain ⟨same, rfl⟩ := List.cons.inj equal
      obtain ⟨_, rfl⟩ := List.cons.inj (Piece.text.inj same)
      exact other more _ rfl
    · obtain ⟨_, empty⟩ := List.cons.inj (Piece.text.inj (List.cons.inj equal).1)
      exact some (List.append_eq_nil_iff.mp empty.symm).1
  | cons piece rest =>
    cases piece with
    | text chars => exact .cons (.text (c :: chars)) rest
    | slot written found => exact .cons (.text [c]) (.cons _ rest)

/-- A route with more text behind it: a placeholder across the seam takes text from the
route, and without one the pieces of the route go on. -/
theorem pieces_append (route : List Char) {more : List Char} (some : more ≠ []) :
    (straddles route.length (pieces (route ++ more)) = true ∧
        Breaks (pieces route) (pieces (route ++ more))) ∨
      (straddles route.length (pieces (route ++ more)) = false ∧
        Lengthens (pieces route) (pieces (route ++ more))) := by
  induction route using pieces_induction with
  | nil =>
    refine .inr ⟨straddles_zero _, ?_⟩
    rw [pieces_nil]
    refine .more fun empty => some ?_
    have lost := chars_pieces ([] ++ more)
    rw [empty] at lost
    exact lost.symm
  | placeholder written found after writes ih =>
    have seam : (written ++ after).length - written.length = after.length := by simp
    have beyond : decide ((written ++ after).length < written.length) = false := by simp
    rw [List.append_assoc, pieces_placeholder writes, pieces_placeholder writes, straddles, seam,
      beyond, Bool.and_false, Bool.false_or]
    exact ih.imp (And.imp_right (.cons _)) (And.imp_right (.cons _))
  | char c rest nothing ih =>
    rw [pieces_char nothing, List.length_cons]
    cases scanned : scan? (c :: (rest ++ more)) with
    | none =>
      rw [List.cons_append, pieces_char scanned, straddles_consText]
      exact ih.imp
        (And.imp_right fun breaks => breaks.consText (fun _ => text_pieces_ne_nil) c)
        (And.imp_right fun lengthens => lengthens.consText (fun _ => text_pieces_ne_nil) c)
    | some result =>
      obtain ⟨found, after⟩ := result
      obtain ⟨written, writes, whole⟩ := scan?_eq_some_iff.mp scanned
      -- the placeholder is not there without the further text, so it ends in it
      have across : after.length < more.length := by
        by_contra inside
        rw [← List.cons_append] at scanned
        obtain ⟨_, _, alone⟩ := scan?_of_append scanned (by omega)
        cases nothing.symm.trans alone
      have size := congrArg List.length whole
      simp only [List.length_cons, List.length_append] at size
      rw [List.cons_append, whole, pieces_placeholder writes]
      refine .inl ⟨?_, ?_⟩
      · rw [straddles, decide_eq_true (by omega), decide_eq_true (by omega)]
        rfl
      · unfold consText
        split
        · exact .text _ (by simp)
        · exact .text _ (by simp)

variable (aliases : AliasTable)

private theorem counted_tokens (route : List Char) :
    Token.counted (tokens aliases route) = (pieces route).map (Piece.token aliases) := by
  rw [tokens]
  split
  next empty => rw [empty]; rfl
  next some =>
    rw [Token.counted, if_neg]
    intro same
    obtain ⟨piece, alone, text⟩ := List.map_eq_singleton_iff.mp same
    cases piece with
    | text chars =>
      have member : Piece.text chars ∈ pieces route := alone ▸ List.mem_singleton_self _
      have filled := text_pieces_ne_nil member
      have empty := congrArg String.toList (Token.literal.inj text)
      rw [String.toList_ofList] at empty
      exact filled empty
    | slot written found => cases text

theorem Lengthens.extends {first second : List Piece} (lengthens : Lengthens first second) :
    Token.Extends (first.map (Piece.token aliases)) (second.map (Piece.token aliases)) := by
  induction lengthens with
  | more some => exact .inl ⟨List.nil_prefix, fun equal => some (List.map_eq_nil_iff.mp equal.symm)⟩
  | @text chars more later some =>
    refine .inr ⟨[], String.ofList chars, String.ofList more, later.map (Piece.token aliases), rfl,
      ?_, fun empty => some (String.ofList_eq_empty_iff.mp empty)⟩
    rw [List.map_cons, Piece.token, String.ofList_append]
    rfl
  | cons piece _ ih =>
    obtain ⟨begins, other⟩ | ⟨start, text, more, later, equal, longer, some⟩ := ih
    · exact .inl ⟨List.cons_prefix_cons.mpr ⟨rfl, begins⟩, fun equal => other (List.cons.inj equal).2⟩
    · refine .inr ⟨piece.token aliases :: start, text, more, later, ?_, ?_, some⟩
      · rw [List.map_cons, equal, List.cons_append]
      · rw [List.map_cons, longer, List.cons_append]

theorem Breaks.text_at {first second : List Piece} (breaks : Breaks first second) :
    ∃ (i : Nat) (chars : List Char), first[i]? = some (.text chars) ∧
      ∀ more, second[i]? ≠ some (.text (chars ++ more)) := by
  induction breaks with
  | @text chars second first other =>
    refine ⟨0, chars, rfl, fun more found => ?_⟩
    cases second with
    | nil => cases found
    | cons piece later =>
      cases found
      exact other more later rfl
  | cons piece _ ih =>
    obtain ⟨i, chars, there, other⟩ := ih
    exact ⟨i + 1, chars, there, other⟩

theorem Breaks.not_extends {first second : List Piece} (breaks : Breaks first second) :
    ¬ Token.Extends (first.map (Piece.token aliases)) (second.map (Piece.token aliases)) := by
  intro extends_
  obtain ⟨i, chars, there, other⟩ := breaks.text_at
  have written : (first.map (Piece.token aliases))[i]? = some (.literal (String.ofList chars)) := by
    rw [List.getElem?_map, there]
    rfl
  obtain ⟨more, found⟩ := extends_.text written
  rw [List.getElem?_map, Option.map_eq_some_iff] at found
  obtain ⟨piece, present, same⟩ := found
  cases piece with
  | text longer =>
    have equal := congrArg String.toList (Token.literal.inj same)
    rw [String.toList_ofList, String.toList_append, String.toList_ofList] at equal
    exact other more.toList (equal ▸ present)
  | slot written found => cases same

/-- If a piece is written as some text, and longer text as a longer one that begins alike, then
a row that goes on is written as the shorter one with something behind it. -/
theorem Lengthens.written {form : Piece → List Char}
    (split : ∀ chars more, form (.text (chars ++ more)) = form (.text chars) ++ form (.text more))
    (some : ∀ piece, piece ≠ .text [] → form piece ≠ []) {first second : List Piece}
    (lengthens : Lengthens first second) (filled : .text [] ∉ second) :
    ∃ added, added ≠ [] ∧ second.flatMap form = first.flatMap form ++ added := by
  induction lengthens with
  | @more later present =>
    obtain ⟨piece, rest, rfl⟩ := List.exists_cons_of_ne_nil present
    have head : form piece ≠ [] := some piece fun empty => filled (empty ▸ List.mem_cons_self)
    exact ⟨_, by simp [head], rfl⟩
  | @text chars more later present =>
    have longer : form (.text more) ≠ [] := some _ fun empty => present (Piece.text.inj empty)
    refine ⟨form (.text more) ++ later.flatMap form, by simp [longer], ?_⟩
    simp only [List.flatMap_cons, List.flatMap_nil, List.append_nil, split, List.append_assoc]
  | cons piece _ ih =>
    obtain ⟨added, present, longer⟩ := ih fun member => filled (List.mem_cons_of_mem _ member)
    refine ⟨added, present, ?_⟩
    rw [List.flatMap_cons, List.flatMap_cons, longer, List.append_assoc]

private theorem described_eq_flatMap (found : List Piece) :
    described aliases found = found.flatMap fun piece => (piece.token aliases).describe.toList := by
  induction found with
  | nil => rfl
  | cons piece rest ih => rw [described_cons, List.flatMap_cons, ih]

theorem Lengthens.described {first second : List Piece} (lengthens : Lengthens first second)
    (filled : .text [] ∉ second) :
    ∃ added, added ≠ [] ∧ described aliases second = described aliases first ++ added := by
  rw [described_eq_flatMap, described_eq_flatMap]
  refine lengthens.written (fun chars more => ?_) (fun piece filled => ?_) filled
  · simp [Piece.token, Token.describe]
  · cases piece with
    | text chars =>
      have some : chars ≠ [] := fun empty => filled (congrArg Piece.text empty)
      simpa [Piece.token, Token.describe] using some
    | slot written found => simp [Piece.token, Token.describe]

private theorem consecutive_expansions {first : List Char} {groups : List (List Char)}
    {shorter longer : List Char} (next : [shorter, longer] <:+: expansions first groups) :
    ∃ segment ∈ groups, longer = shorter ++ segment := by
  induction groups generalizing first with
  | nil =>
    have fits := next.length_le
    simp [expansions] at fits
  | cons segment groups ih =>
    rw [expansions_cons, List.infix_cons_iff] at next
    rcases next with here | later
    · obtain ⟨rfl, rest⟩ := List.cons_prefix_cons.mp here
      refine ⟨segment, List.mem_cons_self, ?_⟩
      cases groups with
      | nil =>
        obtain ⟨tail, whole⟩ := rest
        exact (List.cons.inj whole).1.trans (by simp)
      | cons second groups =>
        rw [expansions_cons] at rest
        exact (List.cons_prefix_cons.mp rest).1
    · obtain ⟨found, member, equal⟩ := ih later
      exact ⟨found, List.mem_cons_of_mem _ member, equal⟩

/-- The routes of an accepted template, and those of them that go on from the one before.
A route extends the one before it exactly if no placeholder lies across the seam; then
the text of its tokens also begins with that of the other tokens, and is longer. -/
theorem extends_iff_not_straddled {template : String} {found : List (List Char)}
    (cut : routes template = .ok found) {shorter longer : List Char}
    (next : [shorter, longer] <:+: found) :
    parse aliases template = .ok (found.map (tokens aliases)) ∧
    (Token.Extends (Token.counted (tokens aliases shorter)) (tokens aliases longer) ↔
      straddles shorter.length (pieces longer) = false) ∧
    (straddles shorter.length (pieces longer) = false →
      ∃ added, added ≠ "" ∧ Token.describeAll (tokens aliases longer) =
        Token.describeAll (tokens aliases shorter) ++ added) := by
  obtain ⟨first, groups, grouped, rfl⟩ := exists_grouped_of_routes cut
  obtain ⟨segment, member, rfl⟩ := consecutive_expansions next
  have some := grouped.nonempty segment member
  have filled : shorter ++ segment ≠ [] := by simp [some]
  refine ⟨by rw [parse, cut]; rfl, ?_, fun clear => ?_⟩
  · rw [counted_tokens, tokens_of_ne_nil aliases filled]
    obtain ⟨across, breaks⟩ | ⟨clear, lengthens⟩ := pieces_append shorter some
    · rw [across]
      refine ⟨fun extends_ => absurd extends_ (breaks.not_extends aliases), fun clear => ?_⟩
      cases clear
    · exact ⟨fun _ => clear, fun _ => lengthens.extends aliases⟩
  · obtain ⟨across, _⟩ | ⟨_, lengthens⟩ := pieces_append shorter some
    · cases clear.symm.trans across
    · obtain ⟨added, more, whole⟩ := lengthens.described aliases
        fun empty => text_pieces_ne_nil empty rfl
      refine ⟨String.ofList added, fun empty => more (String.ofList_eq_empty_iff.mp empty), ?_⟩
      rw [describeAll_tokens, describeAll_tokens, ← String.toList_inj, String.toList_append,
        String.toList_ofList]
      exact whole

/-- Two groups behind literal text and behind a placeholder. -/
theorem extends_iff_not_straddled_two :
    let one := [Token.literal "/a", .parameter "b" "[^/]+"]
    let two := [Token.literal "/a", .parameter "b" "[^/]+", .literal "/\x7bc"]
    routes "/a\x7bb\x7d[/\x7bc]" = .ok ["/a\x7bb\x7d".toList, "/a\x7bb\x7d/\x7bc".toList] ∧
    parse .standard "/a\x7bb\x7d[/\x7bc]" = .ok [one, two] ∧
    Token.Extends one two ∧
    ∃ added, added ≠ "" ∧ Token.describeAll two = Token.describeAll one ++ added := by
  intro one two
  have cut : routes "/a\x7bb\x7d[/\x7bc]" =
      .ok ["/a\x7bb\x7d".toList, "/a\x7bb\x7d/\x7bc".toList] := by decide +kernel
  obtain ⟨parsed, extends_, described⟩ := extends_iff_not_straddled .standard cut List.infix_rfl
  have clear : straddles "/a\x7bb\x7d".toList.length (pieces "/a\x7bb\x7d/\x7bc".toList) = false := by
    decide +kernel
  have first : tokens .standard "/a\x7bb\x7d".toList = one := by decide +kernel
  have second : tokens .standard "/a\x7bb\x7d/\x7bc".toList = two := by decide +kernel
  rw [List.map_cons, List.map_singleton, first, second] at parsed
  rw [first, second] at extends_ described
  exact ⟨cut, parsed, extends_.mpr clear, described clear⟩

/-- A name that goes on behind the bracket: the shorter route has a brace that opens nothing,
and the longer one a placeholder in its place. -/
theorem parse_not_extends :
    let shorter := [Token.literal "/\x7b na"]
    let longer := [Token.literal "/", .parameter "name" "[^/]+"]
    parse .standard "/\x7b na[me\x7d]" = .ok [shorter, longer] ∧
      ¬ Token.Extends (Token.counted shorter) longer ∧
      ∀ added, Token.describeAll longer ≠ Token.describeAll shorter ++ added := by
  intro shorter longer
  refine ⟨by decide +kernel, fun extends_ => ?_, fun added same => ?_⟩
  · have first : (Token.counted shorter)[0]? = some (.literal "/\x7b na") := by decide
    obtain ⟨more, found⟩ := extends_.text first
    have equal := congrArg (fun text => text.toList.length) (Token.literal.inj (Option.some.inj found))
    simp at equal
  · have texts := congrArg (fun text => text.toList.take 3) same
    simp [shorter, longer, Token.describeAll, Token.describe] at texts

end Template

end PathRouting
