import Mathlib.Data.List.Basic
import PathRouting.Proofs.RegexGroups

/-! Groups under other numbers. A pattern that is read behind other groups has its own groups
numbered from further on; apart from that the reader builds the same expression of it,
because bringing an expression into its simple form only asks whether parts are equal. -/

namespace PathRouting.Regex

namespace Expr

/-- The expression with its groups numbered from further on. -/
def shift (offset : Nat) : Expr → Expr
  | empty => empty
  | literal chars => literal chars
  | one set => one set
  | look condition => look condition
  | group index name body => group (index + offset) name (body.shift offset)
  | repeated least most isLazy body => repeated least most isLazy (body.shift offset)
  | seq first second => seq (first.shift offset) (second.shift offset)
  | alt first second => alt (first.shift offset) (second.shift offset)

variable (offset : Nat)

theorem groups_shift (expr : Expr) :
    (expr.shift offset).groups = expr.groups.map fun (index, name) => (index + offset, name) := by
  induction expr with
  | group index name body ih => simp [shift, groups, ih]
  | repeated least most isLazy body ih => exact ih
  | seq first second firstIh secondIh => simp [shift, groups, firstIh, secondIh]
  | alt first second firstIh secondIh => simp [shift, groups, firstIh, secondIh]
  | _ => rfl

theorem shift_of_groups {expr : Expr} (without : expr.groups = []) : expr.shift offset = expr := by
  induction expr with
  | group index name body => cases without
  | repeated least most isLazy body ih => exact congrArg _ (ih without)
  | seq first second firstIh secondIh =>
    obtain ⟨noFirst, noSecond⟩ := List.append_eq_nil_iff.mp without
    rw [shift, firstIh noFirst, secondIh noSecond]
  | alt first second firstIh secondIh =>
    obtain ⟨noFirst, noSecond⟩ := List.append_eq_nil_iff.mp without
    rw [shift, firstIh noFirst, secondIh noSecond]
  | _ => rfl

private theorem shift_injective : Function.Injective (shift offset) := by
  intro one
  induction one with
  | group index name body ih =>
    intro other same
    cases other <;> simp only [shift, reduceCtorEq, group.injEq, Nat.add_right_cancel_iff] at same
    obtain ⟨rfl, rfl, bodies⟩ := same
    rw [ih bodies]
  | repeated least most isLazy body ih =>
    intro other same
    cases other <;> simp only [shift, reduceCtorEq, repeated.injEq] at same
    obtain ⟨rfl, rfl, rfl, bodies⟩ := same
    rw [ih bodies]
  | seq first second firstIh secondIh =>
    intro other same
    cases other <;> simp only [shift, reduceCtorEq, seq.injEq] at same
    rw [firstIh same.1, secondIh same.2]
  | alt first second firstIh secondIh =>
    intro other same
    cases other <;> simp only [shift, reduceCtorEq, alt.injEq] at same
    rw [firstIh same.1, secondIh same.2]
  | _ =>
    intro other same
    cases other <;> simp_all [shift]

/-! ### The simple form -/

private theorem items_shift (expr : Expr) :
    (expr.shift offset).items = expr.items.map (shift offset) := by
  induction expr with
  | seq first second firstIh secondIh => simp [shift, items, firstIh, secondIh]
  | _ => rfl

private theorem ofItems_shift (parts : List Expr) :
    ofItems (parts.map (shift offset)) = (ofItems parts).shift offset := by
  induction parts with
  | nil => rfl
  | cons part rest ih =>
    cases rest with
    | nil => rfl
    | cons next later => exact congrArg (seq (part.shift offset)) ih

private theorem joinLiterals_shift (parts : List Expr) :
    joinLiterals (parts.map (shift offset)) = (joinLiterals parts).map (shift offset) := by
  induction parts with
  | nil => rfl
  | cons part rest ih =>
    rw [List.map_cons]
    unfold joinLiterals
    rw [ih]
    cases part with
    | literal chars =>
      cases joinLiterals rest with
      | nil => rfl
      | cons next later => cases next <;> rfl
    | _ => rfl

private theorem concat_shift (parts : List Expr) :
    concat (parts.map (shift offset)) = (concat parts).shift offset := by
  have all : (parts.map (shift offset)).flatMap items = (parts.flatMap items).map (shift offset) := by
    rw [List.flatMap_map, List.map_flatMap]
    exact congrArg parts.flatMap (funext fun part => items_shift offset part)
  rw [concat, all, joinLiterals_shift, ofItems_shift, concat]

private theorem branches_shift (expr : Expr) :
    (expr.shift offset).branches = expr.branches.map (shift offset) := by
  induction expr with
  | alt first second firstIh secondIh => simp [shift, branches, firstIh, secondIh]
  | _ => rfl

private theorem flatMap_branches_shift (parts : List Expr) :
    (parts.map (shift offset)).flatMap branches = (parts.flatMap branches).map (shift offset) := by
  rw [List.flatMap_map, List.map_flatMap]
  exact congrArg parts.flatMap (funext fun part => branches_shift offset part)

private theorem ofBranches_shift (parts : List Expr) :
    ofBranches (parts.map (shift offset)) = (ofBranches parts).shift offset := by
  induction parts with
  | nil => rfl
  | cons part rest ih =>
    cases rest with
    | nil => rfl
    | cons next later => exact congrArg (alt (part.shift offset)) ih

private theorem set?_shift (expr : Expr) : (expr.shift offset).set? = expr.set? := by
  cases expr <;> rfl

private theorem mapM_set?_shift (parts : List Expr) :
    (parts.map (shift offset)).mapM set? = parts.mapM set? := by
  rw [List.mapM_map]
  exact congrArg (List.mapM · parts) (funext fun part => set?_shift offset part)

private theorem ofSet_shift (set : CharSet) : (ofSet set).shift offset = ofSet set :=
  shift_of_groups offset (groups_ofSet set)

private theorem choice_shift (parts : List Expr) :
    choice (parts.map (shift offset)) = (choice parts).shift offset := by
  cases parts with
  | nil => rfl
  | cons first rest =>
    cases rest with
    | nil => rfl
    | cons second rest =>
      have sets := mapM_set?_shift offset (first :: second :: rest)
      have row := ofBranches_shift offset (first :: second :: rest)
      simp only [List.map_cons] at sets row ⊢
      simp only [choice, sets]
      split
      · exact (ofSet_shift offset _).symm
      · exact row

private theorem commonStart_shift (first second : List Expr) :
    commonStart (first.map (shift offset)) (second.map (shift offset)) =
      (commonStart first second).map (shift offset) := by
  induction first generalizing second with
  | nil => rfl
  | cons a first ih =>
    cases second with
    | nil => rfl
    | cons b second =>
      simp only [List.map_cons, commonStart, (shift_injective offset).eq_iff]
      split
      · rw [ih, List.map_cons]
      · rfl

private theorem isRow_shift (expr : Expr) : (expr.shift offset).isRow = expr.isRow := by
  cases expr <;> rfl

private theorem foldl_commonStart_shift (start rest : List Expr) :
    (rest.map (shift offset)).foldl (fun start branch => commonStart start branch.items)
        (start.map (shift offset)) =
      (rest.foldl (fun start branch => commonStart start branch.items) start).map (shift offset) := by
  induction rest generalizing start with
  | nil => rfl
  | cons branch rest ih =>
    rw [List.map_cons, List.foldl_cons, List.foldl_cons, items_shift, commonStart_shift, ih]

private theorem remaining_shift (length : Nat) (parts : List Expr) :
    (parts.map (shift offset)).map (fun branch => ofItems (branch.items.drop length)) =
      (parts.map fun branch => ofItems (branch.items.drop length)).map (shift offset) := by
  simp only [List.map_map, List.map_inj_left, Function.comp_apply, items_shift, ← List.map_drop,
    ofItems_shift, implies_true]

private theorem alternate_shift (parts : List Expr) :
    alternate (parts.map (shift offset)) = (alternate parts).shift offset := by
  rw [alternate, alternate, flatMap_branches_shift]
  cases parts.flatMap branches with
  | nil => rfl
  | cons first rest =>
    cases rest with
    | nil => rfl
    | cons second rest =>
      have sets := mapM_set?_shift offset (first :: second :: rest)
      have rows : ((first :: second :: rest).map (shift offset)).all isRow =
          (first :: second :: rest).all isRow := by
        simp only [List.all_map, Function.comp_def, isRow_shift]
      have shared := foldl_commonStart_shift offset first.items (second :: rest)
      have whole := ofBranches_shift offset (first :: second :: rest)
      have left := fun length => remaining_shift offset length (first :: second :: rest)
      simp only [List.map_cons, ← items_shift] at sets rows shared whole left ⊢
      rw [sets, rows, shared]
      split
      · exact (ofSet_shift offset _).symm
      · have start : ∀ (row : Bool) (parts : List Expr),
            (if row = true then parts.map (shift offset) else []) =
              (if row = true then parts else []).map (shift offset) := by
          intro row parts
          cases row <;> rfl
        rw [start]
        generalize (if (first :: second :: rest).all isRow = true then _ else _) = start
        rw [List.isEmpty_map]
        split
        · exact whole
        · rw [List.length_map, left, ← List.map_cons, ← List.map_cons, flatMap_branches_shift,
            choice_shift, ← List.map_singleton, ← List.map_append, concat_shift]

private theorem isWidthless_shift (expr : Expr) :
    (expr.shift offset).isWidthless = expr.isWidthless := by
  induction expr with
  | group index name body ih => exact ih
  | repeated least most isLazy body ih => simp [shift, isWidthless, ih]
  | seq first second firstIh secondIh => simp [shift, isWidthless, firstIh, secondIh]
  | alt first second firstIh secondIh => simp [shift, isWidthless, firstIh, secondIh]
  | _ => rfl

private theorem repeating_shift (least : Nat) (most : Option Nat) (isLazy : Bool) (body : Expr) :
    repeating least most isLazy (body.shift offset) = (repeating least most isLazy body).shift offset := by
  simp only [repeating, isWidthless_shift, apply_ite (shift offset)]
  rfl

end Expr

/-! ### What is being read -/

variable (offset : Nat)

def Part.shift : Part → Part
  | matching expr => matching (expr.shift offset)
  | switches => switches

def GroupKind.shift : GroupKind → GroupKind
  | plain => plain
  | capture index name => capture (index + offset) name

def Level.shift (level : Level) : Level :=
  { level with
    branches := level.branches.map (Expr.shift offset)
    parts := level.parts.map (Part.shift offset) }

theorem Part.toExpr_shift (part : Part) : (part.shift offset).toExpr = part.toExpr.shift offset := by
  cases part <;> rfl

theorem GroupKind.wrap_shift (kind : GroupKind) (body : Expr) :
    (kind.shift offset).wrap (body.shift offset) = (kind.wrap body).shift offset := by
  cases kind <;> rfl

namespace Level

theorem finishBranch_shift (level : Level) :
    (level.shift offset).finishBranch = level.finishBranch.shift offset := by
  have parts : (level.parts.map (Part.shift offset)).reverse.map Part.toExpr =
      (level.parts.reverse.map Part.toExpr).map (Expr.shift offset) := by
    simp only [← List.map_reverse, List.map_map, Function.comp_def, Part.toExpr_shift]
  simp only [finishBranch, shift, parts, Expr.concat_shift, List.map_cons, List.map_nil]

theorem toExpr_shift (level : Level) : (level.shift offset).toExpr = level.toExpr.shift offset := by
  rw [toExpr, finishBranch_shift, toExpr, ← Expr.alternate_shift, List.map_reverse]
  rfl

theorem repeatLast_shift (level : Level) (least : Nat) (most : Option Nat) (isLazy : Bool) :
    (level.shift offset).repeatLast least most isLazy =
      (level.repeatLast least most isLazy).map (Level.shift offset) := by
  cases parts : level.parts with
  | nil => simp only [repeatLast, shift, parts, List.map_nil, Option.map_none]
  | cons part rest =>
    cases part with
    | switches => simp only [repeatLast, shift, parts, List.map_cons, Part.shift, Option.map_none]
    | matching expr =>
      simp only [repeatLast, shift, parts, List.map_cons, Part.shift, Expr.repeating_shift,
        Option.map_some]

end Level

end PathRouting.Regex
