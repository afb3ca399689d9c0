import Mathlib.Data.List.Basic
import Mathlib.Data.List.Flatten
import PathRouting.Regex.Reader

/-! The groups of an expression. Bringing an expression into its simple form may drop
groups, but never doubles one. -/

namespace PathRouting.Regex

namespace Expr

private theorem groups_ofItems (parts : List Expr) : (ofItems parts).groups = parts.flatMap groups := by
  induction parts with
  | nil => rfl
  | cons part rest ih =>
    cases rest with
    | nil => exact (List.append_nil _).symm
    | cons next later => exact congrArg (part.groups ++ ·) ih

private theorem groups_items (expr : Expr) : expr.items.flatMap groups = expr.groups := by
  induction expr with
  | seq first second firstIh secondIh => rw [items, List.flatMap_append, firstIh, secondIh, groups]
  | _ => simp [items, groups]

private theorem groups_joinLiterals (parts : List Expr) :
    (joinLiterals parts).flatMap groups = parts.flatMap groups := by
  induction parts with
  | nil => rfl
  | cons part rest ih =>
    unfold joinLiterals
    split
    next chars more later joined =>
      rw [joined] at ih
      exact ih
    next => rw [List.flatMap_cons, List.flatMap_cons, ih]

theorem groups_concat (parts : List Expr) : (concat parts).groups = parts.flatMap groups := by
  rw [concat, groups_ofItems, groups_joinLiterals, List.flatMap_assoc]
  simp only [groups_items]

private theorem groups_branches (expr : Expr) : expr.branches.flatMap groups = expr.groups := by
  induction expr with
  | alt first second firstIh secondIh =>
    rw [branches, List.flatMap_append, firstIh, secondIh, groups]
  | _ => simp [branches, groups]

private theorem groups_ofBranches (parts : List Expr) :
    (ofBranches parts).groups = parts.flatMap groups := by
  induction parts with
  | nil => rfl
  | cons part rest ih =>
    cases rest with
    | nil => exact (List.append_nil _).symm
    | cons next later => exact congrArg (part.groups ++ ·) ih

private theorem groups_ofBranches_sublist (parts : List Expr) :
    (ofBranches parts).groups.Sublist (parts.flatMap groups) := by
  rw [groups_ofBranches]

theorem groups_ofSet (set : CharSet) : (ofSet set).groups = [] := by
  rw [ofSet]
  split <;> rfl

private theorem groups_choice (parts : List Expr) :
    (choice parts).groups.Sublist (parts.flatMap groups) := by
  unfold choice
  split
  · exact groups_ofBranches_sublist _
  · exact groups_ofBranches_sublist _
  · split
    · rw [groups_ofSet]
      exact List.nil_sublist _
    · exact groups_ofBranches_sublist _

private theorem prefix_commonStart (first second : List Expr) : commonStart first second <+: first := by
  induction first generalizing second with
  | nil => exact List.nil_prefix
  | cons a first ih =>
    cases second with
    | nil => exact List.nil_prefix
    | cons b second =>
      rw [commonStart]
      split
      · exact List.cons_prefix_cons.mpr ⟨rfl, ih second⟩
      · exact List.nil_prefix

private theorem prefix_foldl_commonStart (start : List Expr) (rest : List Expr) :
    rest.foldl (fun start branch => commonStart start branch.items) start <+: start := by
  induction rest generalizing start with
  | nil => exact List.prefix_refl start
  | cons branch rest ih => exact (ih _).trans (prefix_commonStart start branch.items)

private theorem groups_factored {first : Expr} {rest : List Expr} {start : List Expr}
    (begins : start <+: first.items) :
    (start.flatMap groups ++ ((first :: rest).map fun branch =>
      ofItems (branch.items.drop start.length)).flatMap groups).Sublist
        ((first :: rest).flatMap groups) := by
  have whole : start ++ first.items.drop start.length = first.items :=
    (List.prefix_iff_eq_append.mp begins)
  rw [List.map_cons, List.flatMap_cons, groups_ofItems, ← List.append_assoc, ← List.flatMap_append,
    whole, groups_items, List.flatMap_cons, List.flatMap_map]
  apply (List.Sublist.refl _).append
  apply List.Sublist.flatMap_right
  intro branch _
  rw [groups_ofItems, ← groups_items branch]
  exact (List.drop_sublist _ _).flatMap groups

/-- What all branches begin with is kept once, so a choice never doubles a group. -/
theorem groups_alternate (parts : List Expr) :
    (alternate parts).groups.Sublist (parts.flatMap groups) := by
  have flat : (parts.flatMap branches).flatMap groups = parts.flatMap groups := by
    rw [List.flatMap_assoc]
    simp only [groups_branches]
  rw [← flat, alternate]
  cases parts.flatMap branches with
  | nil => exact groups_ofBranches_sublist _
  | cons first rest =>
    cases rest with
    | nil => exact groups_ofBranches_sublist _
    | cons second rest =>
      simp only
      split
      · rw [groups_ofSet]
        exact List.nil_sublist _
      · have begins : (if (first :: second :: rest).all isRow then
            (second :: rest).foldl (fun start branch => commonStart start branch.items) first.items
          else []) <+: first.items := by
          split
          · exact prefix_foldl_commonStart _ _
          · exact List.nil_prefix
        generalize (if (first :: second :: rest).all isRow then _ else _) = start at begins ⊢
        split
        · exact groups_ofBranches_sublist _
        · rw [groups_concat, List.flatMap_append, List.flatMap_singleton]
          refine ((List.Sublist.refl _).append (groups_choice _)).trans ?_
          rw [List.flatMap_assoc]
          simp only [groups_branches]
          exact groups_factored begins

private theorem groups_repeating (least : Nat) (most : Option Nat) (isLazy : Bool) (body : Expr) :
    (repeating least most isLazy body).groups.Sublist body.groups := by
  have all : ∀ (least : Nat) (most : Option Nat),
      (if most = some 0 then empty else if least = 1 ∧ most = some 1 then body
        else repeated least most isLazy body).groups.Sublist body.groups := by
    intro least most
    split
    · exact List.nil_sublist _
    · split <;> exact List.Sublist.refl _
  exact all _ _

end Expr

def Level.groups (level : Level) : List (Nat × Option String) :=
  level.branches.reverse.flatMap Expr.groups ++
    level.parts.reverse.flatMap fun part => part.toExpr.groups

namespace Level

theorem groups_push (level : Level) (part : Part) :
    (level.push part).groups = level.groups ++ part.toExpr.groups := by
  simp [groups, push]

theorem groups_finishBranch (level : Level) : level.finishBranch.groups = level.groups := by
  simp only [groups, finishBranch, List.reverse_cons, List.reverse_nil, List.flatMap_append,
    List.flatMap_singleton, List.flatMap_nil, List.append_nil, Expr.groups_concat, List.flatMap_map]

theorem groups_toExpr (level : Level) : level.toExpr.groups.Sublist level.groups := by
  have branches : level.finishBranch.groups =
      level.finishBranch.branches.reverse.flatMap Expr.groups := by
    simp [groups, finishBranch]
  rw [toExpr, ← groups_finishBranch, branches]
  exact Expr.groups_alternate _

theorem groups_repeatLast {level after : Level} {least : Nat} {most : Option Nat} {isLazy : Bool}
    (repeated : level.repeatLast least most isLazy = some after) :
    after.groups.Sublist level.groups := by
  unfold repeatLast at repeated
  split at repeated
  next expr rest parts =>
    cases repeated
    simp only [groups, parts, List.reverse_cons, List.flatMap_append, List.flatMap_singleton,
      ← List.append_assoc]
    exact (List.Sublist.refl _).append (Expr.groups_repeating _ _ _ _)
  next => cases repeated

end Level

theorem groups_charExpr? {flags : Flags} {c : Char} {byte : Bool} {expr : Expr}
    (found : charExpr? flags c byte = some expr) : expr.groups = [] := by
  unfold charExpr? at found
  split at found
  · split at found
    · cases found
      exact Expr.groups_ofSet _
    · cases found
      rfl
  · split at found
    · cases found
    · split at found
      · cases found
        exact Expr.groups_ofSet _
      · cases found
        rfl

theorem Atom.groups_expr? {flags : Flags} {atom : Atom} {expr : Expr}
    (found : atom.expr? flags = some expr) : expr.groups = [] := by
  cases atom with
  | char c byte => exact groups_charExpr? found
  | set set =>
    cases found
    exact Expr.groups_ofSet _
  | look condition =>
    cases found
    rfl

end PathRouting.Regex
