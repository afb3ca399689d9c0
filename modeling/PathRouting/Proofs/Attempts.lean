import Mathlib.Data.List.Forall2

/-! Rows of attempts. Items are tried one after another; the row succeeds if all of them
do, and otherwise fails as the first that does not. -/

namespace PathRouting

variable {α β γ ε : Type}

theorem exists_of_map_ok {f : α → β} {result : Except ε α} {value : β}
    (mapped : result.map f = .ok value) : ∃ before, result = .ok before ∧ f before = value := by
  cases result with
  | error error => cases mapped
  | ok before =>
    cases mapped
    exact ⟨before, rfl, rfl⟩

theorem error_of_map_error {f : α → β} {result : Except ε α} {error : ε}
    (failed : result.map f = .error error) : result = .error error := by
  cases result with
  | error reason =>
    cases failed
    rfl
  | ok value => cases failed

theorem forall₂_of_mapM_ok {f : α → Except ε β} {items : List α} {results : List β}
    (done : items.mapM f = .ok results) :
    List.Forall₂ (fun item result => f item = .ok result) items results := by
  induction items generalizing results with
  | nil =>
    cases done
    exact .nil
  | cons item items ih =>
    rw [List.mapM_cons] at done
    cases first : f item with
    | error error => simp [first, bind, Except.bind] at done
    | ok value =>
      cases rest : items.mapM f with
      | error error => simp [first, rest, bind, Except.bind] at done
      | ok values =>
        simp only [first, rest, bind, Except.bind, pure, Except.pure, Except.ok.injEq] at done
        subst done
        exact .cons first (ih rest)

theorem mapM_ok_of_forall₂ {f : α → Except ε β} {items : List α} {results : List β}
    (each : List.Forall₂ (fun item result => f item = .ok result) items results) :
    items.mapM f = .ok results := by
  induction each with
  | nil => rfl
  | cons here _ ih =>
    rw [List.mapM_cons, here, ih]
    rfl

theorem map_of_mapM_ok {f : α → Except ε β} {g : β → α} {items : List α} {results : List β}
    (done : items.mapM f = .ok results)
    (back : ∀ item result, f item = .ok result → g result = item) : results.map g = items := by
  have each := forall₂_of_mapM_ok done
  clear done
  induction each with
  | nil => rfl
  | cons made _ ih => rw [List.map_cons, back _ _ made, ih]

private theorem exists_of_mem_forall₂ {P : α → β → Prop} {items : List α} {results : List β}
    (each : List.Forall₂ P items results) {result : β} (member : result ∈ results) :
    ∃ item ∈ items, P item result := by
  induction each with
  | nil => cases member
  | @cons item _ _ _ first _ ih =>
    rcases List.mem_cons.mp member with rfl | later
    · exact ⟨item, List.mem_cons_self, first⟩
    · obtain ⟨found, inside, same⟩ := ih later
      exact ⟨found, List.mem_cons_of_mem _ inside, same⟩

theorem mem_of_mapM_ok {f : α → Except ε β} {items : List α} {results : List β}
    (done : items.mapM f = .ok results) {result : β} (member : result ∈ results) :
    ∃ item ∈ items, f item = .ok result :=
  exists_of_mem_forall₂ (forall₂_of_mapM_ok done) member

/-- What holds between any two items of a row, in their order, holds between the results. -/
theorem pairwise_of_forall₂ {P : α → β → Prop} {R : α → α → Prop} {S : β → β → Prop}
    (carried : ∀ {first second one two}, P first one → P second two → R first second → S one two)
    {items : List α} {results : List β} (each : List.Forall₂ P items results)
    (pairwise : items.Pairwise R) : results.Pairwise S := by
  induction each with
  | nil => exact .nil
  | @cons item result items results here later ih =>
    obtain ⟨others, rest⟩ := List.pairwise_cons.mp pairwise
    refine List.pairwise_cons.mpr ⟨fun two member => ?_, ih rest⟩
    obtain ⟨second, inside, related⟩ := exists_of_mem_forall₂ later member
    exact carried here related (others second inside)

theorem exists_of_mapM_error {f : α → Except ε β} {items : List α} {error : ε}
    (failed : items.mapM f = .error error) : ∃ item ∈ items, f item = .error error := by
  induction items with
  | nil => cases failed
  | cons item items ih =>
    rw [List.mapM_cons] at failed
    cases first : f item with
    | error reason =>
      simp only [first, bind, Except.bind, Except.error.injEq] at failed
      exact ⟨item, List.mem_cons_self, failed ▸ first⟩
    | ok value =>
      cases rest : items.mapM f with
      | error reason =>
        simp only [first, rest, bind, Except.bind, Except.error.injEq] at failed
        obtain ⟨found, member, same⟩ := ih (failed ▸ rest)
        exact ⟨found, List.mem_cons_of_mem _ member, same⟩
      | ok values => simp [first, rest, bind, Except.bind, pure, Except.pure] at failed

theorem mapM_map_ok {f : β → Except ε γ} {g : α → β} {h : α → γ} {items : List α}
    (all : ∀ item ∈ items, f (g item) = .ok (h item)) :
    (items.map g).mapM f = .ok (items.map h) := by
  induction items with
  | nil => rfl
  | cons item items ih =>
    rw [List.map_cons, List.mapM_cons, all item (by simp),
      ih fun other member => all other (by simp [member])]
    rfl

end PathRouting
