import Caixinha.Library.Table
import Mathlib.Data.List.Sort

/-! Tables related row by row: what filtering, sorting and reading them keeps. -/
namespace Caixinha.Library.Table

section Related
variable {α β : Type} {R : α → β → Prop} {xs : List α} {ys : List β}

/-- Filters that agree on related rows keep them together, and tell what they let through. -/
theorem forall₂_filter {p : α → Bool} {q : β → Bool} (h : List.Forall₂ R xs ys)
    (hpq : ∀ x y, R x y → p x = q y) :
    List.Forall₂ (fun x y => R x y ∧ p x = true) (xs.filter p) (ys.filter q) := by
  induction h with
  | nil => exact .nil
  | @cons x y xs ys hxy _ ih =>
    rw [List.filter_cons, List.filter_cons, ← hpq x y hxy]
    split
    · rename_i hp
      exact .cons ⟨hxy, hp⟩ ih
    · exact ih

theorem map_eq_of_forall₂ {γ : Type} {f : α → γ} {g : β → γ} (h : List.Forall₂ R xs ys)
    (hfg : ∀ x y, R x y → f x = g y) : xs.map f = ys.map g := by
  induction h with
  | nil => rfl
  | @cons x y _ _ hxy _ ih => rw [List.map_cons, List.map_cons, ih, hfg x y hxy]

theorem any_eq_of_forall₂ {p : α → Bool} {q : β → Bool} (h : List.Forall₂ R xs ys)
    (hpq : ∀ x y, R x y → p x = q y) : xs.any p = ys.any q := by
  induction h with
  | nil => rfl
  | @cons x y _ _ hxy _ ih => rw [List.any_cons, List.any_cons, ih, hpq x y hxy]

theorem all_eq_of_forall₂ {p : α → Bool} {q : β → Bool} (h : List.Forall₂ R xs ys)
    (hpq : ∀ x y, R x y → p x = q y) : xs.all p = ys.all q := by
  induction h with
  | nil => rfl
  | @cons x y _ _ hxy _ ih => rw [List.all_cons, List.all_cons, ih, hpq x y hxy]

theorem mem_of_forall₂ {y : β} (h : List.Forall₂ R xs ys) (hy : y ∈ ys) : ∃ x ∈ xs, R x y := by
  induction h with
  | nil => cases hy
  | @cons a b _ _ hab _ ih =>
    rcases List.mem_cons.mp hy with rfl | hy
    · exact ⟨a, List.mem_cons_self .., hab⟩
    · obtain ⟨x, hx, hxy⟩ := ih hy
      exact ⟨x, List.mem_cons_of_mem _ hx, hxy⟩

theorem exists_of_forall₂ {x : α} (h : List.Forall₂ R xs ys) (hx : x ∈ xs) : ∃ y ∈ ys, R x y := by
  obtain ⟨y, hy, hxy⟩ := mem_of_forall₂ h.flip hx
  exact ⟨y, hy, hxy⟩

/-- What holds of all related members of the two lists holds row by row. -/
theorem forall₂_of_mem {S : α → β → Prop} (h : List.Forall₂ R xs ys)
    (hS : ∀ x ∈ xs, ∀ y ∈ ys, R x y → S x y) : List.Forall₂ S xs ys := by
  induction h with
  | nil => exact .nil
  | cons hxy _ ih =>
    refine .cons (hS _ (List.mem_cons_self ..) _ (List.mem_cons_self ..) hxy) (ih fun x hx y hy => ?_)
    exact hS x (List.mem_cons_of_mem _ hx) y (List.mem_cons_of_mem _ hy)

/-- Two relations in a row add up to a third exactly when each row in between is as it must be. -/
theorem forall₂_trans_iff {γ : Type} {S : β → γ → Prop} {T : α → γ → Prop} {V : β → Prop}
    {zs : List γ} (h : List.Forall₂ R xs ys) (h' : List.Forall₂ S ys zs)
    (hiff : ∀ x y z, R x y → S y z → (T x z ↔ V y)) : List.Forall₂ T xs zs ↔ ∀ y ∈ ys, V y := by
  induction h generalizing zs with
  | nil =>
    cases h'
    simp
  | @cons x y _ _ hxy _ ih =>
    cases h' with
    | cons hyz h' => rw [List.forall₂_cons, ih h', List.forall_mem_cons, hiff x y _ hxy hyz]

/-- Sorting by a measure keeps related rows of the same measure together. -/
theorem forall₂_insertionSort {f : α → Nat} {g : β → Nat} (h : List.Forall₂ R xs ys)
    (hfg : ∀ x y, R x y → f x = g y) :
    List.Forall₂ R (xs.insertionSort (fun a b => f a ≤ f b)) (ys.insertionSort (fun a b => g a ≤ g b)) := by
  have hinsert : ∀ {x y as bs}, R x y → List.Forall₂ R as bs →
      List.Forall₂ R (as.orderedInsert (fun a b => f a ≤ f b) x)
        (bs.orderedInsert (fun a b => g a ≤ g b) y) := by
    intro x y as bs hxy hall
    induction hall with
    | nil => exact .cons hxy .nil
    | @cons a b as bs hab htail ih =>
      rw [List.orderedInsert_cons, List.orderedInsert_cons, hfg x y hxy, hfg a b hab]
      split
      · exact .cons hxy (.cons hab htail)
      · exact .cons hab ih
  induction h with
  | nil => exact .nil
  | cons hxy _ ih => exact hinsert hxy ih

end Related

section Keyed
variable {α : Type} {key : α → Nat} {rows : List α} {r : α} {k : Nat}

/-- A row found by key is still found among the rows it qualifies for. -/
theorem lookup_filter {p : α → Bool} (h : lookup key rows k = some r) (hp : p r = true) :
    lookup key (rows.filter p) k = some r := by
  induction rows with
  | nil => cases h
  | cons x rows ih =>
    rw [lookup, List.find?_cons] at h
    by_cases hx : key x = k
    · simp only [hx, decide_true, Option.some.injEq] at h
      subst h
      simp [lookup, hp, hx]
    · simp only [hx, decide_false] at h
      rw [List.filter_cons]
      split
      · rw [lookup, List.find?_cons_of_neg (by simpa using hx)]
        exact ih h
      · exact ih h

end Keyed

end Caixinha.Library.Table
