import Mathlib.Algebra.Order.BigOperators.Group.List
import Mathlib.Algebra.Order.Group.Int
import Mathlib.Algebra.Ring.Int.Defs
import Mathlib.Tactic.Common

/-! The positive parts of a list of amounts: clamping each one and clamping their sum. -/
namespace Caixinha.Library.PositiveParts

variable {xs : List Int}

/-- What the amounts above zero add up to. -/
def surplus (xs : List Int) : Int := (xs.map (max 0)).sum

/-- What the amounts below zero add up to. -/
def deficit (xs : List Int) : Int := (xs.map (fun x => max 0 (-x))).sum

theorem surplus_nonneg (xs : List Int) : 0 ≤ surplus xs :=
  List.sum_nonneg (by simp +contextual)

theorem deficit_nonneg (xs : List Int) : 0 ≤ deficit xs :=
  List.sum_nonneg (by simp +contextual)

theorem sum_eq_surplus_sub_deficit (xs : List Int) : xs.sum = surplus xs - deficit xs := by
  induction xs with
  | nil => rfl
  | cons x xs ih =>
    simp only [surplus, deficit, List.map_cons, List.sum_cons] at ih ⊢
    omega

theorem surplus_eq_zero : surplus xs = 0 ↔ ∀ x ∈ xs, x ≤ 0 := by
  induction xs with
  | nil => simp [surplus]
  | cons x xs ih =>
    have hrest := surplus_nonneg xs
    rw [List.forall_mem_cons, ← ih]
    simp only [surplus, List.map_cons, List.sum_cons] at hrest ⊢
    omega

theorem deficit_eq_zero : deficit xs = 0 ↔ ∀ x ∈ xs, 0 ≤ x := by
  induction xs with
  | nil => simp [deficit]
  | cons x xs ih =>
    have hrest := deficit_nonneg xs
    rw [List.forall_mem_cons, ← ih]
    simp only [deficit, List.map_cons, List.sum_cons] at hrest ⊢
    omega

/-- Clamping the sum is clamping each amount just when no two amounts have opposite signs. -/
theorem surplus_eq_iff : surplus xs = max 0 xs.sum ↔ (∀ x ∈ xs, 0 ≤ x) ∨ ∀ x ∈ xs, x ≤ 0 := by
  rw [← deficit_eq_zero, ← surplus_eq_zero, sum_eq_surplus_sub_deficit]
  have := surplus_nonneg xs
  have := deficit_nonneg xs
  omega

end Caixinha.Library.PositiveParts
