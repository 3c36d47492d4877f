import Mathlib.Algebra.Order.BigOperators.Group.List
import Mathlib.Algebra.Order.Ring.Int
import Mathlib.Tactic.Ring

/-! Sums over the dated rows of a ledger: those of one day, through a day, between two days. -/
namespace Caixinha.Library.DatedSum

variable {α : Type} (date amount : α → Int)

/-- The amounts of the rows whose date counts. -/
def sumOn (p : Int → Prop) [DecidablePred p] (rows : List α) : Int :=
  ((rows.filter (fun x => p (date x))).map amount).sum

section Rows
variable {date amount} {p q : Int → Prop} [DecidablePred p] [DecidablePred q] {rows new : List α} {x : α}

@[simp] theorem sumOn_nil : sumOn date amount p [] = 0 := rfl

@[simp] theorem sumOn_append :
    sumOn date amount p (rows ++ new) = sumOn date amount p rows + sumOn date amount p new := by
  rw [sumOn, List.filter_append, List.map_append, List.sum_append, sumOn, sumOn]

theorem sumOn_cons :
    sumOn date amount p (x :: rows) =
      (if p (date x) then amount x else 0) + sumOn date amount p rows := by
  by_cases h : p (date x)
  · simp [sumOn, h]
  · simp [sumOn, h]

theorem sumOn_singleton : sumOn date amount p [x] = if p (date x) then amount x else 0 := by
  rw [sumOn_cons, sumOn_nil, add_zero]

/-- Only the dates that occur matter. -/
theorem sumOn_congr (h : ∀ x ∈ rows, p (date x) ↔ q (date x)) :
    sumOn date amount p rows = sumOn date amount q rows := by
  rw [sumOn, sumOn]
  congr 2
  apply List.filter_congr
  intro x hx
  rw [decide_eq_decide]
  exact h x hx

/-- Rows without an amount do not. -/
theorem sumOn_congr_of_ne_zero (h : ∀ x ∈ rows, amount x ≠ 0 → (p (date x) ↔ q (date x))) :
    sumOn date amount p rows = sumOn date amount q rows := by
  induction rows with
  | nil => rfl
  | cons x rows ih =>
    rw [sumOn_cons, sumOn_cons, ih fun y hy => h y (List.mem_cons_of_mem _ hy)]
    congr 1
    by_cases hzero : amount x = 0
    · rw [hzero, ite_self, ite_self]
    · exact if_congr (h x (List.mem_cons_self ..) hzero) rfl rfl

theorem sumOn_eq_zero (h : ∀ x ∈ rows, ¬ p (date x)) : sumOn date amount p rows = 0 := by
  have hnone : rows.filter (fun x => p (date x)) = [] :=
    List.filter_eq_nil_iff.mpr fun x hx => by simpa using h x hx
  rw [sumOn, hnone, List.map_nil, List.sum_nil]

theorem sumOn_nonneg (h : ∀ x ∈ rows, 0 ≤ amount x) : 0 ≤ sumOn date amount p rows := by
  rw [sumOn]
  apply List.sum_nonneg
  intro a ha
  obtain ⟨x, hx, rfl⟩ := List.mem_map.mp ha
  exact h x (List.mem_of_mem_filter hx)

/-- A set of dates splits into two. -/
theorem sumOn_or (h : ∀ x ∈ rows, ¬ (p (date x) ∧ q (date x))) :
    sumOn date amount (fun d => p d ∨ q d) rows =
      sumOn date amount p rows + sumOn date amount q rows := by
  induction rows with
  | nil => rfl
  | cons x rows ih =>
    have hrest := ih fun y hy => h y (List.mem_cons_of_mem _ hy)
    have hx := h x (List.mem_cons_self ..)
    rw [sumOn_cons, sumOn_cons, sumOn_cons, hrest]
    by_cases hp : p (date x)
    · have hq : ¬ q (date x) := fun hq => hx ⟨hp, hq⟩
      rw [if_pos (Or.inl hp), if_pos hp, if_neg hq]
      ring
    · by_cases hq : q (date x)
      · rw [if_pos (Or.inr hq), if_neg hp, if_pos hq]
        ring
      · rw [if_neg (by simp [hp, hq]), if_neg hp, if_neg hq]
        ring

end Rows

section Days
variable {date amount} {rows : List α} {lower day : Int}

/-- One more day. -/
theorem sumOn_succ (h : lower < day) : sumOn date amount (fun d => lower < d ∧ d < day + 1) rows =
    sumOn date amount (fun d => lower < d ∧ d < day) rows + sumOn date amount (fun d => d = day) rows := by
  rw [← sumOn_or (fun x _ => by omega)]
  apply sumOn_congr
  intro x _
  omega

end Days

end Caixinha.Library.DatedSum
