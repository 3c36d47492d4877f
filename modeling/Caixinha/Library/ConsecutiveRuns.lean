import Mathlib.Algebra.Order.Group.Int
import Mathlib.Tactic.Common

/-! Runs of consecutive marked integers, and the streak that a pass upwards over them holds. -/
namespace Caixinha.Library.ConsecutiveRuns

variable {k streak : Nat} {last g : Int} {marked A B : Int → Prop}

/-- As many as `k` integers in a row are marked. -/
def HasRun (k : Nat) (marked : Int → Prop) : Prop := ∃ first : Int, ∀ j : Nat, j < k → marked (first + j)

/-- The integers up to `last` that a streak covers. -/
def Held (streak : Nat) (last m : Int) : Prop := last - streak < m ∧ m ≤ last

theorem hasRun_congr (h : ∀ m, A m ↔ B m) : HasRun k A ↔ HasRun k B := by
  simp only [HasRun, h]

theorem not_hasRun_held (h : streak < k) : ¬ HasRun k (Held streak last) := by
  rintro ⟨first, hrun⟩
  have hlow := hrun 0 (by omega)
  have hhigh := hrun (k - 1) (by omega)
  unfold Held at hlow hhigh
  omega

theorem hasRun_of_held (h : k ≤ streak) (hmarked : ∀ m, Held streak last m → marked m) : HasRun k marked := by
  refine ⟨last - k + 1, fun j hj => hmarked _ ?_⟩
  unfold Held
  omega

theorem held_succ (streak : Nat) (last m : Int) :
    Held (streak + 1) (last + 1) m ↔ Held streak last m ∨ m = last + 1 := by
  unfold Held
  omega

theorem held_one (last m : Int) : Held 1 last m ↔ m = last := by
  unfold Held
  omega

theorem not_held_zero (last m : Int) : ¬ Held 0 last m := by
  unfold Held
  omega

/-- No run crosses an integer that is not marked. -/
theorem hasRun_gap (hA : ∀ m, A m → m < g) (hB : ∀ m, B m → g < m) (hnone : ¬ HasRun k A) :
    HasRun k (fun m => A m ∨ B m) ↔ HasRun k B := by
  constructor
  · rintro ⟨first, hrun⟩
    by_cases hfirst : first < g
    · have hbelow : ∀ j : Nat, j < k → first + j < g := by
        intro j
        induction j with
        | zero => intro _; omega
        | succ j ih =>
          intro hj
          have hprevious := ih (by omega)
          rcases hrun (j + 1) hj with hmark | hmark
          · exact hA _ hmark
          · have := hB _ hmark
            omega
      refine absurd ⟨first, fun j hj => (hrun j hj).resolve_right fun hmark => ?_⟩ hnone
      have := hB _ hmark
      have := hbelow j hj
      omega
    · refine ⟨first, fun j hj => (hrun j hj).resolve_left fun hmark => ?_⟩
      have := hA _ hmark
      omega
  · rintro ⟨first, hrun⟩
    exact ⟨first, fun j hj => .inr (hrun j hj)⟩

end Caixinha.Library.ConsecutiveRuns
