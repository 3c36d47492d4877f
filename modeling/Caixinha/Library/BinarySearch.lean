import Caixinha.Library.Fallible
import Mathlib.Order.Bounds.Basic
import Mathlib.Tactic.Common

/-! The last integer of an interval that passes a test, found by halving the interval. -/
namespace Caixinha.Library.BinarySearch
open Caixinha.Library.Fallible

variable {ε δ : Type}

/-- Halve `lo..hi`, keeping the last candidate that passed and what its test returned. The length
of the interval is fuel enough. -/
def search (test : Int → Except ε (Bool × δ)) : Nat → Int → Int → Int × δ → Except ε (Int × δ)
  | 0, _, _, best => .ok best
  | fuel + 1, lo, hi, best =>
    if lo ≤ hi then do
      let mid := (lo + hi) / 2
      let (passed, data) ← test mid
      if passed then search test fuel (mid + 1) hi (mid, data) else search test fuel lo (mid - 1) best
    else .ok best

variable {test : Int → Except ε (Bool × δ)} {p : Int → Prop} {data : Int → δ} {H : Int}

/-- What the loop keeps of its bounds: the best candidate passes and nothing above `hi` does. -/
private structure Bracket (p : Int → Prop) (H lo hi best : Int) : Prop where
  low : 0 ≤ lo
  high : hi ≤ H
  best_nonneg : 0 ≤ best
  best_le : best ≤ H
  below : lo ≤ best + 1
  passes : p best
  fails : ∀ c, hi < c → c ≤ H → ¬ p c

private theorem Bracket.isGreatest {lo hi best : Int} (h : Bracket p H lo hi best) (hempty : ¬ lo ≤ hi) :
    IsGreatest {c | 0 ≤ c ∧ c ≤ H ∧ p c} best := by
  refine ⟨⟨h.best_nonneg, h.best_le, h.passes⟩, fun c ⟨_, hcH, hc⟩ => ?_⟩
  by_contra hgt
  have := h.below
  exact h.fails c (by omega) hcH hc

private theorem search_bracket (hdown : ∀ a b, 0 ≤ a → a ≤ b → b ≤ H → p b → p a)
    (htest : ∀ c, 0 ≤ c → c ≤ H → ∃ passed, test c = .ok (passed, data c) ∧ (passed = true ↔ p c))
    (fuel : Nat) (lo hi best : Int) (hfuel : hi + 1 - lo ≤ fuel) (h : Bracket p H lo hi best) :
    ∃ r, search test fuel lo hi (best, data best) = .ok (r, data r) ∧
      IsGreatest {c | 0 ≤ c ∧ c ≤ H ∧ p c} r := by
  induction fuel generalizing lo hi best with
  | zero => exact ⟨best, rfl, h.isGreatest (by omega)⟩
  | succ fuel ih =>
    rw [search]
    by_cases hle : lo ≤ hi
    · have hlow := h.low
      have hhigh := h.high
      obtain ⟨passed, hmid, hpassed⟩ := htest ((lo + hi) / 2) (by omega) (by omega)
      rw [if_pos hle]
      dsimp only
      rw [hmid, ok_bind]
      cases passed with
      | true =>
        have hnext : Bracket p H ((lo + hi) / 2 + 1) hi ((lo + hi) / 2) := {
          low := by omega
          high := hhigh
          best_nonneg := by omega
          best_le := by omega
          below := le_rfl
          passes := hpassed.mp rfl
          fails := h.fails }
        exact ih _ _ _ (by omega) hnext
      | false =>
        have hp : ¬ p ((lo + hi) / 2) := fun hp => Bool.noConfusion (hpassed.mpr hp)
        have hnext : Bracket p H lo ((lo + hi) / 2 - 1) best := {
          low := hlow
          high := by omega
          best_nonneg := h.best_nonneg
          best_le := h.best_le
          below := h.below
          passes := h.passes
          fails := fun c hc hcH hpc => hp (hdown _ c (by omega) (by omega) hcH hpc) }
        exact ih _ _ _ (by omega) hnext
    · rw [if_neg hle]
      exact ⟨best, rfl, h.isGreatest hle⟩

/-- Where the test fails above whatever it fails at, the search finds the last one that passes. -/
theorem search_isGreatest (hdown : ∀ a b, 0 ≤ a → a ≤ b → b ≤ H → p b → p a)
    (htest : ∀ c, 0 ≤ c → c ≤ H → ∃ passed, test c = .ok (passed, data c) ∧ (passed = true ↔ p c))
    (hH : 0 ≤ H) (hzero : p 0) :
    ∃ r, search test (H + 1).toNat 0 H (0, data 0) = .ok (r, data r) ∧
      IsGreatest {c | 0 ≤ c ∧ c ≤ H ∧ p c} r := by
  refine search_bracket hdown htest _ 0 H 0 (by omega) ?_
  exact {
    low := le_rfl
    high := le_rfl
    best_nonneg := le_rfl
    best_le := hH
    below := by decide
    passes := hzero
    fails := fun c hc hcH => absurd hcH (not_le.mpr hc) }

end Caixinha.Library.BinarySearch
