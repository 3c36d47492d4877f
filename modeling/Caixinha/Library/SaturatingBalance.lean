import Mathlib.Algebra.Order.Group.Int
import Mathlib.Order.Lattice
import Mathlib.Tactic.Common

/-! Balances moved by plain additions and by withdrawals that stop at zero.
Two runs of the same moves can only meet again where a withdrawal empties both. -/
namespace Caixinha.Library.SaturatingBalance

/-- `add` moves the balance freely; `take` withdraws at most what is there. -/
inductive Move where
  | add : Int → Move
  | take : Int → Move
  deriving DecidableEq, Repr

def apply (b : Int) : Move → Int
  | .add x => b + x
  | .take x => max 0 (b - x)

def run : List Move → Int → Int
  | [], b => b
  | m :: ms, b => run ms (apply b m)

/-- Every withdrawal met on the way from `b` is covered by the balance it meets. -/
def Covered : List Move → Int → Prop
  | [], _ => True
  | .add x :: ms, b => Covered ms (b + x)
  | .take x :: ms, b => x ≤ b ∧ Covered ms (b - x)

/-- Some withdrawal met on the way from `b` leaves nothing. -/
def Absorbs : List Move → Int → Prop
  | [], _ => False
  | .add x :: ms, b => Absorbs ms (b + x)
  | .take x :: ms, b => b ≤ x ∨ Absorbs ms (b - x)

instance decidableCovered : (ms : List Move) → (b : Int) → Decidable (Covered ms b)
  | [], _ => inferInstanceAs (Decidable True)
  | .add x :: ms, b => decidableCovered ms (b + x)
  | .take x :: ms, b => @instDecidableAnd _ _ _ (decidableCovered ms (b - x))

instance decidableAbsorbs : (ms : List Move) → (b : Int) → Decidable (Absorbs ms b)
  | [], _ => inferInstanceAs (Decidable False)
  | .add x :: ms, b => decidableAbsorbs ms (b + x)
  | .take x :: ms, b => @instDecidableOr _ _ _ (decidableAbsorbs ms (b - x))

@[simp] theorem run_nil (b : Int) : run [] b = b := rfl
@[simp] theorem run_cons (m : Move) (ms : List Move) (b : Int) :
    run (m :: ms) b = run ms (apply b m) := rfl
@[simp] theorem apply_add (b x : Int) : apply b (.add x) = b + x := rfl
@[simp] theorem apply_take (b x : Int) : apply b (.take x) = max 0 (b - x) := rfl

theorem run_append (ms ns : List Move) (b : Int) : run (ms ++ ns) b = run ns (run ms b) := by
  induction ms generalizing b with
  | nil => rfl
  | cons m ms ih => exact ih (apply b m)

theorem apply_mono (m : Move) {a b : Int} (h : a ≤ b) : apply a m ≤ apply b m := by
  cases m <;> simp only [apply_add, apply_take] <;> omega

/-- Moves never spread two balances further apart. -/
theorem run_gap_le (ms : List Move) {a b : Int} (h : a ≤ b) : run ms b - run ms a ≤ b - a := by
  induction ms generalizing a b with
  | nil => exact le_rfl
  | cons m ms ih =>
    have hstep : apply b m - apply a m ≤ b - a := by
      cases m <;> simp only [apply_add, apply_take] <;> omega
    exact (ih (apply_mono m h)).trans hstep

theorem run_nonneg (ms : List Move) {b : Int} (hb : 0 ≤ b)
    (hadd : ∀ x, Move.add x ∈ ms → 0 ≤ x) : 0 ≤ run ms b := by
  induction ms generalizing b with
  | nil => exact hb
  | cons m ms ih =>
    apply ih
    · cases m with
      | add x => exact add_nonneg hb (hadd x (List.mem_cons_self ..))
      | take x => exact le_max_left ..
    · exact fun x hx => hadd x (List.mem_cons_of_mem _ hx)

/-- An extra amount survives the moves untouched exactly when no withdrawal ran dry. -/
theorem run_add_eq_iff (ms : List Move) (b extra : Int) (hpos : 0 < extra) :
    run ms (b + extra) = run ms b + extra ↔ Covered ms b := by
  induction ms generalizing b with
  | nil => simp [Covered]
  | cons m ms ih =>
    cases m with
    | add x =>
      rw [run_cons, run_cons, apply_add, apply_add, show b + extra + x = b + x + extra by omega]
      exact ih (b + x)
    | take x =>
      rw [run_cons, run_cons, apply_take, apply_take, Covered]
      by_cases hx : x ≤ b
      · rw [max_eq_right (by omega), max_eq_right (by omega),
          show b + extra - x = b - x + extra by omega, ih (b - x)]
        simp [hx]
      · -- the withdrawal empties the smaller balance, so the gap already shrank
        have hgap := run_gap_le ms (a := max 0 (b - x)) (b := max 0 (b + extra - x)) (by omega)
        constructor
        · intro he
          omega
        · intro hc
          exact absurd hc.1 hx

/-- Two runs of the same moves end equal iff they start equal or some
withdrawal empties the larger one. -/
theorem run_eq_run_iff (ms : List Move) (a b : Int) :
    run ms a = run ms b ↔ a = b ∨ Absorbs ms (max a b) := by
  induction ms generalizing a b with
  | nil => simp [Absorbs]
  | cons m ms ih =>
    rw [run_cons, run_cons, ih]
    cases m with
    | add x =>
      rw [apply_add, apply_add, Absorbs, show max (a + x) (b + x) = max a b + x by omega]
      constructor <;> rintro (h | h) <;> first | exact .inr h | exact .inl (by omega)
    | take x =>
      rw [apply_take, apply_take, Absorbs]
      by_cases hx : max a b ≤ x
      · exact ⟨fun _ => .inr (.inl hx), fun _ => .inl (by omega)⟩
      · rw [show max (max 0 (a - x)) (max 0 (b - x)) = max a b - x by omega]
        constructor
        · rintro (h | h)
          · exact .inl (by omega)
          · exact .inr (.inr h)
        · rintro (h | h | h)
          · exact .inl (by omega)
          · exact absurd h hx
          · exact .inr h

end Caixinha.Library.SaturatingBalance
