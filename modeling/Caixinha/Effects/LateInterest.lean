import Caixinha.Library.DecimalOrder
import Caixinha.Model.LateCharge
import Mathlib.Data.List.Induction

/-! The late interest of a list of segments grows with the principal and with the days. -/
namespace Caixinha.Effects

open Caixinha.Library Caixinha.Library.Decimal Caixinha.Model

/-- The digits of the daily rate, in units of `10 ^ -30`. -/
abbrev dailyRateDigits : Int := 6666666666666666666666666667

theorem dailyLateInterestRate_eq : dailyLateInterestRate = ⟨dailyRateDigits, -30⟩ := by decide

/-- The interest of one segment, in units of `10 ^ -32`. -/
def lateTerm (s : PrincipalSegment) : Int :=
  roundToDigits 28 (roundToDigits 28 (s.principal * s.days) * dailyRateDigits)

/-- The sum of segments before it is rounded to cents. -/
def lateTotal (segments : List PrincipalSegment) : Int :=
  segments.foldl (fun total s => roundToDigits 28 (total + lateTerm s)) 0

section Scale
variable {s : PrincipalSegment} {segments : List PrincipalSegment}

theorem lateTerm_nonneg (h : 0 ≤ s.principal) : 0 ≤ lateTerm s :=
  roundToDigits_nonneg (mul_nonneg (roundToDigits_nonneg (mul_nonneg h (Int.natCast_nonneg _)))
    (by decide))

theorem scaled_segment (s : PrincipalSegment) :
    Number.Within 32 (mul 28 (mul 28 ⟨s.principal, -2⟩ ⟨s.days, 0⟩) dailyLateInterestRate) ∧
      (mul 28 (mul 28 ⟨s.principal, -2⟩ ⟨s.days, 0⟩) dailyLateInterestRate).scaled 32 = lateTerm s := by
  have hprincipal : Number.Within 2 ⟨s.principal, -2⟩ := by simp [Number.Within]
  have hdays : Number.Within 0 ⟨(s.days : Int), 0⟩ := by simp [Number.Within]
  have hrate : dailyLateInterestRate.Within 30 := by
    rw [dailyLateInterestRate_eq]
    simp [Number.Within]
  have hscaled : dailyLateInterestRate.scaled 30 = dailyRateDigits := by
    rw [dailyLateInterestRate_eq]
    simp [Number.scaled]
  have hinner : Number.Within 2 (mul 28 ⟨s.principal, -2⟩ ⟨s.days, 0⟩) :=
    within_mul hprincipal hdays (by decide)
  have hinnerScaled : (mul 28 ⟨s.principal, -2⟩ ⟨s.days, 0⟩).scaled 2 =
      roundToDigits 28 (s.principal * s.days) := by
    rw [show (2 : Nat) = 2 + 0 from rfl, scaled_mul hprincipal hdays (by decide)]
    simp [Number.scaled]
  refine ⟨within_mul hinner hrate (by decide), ?_⟩
  rw [show (32 : Nat) = 2 + 30 from rfl, scaled_mul hinner hrate (by decide), hinnerScaled, hscaled, lateTerm]

theorem lateTotal_append (xs ys : List PrincipalSegment) : lateTotal (xs ++ ys) =
    ys.foldl (fun total s => roundToDigits 28 (total + lateTerm s)) (lateTotal xs) := by
  rw [lateTotal, List.foldl_append, ← lateTotal]

theorem lateTotal_nonneg (h : ∀ s ∈ segments, 0 ≤ s.principal) : 0 ≤ lateTotal segments := by
  induction segments using List.reverseRecOn with
  | nil => exact le_rfl
  | append_singleton segments s ih =>
    rw [lateTotal_append, List.foldl_cons, List.foldl_nil]
    refine roundToDigits_nonneg (add_nonneg (ih fun x hx => h x (List.mem_append_left _ hx)) ?_)
    exact lateTerm_nonneg (h s (List.mem_append_right _ (List.mem_singleton_self s)))

private theorem scaled_total (segments : List PrincipalSegment) :
    Number.Within 32 (segments.foldl (fun total s => add 28 total
      (mul 28 (mul 28 ⟨s.principal, -2⟩ ⟨s.days, 0⟩) dailyLateInterestRate)) ⟨0, 0⟩) ∧
    (segments.foldl (fun total s => add 28 total
      (mul 28 (mul 28 ⟨s.principal, -2⟩ ⟨s.days, 0⟩) dailyLateInterestRate)) ⟨0, 0⟩).scaled 32 =
      lateTotal segments := by
  induction segments using List.reverseRecOn with
  | nil => exact ⟨by simp [Number.Within], by simp [Number.scaled, lateTotal]⟩
  | append_singleton segments s ih =>
    obtain ⟨hwithin, hscaled⟩ := ih
    obtain ⟨hterm, htermScaled⟩ := scaled_segment s
    rw [List.foldl_append, List.foldl_cons, List.foldl_nil, lateTotal_append, List.foldl_cons,
      List.foldl_nil]
    exact ⟨within_add hwithin hterm (by decide),
      by rw [scaled_add hwithin hterm (by decide), hscaled, htermScaled]⟩

theorem calculateLateInterest_eq (h : ∀ s ∈ segments, 0 ≤ s.principal) :
    calculateLateInterest segments = halfUp (lateTotal segments).toNat (10 ^ 30) := by
  obtain ⟨hwithin, hscaled⟩ := scaled_total segments
  have hnonneg := lateTotal_nonneg h
  rw [← hscaled, Number.scaled] at hnonneg
  have hcoefficient := nonneg_of_mul_nonneg_left hnonneg (by positivity)
  rw [calculateLateInterest, centsHalfUp_of_scaled (K := 30) hwithin hcoefficient, hscaled]

end Scale

section Order
variable {segments xs ys : List PrincipalSegment}

theorem calculateLateInterest_nonneg (h : ∀ s ∈ segments, 0 ≤ s.principal) :
    0 ≤ calculateLateInterest segments := by
  rw [calculateLateInterest_eq h]
  exact Int.natCast_nonneg _

@[simp] theorem calculateLateInterest_nil : calculateLateInterest [] = 0 := by decide

private theorem calculateLateInterest_le (hxs : ∀ s ∈ xs, 0 ≤ s.principal)
    (hys : ∀ s ∈ ys, 0 ≤ s.principal) (h : lateTotal xs ≤ lateTotal ys) :
    calculateLateInterest xs ≤ calculateLateInterest ys := by
  rw [calculateLateInterest_eq hxs, calculateLateInterest_eq hys]
  exact_mod_cast halfUp_mono (Int.toNat_le_toNat h)

theorem le_roundToDigits_add {total term : Int} (htotal : roundToDigits 28 total = total)
    (hnonneg : 0 ≤ total) (hterm : 0 ≤ term) : total ≤ roundToDigits 28 (total + term) := by
  have hmono : roundToDigits 28 total ≤ roundToDigits 28 (total + term) :=
    roundToDigits_mono (by decide) hnonneg (le_add_of_nonneg_right hterm)
  rwa [htotal] at hmono

/-- A total is a number of 28 digits already. -/
private theorem roundToDigits_lateTotal (h : ∀ s ∈ segments, 0 ≤ s.principal) :
    roundToDigits 28 (lateTotal segments) = lateTotal segments := by
  induction segments using List.reverseRecOn with
  | nil => rfl
  | append_singleton segments s _ =>
    rw [lateTotal_append, List.foldl_cons, List.foldl_nil]
    have hterm := lateTerm_nonneg (h s (List.mem_append_right _ (List.mem_singleton_self s)))
    have htotal := lateTotal_nonneg fun x hx => h x (List.mem_append_left _ hx)
    exact roundToDigits_idem (by decide) (add_nonneg htotal hterm)

/-- More days bear no less interest. -/
theorem calculateLateInterest_append (h : ∀ s ∈ xs ++ ys, 0 ≤ s.principal) :
    calculateLateInterest xs ≤ calculateLateInterest (xs ++ ys) := by
  refine calculateLateInterest_le (fun s hs => h s (List.mem_append_left _ hs)) h ?_
  induction ys using List.reverseRecOn with
  | nil => rw [List.append_nil]
  | append_singleton ys s ih =>
    have hprefix : ∀ s ∈ xs ++ ys, 0 ≤ s.principal := fun x hx => h x (by simp at hx ⊢; tauto)
    refine (ih hprefix).trans ?_
    rw [← List.append_assoc, lateTotal_append (xs ++ ys), List.foldl_cons, List.foldl_nil]
    exact le_roundToDigits_add (roundToDigits_lateTotal hprefix) (lateTotal_nonneg hprefix)
      (lateTerm_nonneg (h s (by simp)))

theorem lateTerm_mono {s t : PrincipalSegment} (hs : 0 ≤ s.principal) (hle : s.principal ≤ t.principal)
    (hdays : s.days = t.days) : lateTerm s ≤ lateTerm t := by
  have hinner : roundToDigits 28 (s.principal * s.days) ≤ roundToDigits 28 (t.principal * t.days) := by
    rw [hdays]
    exact roundToDigits_mono (by decide) (mul_nonneg hs (Int.natCast_nonneg _))
      (mul_le_mul_of_nonneg_right hle (Int.natCast_nonneg _))
  have hnonneg : 0 ≤ roundToDigits 28 (s.principal * s.days) :=
    roundToDigits_nonneg (mul_nonneg hs (Int.natCast_nonneg _))
  exact roundToDigits_mono (by decide) (mul_nonneg hnonneg (by decide))
    (mul_le_mul_of_nonneg_right hinner (by decide))

/-- A larger principal bears no less interest, day by day. -/
theorem calculateLateInterest_mono {f g : Int → Int} (days : List Int) (hf : ∀ d ∈ days, 0 ≤ f d)
    (hle : ∀ d ∈ days, f d ≤ g d) : calculateLateInterest (days.map (fun d => ⟨f d, 1⟩)) ≤
      calculateLateInterest (days.map (fun d => ⟨g d, 1⟩)) := by
  refine calculateLateInterest_le (by simpa using hf)
    (by simpa using fun d hd => (hf d hd).trans (hle d hd)) ?_
  induction days using List.reverseRecOn with
  | nil => exact le_rfl
  | append_singleton days d ih =>
    have hprefix := ih (fun x hx => hf x (List.mem_append_left _ hx))
      (fun x hx => hle x (List.mem_append_left _ hx))
    have hd : d ∈ days ++ [d] := List.mem_append_right _ (List.mem_singleton_self d)
    rw [List.map_append, List.map_append, lateTotal_append, lateTotal_append]
    simp only [List.map_cons, List.map_nil, List.foldl_cons, List.foldl_nil]
    have hterm : lateTerm ⟨f d, 1⟩ ≤ lateTerm ⟨g d, 1⟩ := lateTerm_mono (hf d hd) (hle d hd) rfl
    have hleft : 0 ≤ lateTotal (days.map (fun d => (⟨f d, 1⟩ : PrincipalSegment))) :=
      lateTotal_nonneg (by simpa using fun x hx => hf x (List.mem_append_left _ hx))
    exact roundToDigits_mono (by decide) (add_nonneg hleft (lateTerm_nonneg (hf d hd)))
      (add_le_add hprefix hterm)

end Order

end Caixinha.Effects
