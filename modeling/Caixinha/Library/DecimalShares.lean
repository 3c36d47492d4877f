import Caixinha.Library.DecimalLattice

/-! Shares of an amount by weight, rounded at every step: they are never negative, nothing for no
weight, and bounded by the amount. -/
namespace Caixinha.Library.Decimal

/-- The quotient of two nonnegative numbers. -/
def div (prec : Nat) (x y : Number) : Number :=
  let e := min x.exponent y.exponent
  divide prec (x.coefficient * 10 ^ (x.exponent - e).toNat).natAbs
    (y.coefficient * 10 ^ (y.exponent - e).toNat).natAbs

/-- `quantize(Decimal("0.01"), ROUND_DOWN)` before its length is checked. -/
def centsDown (x : Number) : Int :=
  if -2 ≤ x.exponent then x.coefficient * 10 ^ (x.exponent + 2).toNat
  else x.coefficient.tdiv (10 ^ (-2 - x.exponent).toNat)

def quantizeDown (prec : Nat) (x : Number) : Option Int := checkCents prec (centsDown x)

/-- The sum of a list of numbers, rounded after every addition. -/
def total (prec : Nat) (xs : List Number) : Number := xs.foldl (add prec) ⟨0, 0⟩

section Down
variable {x : Number}

theorem centsDown_of_nonneg (h : 0 ≤ x.coefficient) : centsDown x = floorCents x := by
  rw [centsDown, floorCents]
  split
  · rfl
  · exact Int.tdiv_eq_ediv_of_nonneg h

@[simp] theorem centsDown_cents (c : Int) : centsDown (Number.cents c) = c := by
  simp [centsDown, Number.cents]

theorem floorCents_mono {y : Number} (h : x.le y) : floorCents x ≤ floorCents y :=
  cents_le_iff.mp (Number.le_trans (cents_le_iff.mpr (Int.le_refl _)) h)

@[simp] theorem floorCents_cents (c : Int) : floorCents (Number.cents c) = c := by
  simp [floorCents, Number.cents]

end Down

section Quotient
variable {x y : Number} {prec K : Nat} {B : Int}

theorem div_zero_left (h : x.coefficient = 0) : div prec x y = ⟨0, 0⟩ := by
  rw [div, h, zero_mul]
  rfl

private theorem natAbs_aligned {c : Int} (hc : 0 ≤ c) {e m : Int} (hK : -(K : Int) ≤ m) (hm : m ≤ e) :
    ((c * 10 ^ (e - m).toNat).natAbs : Int) * 10 ^ (m + K).toNat = c * 10 ^ (e + K).toNat := by
  have hplaces : (e + K).toNat = (e - m).toNat + (m + K).toNat := by omega
  rw [Int.natAbs_of_nonneg (Int.mul_nonneg hc (by positivity)), hplaces, pow_add, mul_assoc]

theorem divide_nonneg (n d : Nat) : 0 ≤ (divide prec n d).coefficient := by
  have hfix : ∀ c e, 0 ≤ (fix prec c e).coefficient := by
    intro c e
    unfold fix
    dsimp only
    split <;> exact Int.natCast_nonneg _
  unfold divide
  split
  · exact le_rfl
  · dsimp only
    split
    · exact hfix _ _
    · exact hfix _ _

/-- A quotient below a bound of cents is rounded to at most twice the bound. -/
theorem divide_le {n d : Nat} {B : Nat} (hprec : 3 < prec) (hd : 0 < d) (hB : B < 10 ^ (prec - 1))
    (h : 100 * n ≤ B * d) : (divide prec n d).le (Number.cents (2 * B)) := by
  rcases Nat.eq_zero_or_pos n with rfl | hn
  · have hzero : divide prec 0 d = ⟨0, 0⟩ := by rw [divide, if_pos rfl]
    have hle : (⟨0, 0⟩ : Number).le (Number.cents 0) := by decide
    rw [hzero]
    exact Number.le_trans hle (cents_le_cents.mpr (by omega))
  have hlt : n < 10 ^ (prec - 1) * d := by
    have := Nat.mul_lt_mul_of_pos_right hB hd
    omega
  have hshort : digitCount n + 1 ≤ digitCount d + prec := by
    have hcount := digitCount_pos d
    have : digitCount n ≤ prec - 1 + digitCount d := by
      rw [digitCount_le_iff (by omega), Nat.pow_add]
      exact lt_of_lt_of_le hlt (Nat.mul_le_mul_left _ (lt_pow_digitCount d).le)
    omega
  obtain ⟨p, drop, hkept, hwithin, hscaled⟩ := scaled_divide (by omega) hd hn hshort
  have hwide : (divide prec n d).Within (p + drop + 2) := by
    rw [Number.Within] at hwithin ⊢
    push_cast at hwithin ⊢
    omega
  rw [le_iff_scaled hwide (within_cents _ _), scaled_add_places hwithin, hscaled, scaled_cents]
  have hround := (halfEven_bounds (n * 10 ^ p) hd).2.1
  have hscale : 100 * (n * 10 ^ p) ≤ B * 10 ^ p * d := by
    calc 100 * (n * 10 ^ p) = 100 * n * 10 ^ p := by ring
      _ ≤ B * d * 10 ^ p := Nat.mul_le_mul_right _ h
      _ = B * 10 ^ p * d := by ring
  have hquotient : 100 * (n * 10 ^ p / d) ≤ B * 10 ^ p := by
    calc 100 * (n * 10 ^ p / d) ≤ 100 * (n * 10 ^ p) / d := Nat.mul_div_le_mul_div_assoc ..
      _ ≤ B * 10 ^ p := Nat.div_le_of_le_mul (by rw [Nat.mul_comm d]; exact hscale)
  have hone : 100 ≤ B * 10 ^ p := by
    have hthousand : 1000 ≤ 10 ^ (prec - 1) := by
      calc 1000 = 10 ^ 3 := by norm_num
        _ ≤ 10 ^ (prec - 1) := Nat.pow_le_pow_right (by decide) (by omega)
    have hlow := hkept.1
    have : 1000 * d ≤ B * 10 ^ p * d := by
      calc 1000 * d ≤ 10 ^ (prec - 1) * d := Nat.mul_le_mul_right _ hthousand
        _ ≤ 100 * (n * 10 ^ p) := by omega
        _ ≤ B * 10 ^ p * d := hscale
    have := Nat.le_of_mul_le_mul_right this hd
    omega
  have hnat : halfEven (n * 10 ^ p) d * 10 ^ drop * 10 ^ 2 ≤ 2 * B * 10 ^ (p + drop) := by
    rw [Nat.pow_add]
    calc halfEven (n * 10 ^ p) d * 10 ^ drop * 10 ^ 2 = 100 * halfEven (n * 10 ^ p) d * 10 ^ drop := by ring
      _ ≤ 2 * (B * 10 ^ p) * 10 ^ drop := Nat.mul_le_mul_right _ (by omega)
      _ = 2 * B * (10 ^ p * 10 ^ drop) := by ring
  exact_mod_cast hnat

/-- The same for the quotient of two numbers at a common scale. -/
theorem div_le (hprec : 3 < prec) (hx : x.Within K) (hy : y.Within K) (hx0 : 0 ≤ x.coefficient)
    (hy0 : 0 < y.coefficient) (hB0 : 0 ≤ B) (hB : B < 10 ^ (prec - 1))
    (h : 100 * x.scaled K ≤ B * y.scaled K) : (div prec x y).le (Number.cents (2 * B)) := by
  obtain ⟨b, rfl⟩ := Int.eq_ofNat_of_zero_le hB0
  rw [Number.Within] at hx hy
  set e := min x.exponent y.exponent with he
  have hxe := natAbs_aligned (K := K) hx0 (show -(K : Int) ≤ e by omega) (show e ≤ x.exponent by omega)
  have hye := natAbs_aligned (K := K) hy0.le (show -(K : Int) ≤ e by omega) (show e ≤ y.exponent by omega)
  rw [Number.scaled, Number.scaled, ← hxe, ← hye] at h
  have hpow : (0 : Int) < 10 ^ (e + K).toNat := by positivity
  have hle : (100 * (x.coefficient * 10 ^ (x.exponent - e).toNat).natAbs : Int) ≤
      b * (y.coefficient * 10 ^ (y.exponent - e).toNat).natAbs := by
    rw [← mul_assoc, ← mul_assoc] at h
    exact le_of_mul_le_mul_right h hpow
  have hd : 0 < (y.coefficient * 10 ^ (y.exponent - e).toNat).natAbs := by
    have : 0 < y.coefficient * 10 ^ (y.exponent - e).toNat := Int.mul_pos hy0 (by positivity)
    omega
  have := divide_le (B := b) hprec hd (by exact_mod_cast hB) (by exact_mod_cast hle)
  exact this

end Quotient

section Total
variable {prec K : Nat}

theorem le_two_mul_roundToDigits {n : Int} (hprec : 0 < prec) (h : 0 ≤ n) :
    n ≤ 2 * roundToDigits prec n := by
  by_cases hshort : n < 10 ^ prec
  · rw [roundToDigits_of_lt hprec ((natAbs_lt_pow h).mpr hshort)]
    omega
  · obtain ⟨k, rfl⟩ := Int.eq_ofNat_of_zero_le h
    have hscale : 0 < 10 ^ excess prec k := Nat.pow_pos (by decide)
    have hnear := (halfEven_near k hscale).1
    have hlow := pow_le_of_digitCount (n := k) (by
      by_contra hzero
      obtain rfl : k = 0 := by omega
      exact hshort (by positivity))
    have hunit : 10 ^ excess prec k ≤ k :=
      (Nat.pow_le_pow_right (by decide) (by rw [excess]; omega)).trans hlow
    rw [roundToDigits_of_nonneg h, Int.toNat_natCast]
    have : k ≤ 2 * roundNat prec k := by
      rw [roundNat]
      omega
    exact_mod_cast this

/-- A rounded sum of nonnegative amounts is no less than what it starts with and half of each. -/
theorem sumToDigits_ge (hprec : 0 < prec) {amounts : List Int} {start : Int} (hstart : 0 ≤ start)
    (hrounded : roundToDigits prec start = start) (hnonneg : ∀ a ∈ amounts, 0 ≤ a) :
    start ≤ sumToDigits prec start amounts ∧ ∀ a ∈ amounts, a ≤ 2 * sumToDigits prec start amounts := by
  induction amounts generalizing start with
  | nil => exact ⟨le_rfl, fun a ha => absurd ha List.not_mem_nil⟩
  | cons b rest ih =>
    have hb := hnonneg b (List.mem_cons_self ..)
    have hnext : start ≤ roundToDigits prec (start + b) := by
      rw [← hrounded]
      exact roundToDigits_le_of_le hprec (by omega)
    obtain ⟨hge, hall⟩ := @ih (roundToDigits prec (start + b)) (by omega)
      (roundToDigits_idem hprec (by omega)) (fun a ha => hnonneg a (List.mem_cons_of_mem _ ha))
    change start ≤ sumToDigits prec (roundToDigits prec (start + b)) rest ∧
      ∀ a ∈ b :: rest, a ≤ 2 * sumToDigits prec (roundToDigits prec (start + b)) rest
    refine ⟨hnext.trans hge, List.forall_mem_cons.mpr ⟨?_, hall⟩⟩
    have := le_two_mul_roundToDigits (n := start + b) hprec (by omega)
    omega

theorem foldl_add_scaled (hprec : 0 < prec) {xs : List Number} {start : Number} (hstart : start.Within K)
    (hxs : ∀ x ∈ xs, x.Within K) : (xs.foldl (add prec) start).Within K ∧
      (xs.foldl (add prec) start).scaled K = sumToDigits prec (start.scaled K) (xs.map (Number.scaled K)) := by
  induction xs generalizing start with
  | nil => exact ⟨hstart, rfl⟩
  | cons x rest ih =>
    have hx := hxs x (List.mem_cons_self ..)
    obtain ⟨hwithin, hscaled⟩ := ih (within_add hstart hx hprec)
      (fun y hy => hxs y (List.mem_cons_of_mem _ hy))
    refine ⟨hwithin, ?_⟩
    rw [List.foldl_cons, hscaled, scaled_add hstart hx hprec]
    rfl

theorem exists_within_all (xs : List Number) : ∃ K : Nat, ∀ x ∈ xs, x.Within K := by
  induction xs with
  | nil => exact ⟨0, fun x hx => absurd hx List.not_mem_nil⟩
  | cons x rest ih =>
    obtain ⟨K, hK⟩ := ih
    refine ⟨(-x.exponent).toNat + K, List.forall_mem_cons.mpr ⟨?_, fun y hy => ?_⟩⟩
    · rw [Number.Within]
      omega
    · have := hK y hy
      rw [Number.Within] at this ⊢
      omega

/-- Nonnegative numbers that add up to nothing are zero. -/
theorem eq_zero_of_total (hprec : 0 < prec) {weights : List Number}
    (hweights : ∀ w ∈ weights, 0 ≤ w.coefficient) (htotal : (total prec weights).coefficient ≤ 0) :
    ∀ w ∈ weights, w.coefficient = 0 := by
  intro w hw
  obtain ⟨K, hK⟩ := exists_within_all weights
  have hzero : Number.Within K ⟨0, 0⟩ := by
    rw [Number.Within]
    simp
  obtain ⟨-, hscaled⟩ := foldl_add_scaled hprec hzero hK
  have hnonneg : ∀ a ∈ weights.map (Number.scaled K), 0 ≤ a := by
    intro a ha
    obtain ⟨v, hv, rfl⟩ := List.mem_map.mp ha
    exact Int.mul_nonneg (hweights v hv) (by positivity)
  have hstart : Number.scaled K ⟨0, 0⟩ = 0 := by simp [Number.scaled]
  have hzeroRounded : roundToDigits prec 0 = 0 := by simp [roundToDigits]
  have hhalf := (sumToDigits_ge hprec le_rfl hzeroRounded hnonneg).2 _ (List.mem_map_of_mem hw)
  rw [hstart] at hscaled
  rw [← hscaled] at hhalf
  have hsum : (total prec weights).scaled K ≤ 0 := Int.mul_nonpos_of_nonpos_of_nonneg htotal (by positivity)
  have hle : w.scaled K ≤ 0 := by
    rw [total] at hsum
    omega
  have hpos : (0 : Int) < 10 ^ (w.exponent + K).toNat := by positivity
  have := hweights w hw
  by_contra hne
  have : 0 < w.scaled K := Int.mul_pos (by omega) hpos
  omega

/-- The share of an amount that one of several weights takes is at most eight times the amount. -/
theorem share_le (hprec : 3 < prec) {weights : List Number} (hweights : ∀ w ∈ weights, 0 ≤ w.coefficient)
    {w : Number} (hw : w ∈ weights) (htotal : 0 < (total prec weights).coefficient) {cap : Int}
    (hcap : 0 ≤ cap) (hfits : 4 * cap < 10 ^ (prec - 1)) :
    (div prec (mul prec (Number.cents cap) w) (total prec weights)).le (Number.cents (2 * (4 * cap))) := by
  obtain ⟨K, hK⟩ := exists_within_all weights
  have hprec0 : 0 < prec := by omega
  have hzero : Number.Within K ⟨0, 0⟩ := by
    rw [Number.Within]
    simp
  obtain ⟨hwithin, hscaled⟩ := foldl_add_scaled hprec0 hzero hK
  have hwK := hK w hw
  have hnonneg : ∀ a ∈ weights.map (Number.scaled K), 0 ≤ a := by
    intro a ha
    obtain ⟨v, hv, rfl⟩ := List.mem_map.mp ha
    exact Int.mul_nonneg (hweights v hv) (by positivity)
  have hstart : Number.scaled K ⟨0, 0⟩ = 0 := by simp [Number.scaled]
  have hzeroRounded : roundToDigits prec 0 = 0 := by simp [roundToDigits]
  have hhalf := (sumToDigits_ge hprec0 le_rfl hzeroRounded hnonneg).2 _ (List.mem_map_of_mem hw)
  have hproductWithin := within_mul (within_cents 0 cap) hwK hprec0
  have hproduct := scaled_mul (within_cents 0 cap) hwK hprec0
  rw [scaled_cents, pow_zero, mul_one] at hproduct
  have hwscaled : 0 ≤ w.scaled K := hnonneg _ (List.mem_map_of_mem hw)
  have hround := roundToDigits_le hprec0 (Int.mul_nonneg hcap hwscaled)
  have hcoefficient : 0 ≤ (mul prec (Number.cents cap) w).coefficient :=
    round_nonneg (Int.mul_nonneg hcap (hweights w hw)) prec
  have hscale : Number.Within (0 + 2 + K) (total prec weights) := by
    rw [total]
    rw [Number.Within] at hwithin ⊢
    push_cast
    omega
  refine div_le hprec hproductWithin hscale hcoefficient htotal (by omega) hfits ?_
  rw [show 0 + 2 + K = K + 2 by omega] at hproduct ⊢
  rw [hproduct, total, scaled_add_places hwithin, hscaled, hstart]
  have hbound : cap * w.scaled K ≤ cap * (2 * sumToDigits prec 0 (weights.map (Number.scaled K))) :=
    Int.mul_le_mul_of_nonneg_left hhalf hcap
  rw [show 4 * cap * (sumToDigits prec 0 (weights.map (Number.scaled K)) * 10 ^ 2) =
    200 * (cap * (2 * sumToDigits prec 0 (weights.map (Number.scaled K)))) by ring]
  omega

end Total

end Caixinha.Library.Decimal
