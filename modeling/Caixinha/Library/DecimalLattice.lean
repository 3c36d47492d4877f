import Caixinha.Library.Quotients

/-! Sums, differences and roundings of signed decimal numbers keep their order. -/
namespace Caixinha.Library.Decimal

/-- An amount of hundredths. -/
def Number.cents (c : Int) : Number := ⟨c, -2⟩

def Number.neg (x : Number) : Number := ⟨-x.coefficient, x.exponent⟩

def sub (prec : Nat) (x y : Number) : Number := add prec x y.neg

/-- The first of the smaller ones. -/
def Number.min (x y : Number) : Number := if x.le y then x else y

/-- The first of the larger ones. -/
def Number.max (x y : Number) : Number := if y.le x then x else y

/-- `to_integral_value` to the even neighbour. -/
def Number.toIntegral (x : Number) : Int :=
  if 0 ≤ x.exponent then x.coefficient * 10 ^ x.exponent.toNat
  else x.coefficient.sign * halfEven x.coefficient.natAbs (10 ^ (-x.exponent).toNat)

/-- The nearest number of hundredths, halves to the even one. -/
def centsHalfEven (x : Number) : Int := Number.toIntegral ⟨x.coefficient, x.exponent + 2⟩

/-- `quantize(Decimal("0.01"))`; more than `prec` digits are an invalid operation. -/
def quantizeHalfEven (prec : Nat) (x : Number) : Option Int := checkCents prec (centsHalfEven x)

/-- The whole hundredths in a number. -/
def floorCents (x : Number) : Int :=
  if -2 ≤ x.exponent then x.coefficient * 10 ^ (x.exponent + 2).toNat
  else x.coefficient / 10 ^ (-2 - x.exponent).toNat

section Round
variable {m n : Int} {prec scale : Nat}

theorem roundToDigits_neg (prec : Nat) (n : Int) : roundToDigits prec (-n) = -roundToDigits prec n := by
  rw [roundToDigits, roundToDigits, Int.sign_neg, Int.natAbs_neg, Int.neg_mul]

/-- Rounding keeps the order of signed numbers. -/
theorem roundToDigits_le_of_le (hprec : 0 < prec) (h : m ≤ n) :
    roundToDigits prec m ≤ roundToDigits prec n := by
  rcases Int.le_total 0 m with hm | hm
  · exact roundToDigits_mono hprec hm h
  · rcases Int.le_total 0 n with hn | hn
    · exact (roundToDigits_nonpos hm).trans (roundToDigits_nonneg hn)
    · have := roundToDigits_mono (m := -n) (n := -m) hprec (by omega) (by omega)
      rw [roundToDigits_neg, roundToDigits_neg] at this
      omega

/-- An integer quotient rounded half even, away from the sign. -/
def roundQuotient (n : Int) (scale : Nat) : Int := n.sign * halfEven n.natAbs scale

private theorem roundQuotient_of_nonneg {n : Nat} (hscale : 0 < scale) :
    roundQuotient n scale = halfEven n scale := by
  rcases Nat.eq_zero_or_pos n with rfl | hn
  · have := halfEven_of_dvd (Nat.dvd_zero scale) hscale
    have hzero : halfEven 0 scale = 0 := (Nat.mul_eq_zero.mp this).resolve_right (by omega)
    simp [roundQuotient, hzero]
  · rw [roundQuotient, Int.sign_eq_one_of_pos (by omega), one_mul, Int.natAbs_natCast]

private theorem roundQuotient_neg (n : Int) (scale : Nat) :
    roundQuotient (-n) scale = -roundQuotient n scale := by
  rw [roundQuotient, roundQuotient, Int.sign_neg, Int.natAbs_neg, Int.neg_mul]

theorem roundQuotient_mono (hscale : 0 < scale) (h : m ≤ n) : roundQuotient m scale ≤ roundQuotient n scale := by
  have hnonneg : ∀ {a b : Int}, 0 ≤ a → a ≤ b → roundQuotient a scale ≤ roundQuotient b scale := by
    intro a b ha hab
    obtain ⟨a, rfl⟩ := Int.eq_ofNat_of_zero_le ha
    obtain ⟨b, rfl⟩ := Int.eq_ofNat_of_zero_le (ha.trans hab)
    rw [roundQuotient_of_nonneg hscale, roundQuotient_of_nonneg hscale]
    exact_mod_cast halfEven_mono (by omega)
  have hzero : roundQuotient 0 scale = 0 := by simp [roundQuotient]
  rcases Int.le_total 0 m with hm | hm
  · exact hnonneg hm h
  · have hneg : ∀ {a : Int}, a ≤ 0 → roundQuotient a scale ≤ 0 := by
      intro a ha
      have := hnonneg (le_refl (0 : Int)) (show (0 : Int) ≤ -a by omega)
      rw [roundQuotient_neg, hzero] at this
      omega
    rcases Int.le_total 0 n with hn | hn
    · have := hnonneg (le_refl (0 : Int)) hn
      rw [hzero] at this
      exact (hneg hm).trans this
    · have := hnonneg (show (0 : Int) ≤ -n by omega) (show -n ≤ -m by omega)
      rw [roundQuotient_neg, roundQuotient_neg] at this
      omega

theorem roundQuotient_le_iff (hscale : 0 < scale) (hn : 0 ≤ n) :
    roundQuotient m scale ≤ n ↔ 2 * m ≤ (2 * n + 1) * scale ∧ ((2 * n + 1) * scale ≤ 2 * m → n % 2 = 0) := by
  obtain ⟨k, rfl⟩ := Int.eq_ofNat_of_zero_le hn
  have hhalf : (0 : Int) < (2 * k + 1) * scale := by positivity
  rcases Int.le_total 0 m with hm | hm
  · obtain ⟨m, rfl⟩ := Int.eq_ofNat_of_zero_le hm
    have hround := @halfEven_le_iff m scale k hscale
    rw [roundQuotient_of_nonneg hscale]
    zify at hround
    exact hround
  · have hround := roundQuotient_mono hscale hm
    rw [show roundQuotient 0 scale = 0 by simp [roundQuotient]] at hround
    exact ⟨fun _ => ⟨by omega, by omega⟩, fun _ => by omega⟩
theorem roundQuotient_mul (n : Int) (hscale : 0 < scale) : roundQuotient (n * scale) scale = n := by
  have hnat : ∀ k : Nat, roundQuotient ((k : Int) * scale) scale = k := by
    intro k
    have hcast : ((k : Int) * scale) = ((k * scale : Nat) : Int) := by push_cast; rfl
    have := halfEven_of_dvd (Nat.dvd_mul_left scale k) hscale
    rw [hcast, roundQuotient_of_nonneg hscale]
    exact_mod_cast Nat.eq_of_mul_eq_mul_right hscale this
  rcases Int.le_total 0 n with hn | hn
  · obtain ⟨k, rfl⟩ := Int.eq_ofNat_of_zero_le hn
    exact hnat k
  · obtain ⟨k, hk⟩ := Int.eq_ofNat_of_zero_le (show 0 ≤ -n by omega)
    have := hnat k
    rw [← hk, Int.neg_mul, roundQuotient_neg] at this
    omega

theorem roundQuotient_mul_mul (n : Int) {k : Nat} (hk : 0 < k) :
    roundQuotient (n * k) (scale * k) = roundQuotient n scale := by
  rw [roundQuotient, Int.natAbs_mul, Int.natAbs_natCast, halfEven_mul k hk, Int.sign_mul,
    Int.sign_eq_one_of_pos (show (0 : Int) < k by omega), mul_one, roundQuotient]

end Round

section Order
variable {x y z : Number} {K prec : Nat}

private theorem within_places {K : Nat} (h : (-x.exponent).toNat ≤ K) : x.Within K := by
  rw [Number.Within]
  omega

/-- A scale that holds three numbers. -/
private theorem exists_within (x y z : Number) : ∃ K : Nat, x.Within (K + 2) ∧ y.Within (K + 2) ∧ z.Within (K + 2) := by
  refine ⟨(-x.exponent).toNat + (-y.exponent).toNat + (-z.exponent).toNat, ?_, ?_, ?_⟩
  all_goals
    refine within_places ?_
    omega

@[simp] theorem Number.le_refl (x : Number) : x.le x := Int.le_refl _

theorem within_cents (K : Nat) (c : Int) : (Number.cents c).Within (K + 2) := by
  rw [Number.Within, Number.cents]
  push_cast
  omega

theorem scaled_cents (K : Nat) (c : Int) : (Number.cents c).scaled (K + 2) = c * 10 ^ K := by
  have hplaces : (-2 + ((K + 2 : Nat) : Int)).toNat = K := by omega
  rw [Number.scaled, Number.cents, hplaces]

@[simp] theorem cents_le_cents {a b : Int} : (Number.cents a).le (Number.cents b) ↔ a ≤ b := by
  rw [le_iff_scaled (within_cents 0 a) (within_cents 0 b), scaled_cents, scaled_cents]
  simp

theorem within_neg (h : x.Within K) : x.neg.Within K := h

theorem scaled_neg (x : Number) (K : Nat) : x.neg.scaled K = -x.scaled K := Int.neg_mul _ _

/-- Rounded sums keep the order of a summand. -/
theorem Number.add_le_add_right (hprec : 0 < prec) (z : Number) (h : x.le y) :
    (add prec x z).le (add prec y z) := by
  obtain ⟨K, hx, hy, hz⟩ := exists_within x y z
  rw [le_iff_scaled hx hy] at h
  rw [le_iff_scaled (within_add hx hz hprec) (within_add hy hz hprec), scaled_add hx hz hprec,
    scaled_add hy hz hprec]
  exact roundToDigits_le_of_le hprec (by omega)

theorem Number.add_comm (prec : Nat) (x y : Number) : add prec x y = add prec y x := by
  rw [add, add, Int.min_comm y.exponent, Int.add_comm (y.coefficient * _)]

theorem Number.add_le_add_left (hprec : 0 < prec) (z : Number) (h : x.le y) :
    (add prec z x).le (add prec z y) := by
  rw [Number.add_comm prec z x, Number.add_comm prec z y]
  exact Number.add_le_add_right hprec z h

theorem Number.neg_le_neg (h : x.le y) : y.neg.le x.neg := by
  obtain ⟨K, hx, hy, -⟩ := exists_within x y x
  rw [le_iff_scaled hx hy] at h
  rw [le_iff_scaled (within_neg hy) (within_neg hx), scaled_neg, scaled_neg]
  omega

/-- Taking more away leaves less. -/
theorem Number.sub_le_sub_left (hprec : 0 < prec) (z : Number) (h : x.le y) :
    (sub prec z y).le (sub prec z x) :=
  Number.add_le_add_left hprec z (Number.neg_le_neg h)

theorem Number.min_le_left (x y : Number) : (x.min y).le x := by
  unfold Number.min
  split
  · exact Number.le_refl x
  · exact (Number.le_total x y).resolve_left ‹_›

theorem Number.min_le_right (x y : Number) : (x.min y).le y := by
  unfold Number.min
  split
  · assumption
  · exact Number.le_refl y

theorem Number.le_min_iff : z.le (x.min y) ↔ z.le x ∧ z.le y := by
  constructor
  · exact fun h => ⟨Number.le_trans h (Number.min_le_left x y), Number.le_trans h (Number.min_le_right x y)⟩
  · intro h
    unfold Number.min
    split
    · exact h.1
    · exact h.2

theorem Number.max_le_iff : (x.max y).le z ↔ x.le z ∧ y.le z := by
  unfold Number.max
  split
  · rename_i h
    exact ⟨fun hx => ⟨hx, Number.le_trans h hx⟩, And.left⟩
  · rename_i h
    exact ⟨fun hy => ⟨Number.le_trans ((Number.le_total y x).resolve_left h) hy, hy⟩, And.right⟩

end Order

section Quantize
variable {x y : Number} {K prec : Nat}

theorem toIntegral_of_scaled (h : x.Within K) : x.toIntegral = roundQuotient (x.scaled K) (10 ^ K) := by
  rw [Number.Within] at h
  unfold Number.toIntegral
  split
  · have hplaces : (x.exponent + K).toNat = x.exponent.toNat + K := by omega
    have hcast : (10 : Int) ^ K = ((10 ^ K : Nat) : Int) := by push_cast; rfl
    rw [Number.scaled, hplaces, pow_add, ← mul_assoc, hcast, roundQuotient_mul _ (Nat.pow_pos (by decide))]
  · have hplaces : K = (-x.exponent).toNat + (x.exponent + K).toNat := by omega
    have hcast : (10 : Int) ^ (x.exponent + K).toNat = ((10 ^ (x.exponent + K).toNat : Nat) : Int) := by
      push_cast
      rfl
    have hscale : (10 : Nat) ^ K = 10 ^ (-x.exponent).toNat * 10 ^ (x.exponent + K).toNat := by
      rw [← pow_add, ← hplaces]
    rw [Number.scaled, hscale, hcast, roundQuotient_mul_mul _ (Nat.pow_pos (by decide)), roundQuotient]

theorem toIntegral_mono (h : x.le y) : x.toIntegral ≤ y.toIntegral := by
  obtain ⟨K, hx, hy, -⟩ := exists_within x y x
  rw [toIntegral_of_scaled hx, toIntegral_of_scaled hy]
  exact roundQuotient_mono (Nat.pow_pos (by decide)) ((le_iff_scaled hx hy).mp h)

/-- The even neighbour is at most `n` up to the half above `n`, which takes an even `n`. -/
theorem toIntegral_le_iff {n : Int} (hn : 0 ≤ n) : x.toIntegral ≤ n ↔
    x.le ⟨10 * n + 5, -1⟩ ∧ (Number.le ⟨10 * n + 5, -1⟩ x → n % 2 = 0) := by
  obtain ⟨K, hx, -, -⟩ := exists_within x x x
  have hhalf : Number.Within (K + 2) ⟨10 * n + 5, -1⟩ := by
    rw [Number.Within]
    push_cast
    omega
  have hscaled : (Number.scaled (K + 2) ⟨10 * n + 5, -1⟩) * 2 = (2 * n + 1) * ((10 ^ (K + 2) : Nat) : Int) := by
    have hplaces : (-1 + ((K + 2 : Nat) : Int)).toNat = K + 1 := by omega
    rw [Number.scaled, hplaces]
    push_cast
    ring
  rw [toIntegral_of_scaled hx, roundQuotient_le_iff (Nat.pow_pos (by decide)) hn, le_iff_scaled hx hhalf,
    le_iff_scaled hhalf hx, ← hscaled]
  constructor
  · rintro ⟨hle, heven⟩
    exact ⟨by omega, fun h => heven (by omega)⟩
  · rintro ⟨hle, heven⟩
    exact ⟨by omega, fun h => heven (by omega)⟩

theorem centsHalfEven_of_scaled (h : x.Within (K + 2)) :
    centsHalfEven x = roundQuotient (x.scaled (K + 2)) (10 ^ K) := by
  have hwithin : Number.Within K ⟨x.coefficient, x.exponent + 2⟩ := by
    rw [Number.Within] at h ⊢
    push_cast at h
    dsimp only
    omega
  have hplaces : x.exponent + 2 + (K : Int) = x.exponent + (K + 2 : Nat) := by
    push_cast
    ring
  rw [centsHalfEven, toIntegral_of_scaled hwithin, Number.scaled, Number.scaled, hplaces]

theorem centsHalfEven_mono (h : x.le y) : centsHalfEven x ≤ centsHalfEven y := by
  obtain ⟨K, hx, hy, -⟩ := exists_within x y x
  rw [centsHalfEven_of_scaled hx, centsHalfEven_of_scaled hy]
  exact roundQuotient_mono (Nat.pow_pos (by decide)) ((le_iff_scaled hx hy).mp h)

@[simp] theorem centsHalfEven_cents (c : Int) : centsHalfEven (Number.cents c) = c := by
  rw [centsHalfEven_of_scaled (within_cents 0 c), scaled_cents]
  exact roundQuotient_mul c (Nat.pow_pos (by decide))

/-- The whole hundredths of a number are those amounts of hundredths it is not below. -/
theorem cents_le_iff {c : Int} : (Number.cents c).le x ↔ c ≤ floorCents x := by
  obtain ⟨K, hx, -, -⟩ := exists_within x x x
  rw [le_iff_scaled (within_cents K c) hx, scaled_cents, Number.scaled, floorCents]
  rw [Number.Within] at hx
  push_cast at hx ⊢
  have hpow : ∀ k : Nat, (0 : Int) < 10 ^ k := fun k => by positivity
  split
  · have hplaces : (x.exponent + (K + 2)).toNat = (x.exponent + 2).toNat + K := by omega
    rw [hplaces, pow_add, ← mul_assoc, mul_le_mul_iff_left₀ (hpow K)]
  · have hplaces : K = (-2 - x.exponent).toNat + (x.exponent + (K + 2)).toNat := by omega
    have hscale : (10 : Int) ^ K = 10 ^ (-2 - x.exponent).toNat * 10 ^ (x.exponent + (K + 2)).toNat := by
      rw [← pow_add, ← hplaces]
    rw [hscale, ← mul_assoc, mul_le_mul_iff_left₀ (hpow _), Int.le_ediv_iff_mul_le (hpow _)]

/-- A rounded product keeps the order of a factor. -/
theorem Number.mul_le_mul_right (hprec : 0 < prec) {z : Number} (hz : 0 ≤ z.coefficient) (h : x.le y) :
    (mul prec x z).le (mul prec y z) := by
  obtain ⟨K, hx, hy, hwithin⟩ := exists_within x y z
  rw [le_iff_scaled hx hy] at h
  rw [le_iff_scaled (within_mul hx hwithin hprec) (within_mul hy hwithin hprec),
    scaled_mul hx hwithin hprec, scaled_mul hy hwithin hprec]
  have hscaled : 0 ≤ z.scaled (K + 2) := Int.mul_nonneg hz (by positivity)
  exact roundToDigits_le_of_le hprec (mul_le_mul_of_nonneg_right h hscaled)

/-- An amount within the precision counts its hundredths. -/
theorem toIntegral_hundredfold (hprec : 0 < prec) {c : Int} (h : c.natAbs < 10 ^ prec) :
    (mul prec (Number.cents c) ⟨100, 0⟩).toIntegral = c := by
  have hwithin : Number.Within 0 ⟨100, 0⟩ := le_refl _
  have hscaled : (Number.scaled 0 ⟨100, 0⟩) = 100 := rfl
  rw [toIntegral_of_scaled (within_mul (within_cents 0 c) hwithin hprec),
    scaled_mul (within_cents 0 c) hwithin hprec, scaled_cents, hscaled, pow_zero, mul_one,
    show (100 : Int) = 10 ^ 2 by norm_num, roundToDigits_mul_pow hprec, roundToDigits_of_lt hprec h]
  exact roundQuotient_mul c (by decide)

/-- A nonnegative number takes nothing below what was there. -/
theorem sub_le_cents (hprec : 0 < prec) {c : Int} (h : c.natAbs < 10 ^ prec)
    (hx : (Number.cents 0).le x) : (sub prec (Number.cents c) x).le (Number.cents c) := by
  refine Number.le_trans (Number.sub_le_sub_left hprec _ hx) ?_
  have hwithin := within_add (within_cents 0 c) (within_neg (within_cents 0 0)) hprec
  rw [sub, le_iff_scaled hwithin (within_cents 0 c),
    scaled_add (within_cents 0 c) (within_neg (within_cents 0 0)) hprec, scaled_neg, scaled_cents,
    scaled_cents, zero_mul, neg_zero, add_zero, pow_zero, mul_one, roundToDigits_of_lt hprec h]

end Quantize

end Caixinha.Library.Decimal
