import Caixinha.Library.DecimalOrder

/-! The decimal quotient of two integers is their exact quotient, rounded half even to the
decimals that its significant digits leave room for. -/
namespace Caixinha.Library.Decimal

section Rounding
variable {n scale : Nat}

/-- Rounding is off by half a unit at most. -/
theorem halfEven_near (n : Nat) {scale : Nat} (hscale : 0 < scale) :
    2 * n ≤ 2 * (halfEven n scale * scale) + scale ∧
      2 * (halfEven n scale * scale) ≤ 2 * n + scale := by
  refine ⟨?_, (halfEven_bounds n hscale).2.2⟩
  have hdiv := Nat.div_add_mod n scale
  have hmod := Nat.mod_lt n hscale
  have hcomm : n / scale * scale = scale * (n / scale) := Nat.mul_comm _ _
  have hsucc : (n / scale + 1) * scale = scale * (n / scale) + scale := by
    rw [Nat.add_mul, hcomm, Nat.one_mul]
  unfold halfEven
  split_ifs <;> omega

/-- A quotient rounds to at most `k` up to the half above `k`, which it reaches only where `k` is even. -/
theorem halfEven_le_iff {n scale k : Nat} (hscale : 0 < scale) : halfEven n scale ≤ k ↔
    2 * n ≤ (2 * k + 1) * scale ∧ ((2 * k + 1) * scale ≤ 2 * n → k % 2 = 0) := by
  have hdiv := Nat.div_add_mod n scale
  have hmod := Nat.mod_lt n hscale
  have hmid : (2 * k + 1) * scale = 2 * (scale * k) + scale := by ring
  rw [hmid]
  rcases Nat.lt_trichotomy (n / scale) k with hlt | heq | hgt
  · have hnext := Nat.mul_le_mul_left scale (show n / scale + 1 ≤ k from hlt)
    rw [Nat.mul_add, Nat.mul_one] at hnext
    have hround := (halfEven_bounds n hscale).2.1
    exact ⟨fun _ => ⟨by omega, by omega⟩, fun _ => by omega⟩
  · rw [heq] at hdiv
    unfold halfEven
    rw [heq]
    split
    · exact ⟨fun _ => ⟨by omega, by omega⟩, fun _ => Nat.le_refl k⟩
    · split
      · exact ⟨fun _ => by omega, fun _ => by omega⟩
      · split <;> omega
  · have hnext := Nat.mul_le_mul_left scale (show k + 1 ≤ n / scale from hgt)
    rw [Nat.mul_add, Nat.mul_one] at hnext
    have hround := (halfEven_bounds n hscale).1
    exact ⟨fun _ => by omega, fun _ => by omega⟩

/-- An even number of whole units does not change how the rest is rounded. -/
theorem halfEven_add_mul {m : Nat} (hscale : 0 < scale) (heven : m % 2 = 0) :
    halfEven (m * scale + n) scale = m + halfEven n scale := by
  have hdiv : (m * scale + n) / scale = m + n / scale := by
    rw [Nat.add_comm, Nat.add_mul_div_right _ _ hscale, Nat.add_comm]
  have hmod : (m * scale + n) % scale = n % scale := by
    rw [Nat.add_comm, Nat.add_mul_mod_self_right]
  have hparity : (m + n / scale) % 2 = n / scale % 2 := by omega
  unfold halfEven
  rw [hdiv, hmod, hparity]
  split_ifs <;> omega

/-- A last digit moved off zero and five stands for all the digits after it. -/
theorem halfEven_sticky {d k : Nat} (hd : 0 < d) (hk : 0 < k) (hrest : n % d ≠ 0) :
    halfEven (if n / d % 5 = 0 then n / d + 1 else n / d) (10 ^ k) = halfEven n (d * 10 ^ k) := by
  obtain ⟨k, rfl⟩ : ∃ j, k = j + 1 := ⟨k - 1, by omega⟩
  set q := n / d with hq
  set tenth := 10 ^ k with htenth
  have hpos : 0 < tenth := Nat.pow_pos (by decide)
  rw [Nat.pow_succ, ← htenth]
  have hdivs : n / (d * (tenth * 10)) = q / (tenth * 10) := by rw [← Nat.div_div_eq_div_mul, ← hq]
  have hmods : n % (d * (tenth * 10)) = n % d + d * (q % (tenth * 10)) := by
    rw [Nat.mod_mul, ← hq]
  have hsplit : q % (tenth * 10) / 5 * 5 + q % 5 = q % (tenth * 10) := by
    have hfive : q % (tenth * 10) % 5 = q % 5 := Nat.mod_mod_of_dvd q ⟨tenth * 2, by ring⟩
    rw [← hfive, Nat.mul_comm]
    exact Nat.div_add_mod _ _
  have hlt : q % (tenth * 10) < tenth * 10 := Nat.mod_lt _ (by omega)
  have hrem : n % d < d := Nat.mod_lt _ hd
  have hwhole := Nat.div_add_mod q (tenth * 10)
  set u := q % (tenth * 10) with hu
  set w := q / (tenth * 10) with hw
  -- the digit that stands in for the rest stays within the same block of five
  have hnext : q % 5 = 0 → u + 1 < tenth * 10 := by omega
  have hstick : ∃ v, u ≤ v ∧ v ≤ u + 1 ∧ v < tenth * 10 ∧ v % 5 ≠ 0 ∧
      (if q % 5 = 0 then q + 1 else q) = tenth * 10 * w + v := by
    by_cases h : q % 5 = 0
    · exact ⟨u + 1, by omega, le_rfl, hnext h, by omega, by rw [if_pos h]; omega⟩
    · exact ⟨u, le_rfl, by omega, hlt, by omega, by rw [if_neg h]; omega⟩
  obtain ⟨v, huv, hvu, hvlt, hvfive, hv⟩ := hstick
  have hvdiv : (tenth * 10 * w + v) / (tenth * 10) = w := by
    rw [Nat.mul_add_div (by omega), Nat.div_eq_of_lt hvlt, Nat.add_zero]
  have hvmod : (tenth * 10 * w + v) % (tenth * 10) = v := by
    rw [Nat.mul_add_mod, Nat.mod_eq_of_lt hvlt]
  rw [hv, halfEven, halfEven, hvdiv, hvmod, hdivs, hmods]
  by_cases hlow : u < tenth * 5
  · have hvlow : 2 * v < tenth * 10 := by omega
    have hfull : d * (u + 1) ≤ d * (tenth * 5) := Nat.mul_le_mul_left d hlow
    have hscaled : 2 * (n % d + d * u) < d * (tenth * 10) := by
      have : d * (tenth * 10) = 2 * (d * (tenth * 5)) := by ring
      rw [Nat.mul_add, Nat.mul_one] at hfull
      omega
    rw [if_pos hvlow, if_pos hscaled]
  · have hvhigh : tenth * 10 < 2 * v := by omega
    have hfull : d * (tenth * 5) ≤ d * u := Nat.mul_le_mul_left d (not_lt.mp hlow)
    have hscaled : d * (tenth * 10) < 2 * (n % d + d * u) := by
      have : d * (tenth * 10) = 2 * (d * (tenth * 5)) := by ring
      omega
    rw [if_neg (by omega), if_pos hvhigh, if_neg (by omega), if_pos hscaled]

end Rounding

section Divide
variable {prec n d : Nat}

/-- The decimals that leave `prec` significant digits of the quotient. -/
def KeptPlaces (prec n d places : Nat) : Prop :=
  10 ^ (prec - 1) * d ≤ n * 10 ^ places ∧ n * 10 ^ places < 10 ^ prec * d

private theorem digitCount_eq {c k : Nat} (hlow : 10 ^ k ≤ c) (hhigh : c < 10 ^ (k + 1)) :
    digitCount c = k + 1 := by
  have hle := (digitCount_le_iff (n := c) (k := k + 1) (by omega)).mpr hhigh
  rcases Nat.eq_zero_or_pos k with rfl | hk
  · have := digitCount_pos c
    omega
  · have hnot := (digitCount_le_iff (n := c) hk).not.mpr (not_lt.mpr hlow)
    omega

private theorem scaled_fix (hprec : 0 < prec) {c places s : Nat} (hplaces : places ≤ s) :
    (fix prec c (-(places : Int))).Within s ∧
      (fix prec c (-(places : Int))).scaled s = roundNat prec (c * 10 ^ (s - places)) := by
  obtain ⟨j, hexponent, hcoefficient⟩ := fix_spec hprec c (-(places : Int))
  have hshift : (-(places : Int) + j + s).toNat = j + (s - places) := by omega
  refine ⟨by rw [Number.Within, hexponent]; omega, ?_⟩
  rw [Number.scaled, hexponent, hshift, pow_add, ← mul_assoc, hcoefficient, roundNat_mul_pow hprec]
  push_cast
  rfl

/-- The quotient that `divide` computes is the exact one, correctly rounded. -/
theorem scaled_divide (hprec : 0 < prec) (hd : 0 < d) (hn : 0 < n)
    (hshort : digitCount n + 1 ≤ digitCount d + prec) :
    ∃ places drop, KeptPlaces prec n d places ∧ (divide prec n d).Within (places + drop) ∧
      (divide prec n d).scaled (places + drop) = halfEven (n * 10 ^ places) d * 10 ^ drop := by
  obtain ⟨s, hs⟩ : ∃ s, digitCount d + prec + 1 = digitCount n + s :=
    ⟨digitCount d + prec + 1 - digitCount n, by omega⟩
  have hshift : (digitCount d : Int) - digitCount n + prec + 1 = (s : Int) := by omega
  set q := n * 10 ^ s / d with hq
  have hqlow : 10 ^ prec ≤ q := by
    rw [hq, Nat.le_div_iff_mul_le hd]
    calc 10 ^ prec * d ≤ 10 ^ prec * 10 ^ digitCount d :=
          Nat.mul_le_mul_left _ (lt_pow_digitCount d).le
      _ = 10 ^ (digitCount n - 1) * 10 ^ s := by
          have := digitCount_pos n
          rw [← Nat.pow_add, ← Nat.pow_add]
          congr 1
          omega
      _ ≤ n * 10 ^ s := Nat.mul_le_mul_right _ (pow_le_of_digitCount hn)
  have hqhigh : q < 10 ^ (prec + 2) := by
    rw [hq, Nat.div_lt_iff_lt_mul hd]
    calc n * 10 ^ s < 10 ^ digitCount n * 10 ^ s :=
          Nat.mul_lt_mul_of_pos_right (lt_pow_digitCount n) (Nat.pow_pos (by decide))
      _ = 10 ^ (prec + 2) * 10 ^ (digitCount d - 1) := by
          have := digitCount_pos d
          rw [← Nat.pow_add, ← Nat.pow_add]
          congr 1
          omega
      _ ≤ 10 ^ (prec + 2) * d := Nat.mul_le_mul_left _ (pow_le_of_digitCount hd)
  obtain ⟨e, he, hcount, hlow, hhigh⟩ : ∃ e, (0 < e ∧ e ≤ 2) ∧ excess prec q = e ∧
      10 ^ (prec + e - 1) ≤ q ∧ q < 10 ^ (prec + e) := by
    have hle := (digitCount_le_iff (n := q) (k := prec + 2) (by omega)).mpr hqhigh
    have hge := (digitCount_le_iff (n := q) hprec).not.mpr (not_lt.mpr hqlow)
    have hsize : prec + excess prec q = digitCount q := by rw [excess]; omega
    refine ⟨excess prec q, by rw [excess]; omega, rfl, ?_, ?_⟩
    · rw [hsize]
      exact pow_le_of_digitCount (lt_of_lt_of_le (Nat.pow_pos (by decide)) hqlow)
    · rw [hsize]
      exact lt_pow_digitCount q
  obtain ⟨p, rfl⟩ : ∃ p, s = p + e := ⟨s - e, by omega⟩
  have hten : 0 < 10 ^ e := Nat.pow_pos (by decide)
  have hnum : n * 10 ^ (p + e) = n * 10 ^ p * 10 ^ e := by rw [Nat.pow_add, Nat.mul_assoc]
  refine ⟨p, e, ⟨?_, ?_⟩, ?_⟩
  · apply Nat.le_of_mul_le_mul_right _ hten
    rw [← hnum, Nat.mul_right_comm, ← Nat.pow_add, show prec - 1 + e = prec + e - 1 by omega]
    exact (Nat.le_div_iff_mul_le hd).mp hlow
  · apply Nat.lt_of_mul_lt_mul_right (a := 10 ^ e)
    rw [← hnum, Nat.mul_right_comm, ← Nat.pow_add]
    exact (Nat.div_lt_iff_lt_mul hd).mp hhigh
  have hrounded : halfEven (n * 10 ^ (p + e)) (d * 10 ^ e) = halfEven (n * 10 ^ p) d := by
    rw [hnum, halfEven_mul _ hten]
  have hneg : (-((p + e : Nat) : Int)).toNat = 0 := by omega
  rw [divide, if_neg (by omega), hshift]
  simp only [Int.toNat_natCast, hneg, Nat.pow_zero, Nat.mul_one, ← hq]
  split
  · -- the exact quotient: the zeros that were dropped are shifted back in
    rename_i hexact
    obtain ⟨hle, hvalue⟩ := stripZeros_spec (p + e) q
    generalize stripZeros (p + e) q = strip at hle hvalue
    obtain ⟨c, places⟩ := strip
    dsimp only at hle hvalue ⊢
    rw [if_pos (by omega)]
    obtain ⟨hwithin, hscaled⟩ := scaled_fix hprec (c := c) hle
    refine ⟨hwithin, ?_⟩
    have hqd : q * d = n * 10 ^ (p + e) := by
      rw [hq]
      exact Nat.div_mul_cancel (Nat.dvd_of_mod_eq_zero hexact)
    rw [hscaled, hvalue, roundNat, hcount, ← halfEven_mul (n := q) d hd, hqd,
      Nat.mul_comm (10 ^ e) d, hrounded]
    push_cast
    rfl
  · rename_i hrest
    set c := if q % 5 = 0 then q + 1 else q with hc
    have hcbounds : q ≤ c ∧ c ≤ q + 1 ∧ (c = q + 1 → q % 5 = 0) := by
      rw [hc]
      split <;> omega
    obtain ⟨k, hk⟩ : ∃ k, prec + e = k + 1 := ⟨prec + e - 1, by omega⟩
    have hcsize : c < 10 ^ (k + 1) := by
      rw [hk] at hhigh
      have htenth : 10 ^ (k + 1) = 10 ^ k * 10 := Nat.pow_succ ..
      omega
    have hcexcess : excess prec c = e := by
      rw [excess, digitCount_eq (k := k) _ hcsize]
      · omega
      · rw [show prec + e - 1 = k by omega] at hlow
        omega
    obtain ⟨hwithin, hscaled⟩ := scaled_fix hprec (c := c) (le_refl (p + e))
    refine ⟨hwithin, ?_⟩
    rw [hscaled, Nat.sub_self, Nat.pow_zero, Nat.mul_one, roundNat, hcexcess, hc, hq,
      halfEven_sticky hd he.1 hrest, hrounded]
    push_cast
    rfl

theorem KeptPlaces.unique {p q : Nat} (hprec : 0 < prec) (hp : KeptPlaces prec n d p)
    (hq : KeptPlaces prec n d q) : p = q := by
  have hwlog : ∀ {p q : Nat}, KeptPlaces prec n d p → KeptPlaces prec n d q → q ≤ p := by
    intro p q hp hq
    by_contra hlt
    have hpow : 10 ^ p * 10 ≤ 10 ^ q := by
      rw [← Nat.pow_succ]
      exact Nat.pow_le_pow_right (by decide) (by omega)
    have hscaled := Nat.mul_le_mul_left n hpow
    have hfull : 10 ^ (prec - 1) * d * 10 = 10 ^ prec * d := by
      obtain ⟨m, rfl⟩ : ∃ m, prec = m + 1 := ⟨prec - 1, by omega⟩
      rw [Nat.add_sub_cancel, Nat.pow_succ]
      ring
    rw [← Nat.mul_assoc] at hscaled
    have := hp.1
    have := hq.2
    omega
  exact Nat.le_antisymm (hwlog hq hp) (hwlog hp hq)

end Divide

section Fraction
variable {prec n m d : Nat} {x y : Number}

/-- More decimals make the scaled coefficient longer. -/
theorem scaled_add_places {K : Nat} (hx : x.Within K) (j : Nat) :
    x.scaled (K + j) = x.scaled K * 10 ^ j := by
  rw [Number.Within] at hx
  rw [Number.scaled, Number.scaled, mul_assoc, ← pow_add]
  congr 2
  push_cast
  omega

/-- Numbers are compared as their coefficients at any scale that holds both. -/
theorem le_iff_scaled {K : Nat} (hx : x.Within K) (hy : y.Within K) :
    x.le y ↔ x.scaled K ≤ y.scaled K := by
  rw [Number.Within] at hx hy
  set e := min x.exponent y.exponent with he
  have hxsplit : (x.exponent + K).toNat = (x.exponent - e).toNat + (e + K).toNat := by omega
  have hysplit : (y.exponent + K).toNat = (y.exponent - e).toNat + (e + K).toNat := by omega
  have hpos : (0 : Int) < 10 ^ (e + K).toNat := by positivity
  rw [Number.le, Number.scaled, Number.scaled, hxsplit, hysplit, pow_add, pow_add, ← mul_assoc,
    ← mul_assoc, mul_le_mul_iff_left₀ hpos]

private theorem within_of_le {K : Nat} (h : -x.exponent ≤ K) : x.Within K := by
  rw [Number.Within]
  omega

theorem Number.le_total (x y : Number) : x.le y ∨ y.le x := by
  have hx : x.Within (max (-x.exponent).toNat (-y.exponent).toNat) := within_of_le (by omega)
  have hy : y.Within (max (-x.exponent).toNat (-y.exponent).toNat) := within_of_le (by omega)
  rw [le_iff_scaled hx hy, le_iff_scaled hy hx]
  exact Int.le_total _ _

theorem Number.le_trans {x y z : Number} (hxy : x.le y) (hyz : y.le z) : x.le z := by
  set K := max (-x.exponent).toNat (max (-y.exponent).toNat (-z.exponent).toNat) with hK
  have hx : x.Within K := within_of_le (by omega)
  have hy : y.Within K := within_of_le (by omega)
  have hz : z.Within K := within_of_le (by omega)
  rw [le_iff_scaled hx hy] at hxy
  rw [le_iff_scaled hy hz] at hyz
  rw [le_iff_scaled hx hz]
  exact hxy.trans hyz

/-- Numbers known to their own decimals are compared across. -/
theorem le_iff_of_places {p q i j k l : Nat} (hx : x.Within (p + i)) (hy : y.Within (q + j))
    (hxk : x.scaled (p + i) = k * 10 ^ i) (hyl : y.scaled (q + j) = l * 10 ^ j) :
    x.le y ↔ k * 10 ^ q ≤ l * 10 ^ p := by
  have hxwide : x.Within (p + i + (q + j)) := by
    rw [Number.Within] at hx ⊢
    push_cast at hx ⊢
    omega
  have hywide : y.Within (p + i + (q + j)) := by
    rw [Number.Within] at hy ⊢
    push_cast at hy ⊢
    omega
  rw [le_iff_scaled hxwide hywide, scaled_add_places hx, hxk, Nat.add_comm (p + i),
    scaled_add_places hy, hyl]
  have hleft : (k : Int) * 10 ^ i * 10 ^ (q + j) = k * 10 ^ q * 10 ^ (i + j) := by ring
  have hright : (l : Int) * 10 ^ j * 10 ^ (p + i) = l * 10 ^ p * 10 ^ (i + j) := by ring
  rw [hleft, hright, mul_le_mul_iff_left₀ (by positivity)]
  norm_cast

private theorem scaled_subNat {K : Nat} (hx : x.Within K) (w : Nat) :
    (x.subNat w).Within K ∧ (x.subNat w).scaled K = x.scaled K - w * 10 ^ K := by
  rw [Number.Within] at hx
  rw [Number.subNat]
  split
  · rename_i hexponent
    refine ⟨by rw [Number.Within]; dsimp only; omega, ?_⟩
    have hsplit : (x.exponent + K).toNat = x.exponent.toNat + K := by omega
    rw [Number.scaled, Number.scaled, hsplit, pow_add]
    dsimp only
    rw [Int.zero_add, Int.toNat_natCast, sub_mul, mul_assoc]
  · refine ⟨by rw [Number.Within]; dsimp only; omega, ?_⟩
    have hsplit : (10 : Int) ^ K = 10 ^ (-x.exponent).toNat * 10 ^ (x.exponent + K).toNat := by
      rw [← pow_add]
      congr 1
      omega
    rw [Number.scaled, Number.scaled, hsplit]
    dsimp only
    rw [sub_mul, mul_assoc (w : Int)]

/-- What the rounded quotient leaves over its whole part is the exact rest, rounded. -/
theorem fraction_spec (hprec : 1 < prec) (hd : 0 < d) (hn : n < 10 ^ (prec - 1)) :
    ∃ places drop, d < 10 ^ places ∧ (n ≠ 0 → KeptPlaces prec n d places) ∧
      ((divide prec n d).subNat (n / d)).Within (places + drop) ∧
      ((divide prec n d).subNat (n / d)).scaled (places + drop) =
        halfEven (n % d * 10 ^ places) d * 10 ^ drop := by
  rcases Nat.eq_zero_or_pos n with rfl | hpos
  · refine ⟨d, 0, Nat.lt_pow_self (by decide), by simp, ?_⟩
    have hzero : halfEven 0 d = 0 := by simp [halfEven, hd]
    simp [divide, Number.subNat, Number.scaled, Number.Within, hzero]
  · have hshort : digitCount n ≤ prec - 1 := (digitCount_le_iff (by omega)).mpr hn
    obtain ⟨places, drop, hkept, hwithin, hscaled⟩ :=
      scaled_divide (by omega : 0 < prec) hd hpos (by omega)
    have hroom : d < 10 ^ places := by
      by_contra hge
      have hle := hkept.1.trans (Nat.mul_le_mul_left n (not_lt.mp hge))
      have := Nat.le_of_mul_le_mul_right hle hd
      omega
    obtain ⟨hrest, hvalue⟩ := scaled_subNat hwithin (n / d)
    refine ⟨places, drop, hroom, fun _ => hkept, hrest, ?_⟩
    obtain ⟨j, rfl⟩ : ∃ j, places = j + 1 := by
      refine ⟨places - 1, ?_⟩
      rcases Nat.eq_zero_or_pos places with rfl | h
      · rw [Nat.pow_zero] at hroom
        omega
      · omega
    have hparity : n / d * 10 ^ (j + 1) % 2 = 0 := by
      rw [Nat.pow_succ, ← Nat.mul_assoc]
      omega
    have hsplit : n * 10 ^ (j + 1) = n / d * 10 ^ (j + 1) * d + n % d * 10 ^ (j + 1) := by
      rw [Nat.mul_right_comm, ← Nat.add_mul, Nat.div_add_mod']
    rw [hvalue, hscaled, hsplit, halfEven_add_mul hd hparity]
    push_cast
    ring

/-- A larger exact rest stays strictly larger when both are rounded. -/
theorem not_fraction_le (hprec : 1 < prec) (hd : 0 < d) (hn : n < 10 ^ (prec - 1))
    (hm : m < 10 ^ (prec - 1)) (hlt : n % d < m % d) :
    ¬ ((divide prec m d).subNat (m / d)).le ((divide prec n d).subNat (n / d)) := by
  obtain ⟨p, i, hp, -, hxwithin, hx⟩ := fraction_spec hprec hd hn
  obtain ⟨q, j, hq, -, hywithin, hy⟩ := fraction_spec hprec hd hm
  rw [le_iff_of_places hywithin hxwithin hy hx, not_le]
  set k := halfEven (n % d * 10 ^ p) d with hk
  set l := halfEven (m % d * 10 ^ q) d with hl
  have hupper := (halfEven_near (n % d * 10 ^ p) hd).2
  have hlower := (halfEven_near (m % d * 10 ^ q) hd).1
  rw [← hk] at hupper
  rw [← hl] at hlower
  have hbelow : 2 * (k * d) < (2 * (n % d) + 1) * 10 ^ p := by
    rw [Nat.add_mul, Nat.mul_assoc, Nat.one_mul]
    omega
  have habove : (2 * (n % d) + 1) * 10 ^ q ≤ 2 * (l * d) := by
    have hstep := Nat.mul_le_mul_right (10 ^ q) hlt
    rw [Nat.add_mul, Nat.mul_assoc, Nat.one_mul]
    rw [Nat.succ_mul] at hstep
    omega
  apply Nat.lt_of_mul_lt_mul_right (a := 2 * d)
  calc k * 10 ^ q * (2 * d) = 2 * (k * d) * 10 ^ q := by ring
    _ < (2 * (n % d) + 1) * 10 ^ p * 10 ^ q :=
      Nat.mul_lt_mul_of_pos_right hbelow (Nat.pow_pos (by decide))
    _ = (2 * (n % d) + 1) * 10 ^ q * 10 ^ p := by ring
    _ ≤ 2 * (l * d) * 10 ^ p := Nat.mul_le_mul_right _ habove
    _ = l * 10 ^ p * (2 * d) := by ring

/-- The rounded rests compare as the exact rests rounded to the decimals each one has. -/
theorem fraction_le_iff (hprec : 1 < prec) (hd : 0 < d) (hn : n < 10 ^ (prec - 1))
    (hm : m < 10 ^ (prec - 1)) {p q : Nat} (hp : KeptPlaces prec n d p) (hq : KeptPlaces prec m d q) :
    ((divide prec n d).subNat (n / d)).le ((divide prec m d).subNat (m / d)) ↔
      halfEven (n % d * 10 ^ p) d * 10 ^ q ≤ halfEven (m % d * 10 ^ q) d * 10 ^ p := by
  have hne : ∀ {n p : Nat}, KeptPlaces prec n d p → n ≠ 0 := by
    rintro _ _ h rfl
    have := h.1
    have : 0 < 10 ^ (prec - 1) * d := Nat.mul_pos (Nat.pow_pos (by decide)) hd
    omega
  obtain ⟨p', i, -, hp', hxwithin, hx⟩ := fraction_spec hprec hd hn
  obtain ⟨q', j, -, hq', hywithin, hy⟩ := fraction_spec hprec hd hm
  obtain rfl := KeptPlaces.unique (by omega) hp (hp' (hne hp))
  obtain rfl := KeptPlaces.unique (by omega) hq (hq' (hne hq))
  exact le_iff_of_places hxwithin hywithin hx hy

/-- Exact quotients leave nothing to compare. -/
theorem fraction_le_of_dvd (hprec : 1 < prec) (hd : 0 < d) (hn : n < 10 ^ (prec - 1))
    (hm : m < 10 ^ (prec - 1)) (hzero : n % d = 0) :
    ((divide prec n d).subNat (n / d)).le ((divide prec m d).subNat (m / d)) := by
  obtain ⟨p, i, -, -, hxwithin, hx⟩ := fraction_spec hprec hd hn
  obtain ⟨q, j, -, -, hywithin, hy⟩ := fraction_spec hprec hd hm
  rw [le_iff_of_places hxwithin hywithin hx hy, hzero, Nat.zero_mul]
  have : halfEven 0 d = 0 := by simp [halfEven, hd]
  rw [this, Nat.zero_mul]
  exact Nat.zero_le _

theorem exists_keptPlaces (hprec : 1 < prec) (hd : 0 < d) (hn : n < 10 ^ (prec - 1)) (hne : n ≠ 0) :
    ∃ places, KeptPlaces prec n d places := by
  obtain ⟨places, -, -, hkept, -⟩ := fraction_spec hprec hd hn
  exact ⟨places, hkept hne⟩

end Fraction

section Hundredths
variable {prec n d scale : Nat}

/-- Half-up rounding as a quotient of whole numbers. -/
theorem halfUp_eq_div (n : Nat) (hscale : 0 < scale) : halfUp n scale = (2 * n + scale) / (2 * scale) := by
  have hdiv := Nat.div_add_mod n scale
  have hmod := Nat.mod_lt n hscale
  have hsplit : 2 * n + scale = 2 * scale * (n / scale) + (2 * (n % scale) + scale) := by
    rw [Nat.mul_assoc]
    omega
  rw [hsplit, Nat.mul_add_div (by omega), halfUp]
  split
  · rename_i hlow
    have hrest : (2 * (n % scale) + scale) / (2 * scale) = 0 := Nat.div_eq_of_lt (by omega)
    rw [hrest, Nat.add_zero]
  · rename_i hhigh
    have hrest : (2 * (n % scale) + scale) / (2 * scale) = 1 :=
      Nat.div_eq_of_lt_le (by omega) (by omega)
    rw [hrest]

/-- Rounding to enough decimals first does not move the hundredths. -/
theorem halfUp_halfEven (hd : 0 < d) (hroom : d < scale) (heven : scale % 2 = 0) :
    halfUp (halfEven (n * scale) d) scale = halfUp n d := by
  obtain ⟨hbelow, habove⟩ := halfEven_near (n * scale) hd
  set q := halfEven (n * scale) d with hq
  rw [halfUp_eq_div q (by omega), halfUp_eq_div n hd]
  set m := (2 * n + d) / (2 * d) with hm
  have hlow : m * (2 * d) ≤ 2 * n + d := Nat.div_mul_le_self _ _
  have hhigh : 2 * n + d < (m + 1) * (2 * d) := Nat.lt_mul_of_div_lt (by omega) (by omega)
  apply Nat.div_eq_of_lt_le
  · have hfull := Nat.mul_le_mul_right scale hlow
    have hscaled : (m * (2 * scale)) * d ≤ (2 * q + scale + 1) * d := by
      have hleft : m * (2 * scale) * d = m * (2 * d) * scale := by ring
      have hright : (2 * q + scale + 1) * d = 2 * (q * d) + d * scale + d := by ring
      have hsum : (2 * n + d) * scale = 2 * (n * scale) + d * scale := by ring
      omega
    have hodd : m * (2 * scale) ≤ 2 * q + scale + 1 := Nat.le_of_mul_le_mul_right hscaled hd
    -- both sides are even but for the last unit
    have hparity : m * (2 * scale) % 2 = 0 := by
      rw [Nat.mul_left_comm]
      exact Nat.mul_mod_right 2 _
    omega
  · have hfull := Nat.mul_le_mul_right scale hhigh
    have hscaled : (2 * q + scale) * d < (m + 1) * (2 * scale) * d := by
      have hleft : (2 * q + scale) * d = 2 * (q * d) + d * scale := by ring
      have hright : (m + 1) * (2 * scale) * d = (m + 1) * (2 * d) * scale := by ring
      have hsum : (2 * n + d).succ * scale = 2 * (n * scale) + d * scale + scale := by
        rw [Nat.succ_mul]
        ring
      omega
    exact Nat.lt_of_mul_lt_mul_right hscaled

/-- The hundredths of a quotient of two amounts in hundredths, by way of the rounded quotient. -/
theorem centsHalfUp_divide (hprec : 1 < prec) (hd : 0 < d) (hn : n < 10 ^ (prec - 1)) :
    centsHalfUp ⟨(divide prec n d).coefficient, (divide prec n d).exponent - 2⟩ = halfUp n d := by
  rcases Nat.eq_zero_or_pos n with rfl | hpos
  · simp [divide, centsHalfUp, halfUp, hd]
  · have hshort : digitCount n ≤ prec - 1 := (digitCount_le_iff (by omega)).mpr hn
    obtain ⟨places, drop, hkept, hwithin, hscaled⟩ :=
      scaled_divide (by omega : 0 < prec) hd hpos (by omega)
    have hroom : d < 10 ^ places := by
      by_contra hge
      have hle := hkept.1.trans (Nat.mul_le_mul_left n (not_lt.mp hge))
      have := Nat.le_of_mul_le_mul_right hle hd
      omega
    obtain ⟨j, rfl⟩ : ∃ j, places = j + 1 := by
      refine ⟨places - 1, ?_⟩
      rcases Nat.eq_zero_or_pos places with rfl | h
      · rw [Nat.pow_zero] at hroom
        omega
      · omega
    have heven : 10 ^ (j + 1) % 2 = 0 := by
      rw [Nat.pow_succ]
      omega
    set x : Number := ⟨(divide prec n d).coefficient, (divide prec n d).exponent - 2⟩ with hx
    have hwide : x.Within (j + 1 + drop + 2) := by
      rw [Number.Within] at hwithin ⊢
      push_cast at hwithin ⊢
      rw [hx]
      dsimp only
      omega
    have hvalue : x.scaled (j + 1 + drop + 2) =
        (halfEven (n * 10 ^ (j + 1)) d * 10 ^ drop : Nat) := by
      have hsame : x.scaled (j + 1 + drop + 2) = (divide prec n d).scaled (j + 1 + drop) := by
        rw [Number.scaled, Number.scaled, hx]
        dsimp only
        congr 2
        push_cast
        omega
      rw [hsame, hscaled]
      push_cast
      rfl
    have hnonneg : 0 ≤ x.coefficient := by
      rw [hx]
      dsimp only
      have hpow : (0 : Int) < 10 ^ ((divide prec n d).exponent + (j + 1 + drop : Nat)).toNat := by positivity
      have hprod : 0 ≤ (divide prec n d).coefficient *
          10 ^ ((divide prec n d).exponent + (j + 1 + drop : Nat)).toNat := by
        rw [← Number.scaled, hscaled]
        positivity
      exact nonneg_of_mul_nonneg_left hprod hpow
    rw [centsHalfUp_of_scaled hwide hnonneg, hvalue, Int.toNat_natCast, Nat.pow_add 10 (j + 1) drop,
      halfUp_mul _ (Nat.pow_pos (by decide)), halfUp_halfEven hd hroom heven]

end Hundredths

end Caixinha.Library.Decimal
