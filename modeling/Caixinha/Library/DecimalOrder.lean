import Caixinha.Library.Decimal

/-! Rounding keeps the order of decimal numbers. Numbers are compared at a common scale, where
rounding their coefficients is rounding them. -/
namespace Caixinha.Library.Decimal

section Nat
variable {m n k prec scale : Nat}

theorem halfEven_mono (h : m ≤ n) : halfEven m scale ≤ halfEven n scale := by
  have hq := Nat.div_le_div_right (c := scale) h
  rcases Nat.eq_zero_or_pos scale with rfl | hscale
  · simp [halfEven]
    split <;> split <;> omega
  rcases Nat.lt_or_eq_of_le hq with hlt | heq
  · have hm := (halfEven_bounds m hscale).2.1
    have hn := (halfEven_bounds n hscale).1
    omega
  · have hm := Nat.div_add_mod m scale
    have hn := Nat.div_add_mod n scale
    have hmod : m % scale ≤ n % scale := by
      rw [heq] at hm
      omega
    unfold halfEven
    rw [heq]
    split_ifs <;> omega

theorem halfUp_mono (h : m ≤ n) : halfUp m scale ≤ halfUp n scale := by
  have hq := Nat.div_le_div_right (c := scale) h
  have hm := Nat.div_add_mod m scale
  have hn := Nat.div_add_mod n scale
  unfold halfUp
  rcases Nat.lt_or_eq_of_le hq with hlt | heq
  · split_ifs <;> omega
  · have hmod : m % scale ≤ n % scale := by
      rw [heq] at hm
      omega
    split_ifs <;> omega

theorem digitCount_mono (h : m ≤ n) : digitCount m ≤ digitCount n :=
  (digitCount_le_iff (digitCount_pos n)).mpr (lt_of_le_of_lt h (lt_pow_digitCount n))

theorem roundNat_le_pow : roundNat prec n ≤ 10 ^ (prec + excess prec n) := by
  have hscale : 0 < 10 ^ excess prec n := Nat.pow_pos (by decide)
  have hbound := (halfEven_bounds n hscale).2.1
  have hq : n / 10 ^ excess prec n < 10 ^ prec := by
    rw [Nat.div_lt_iff_lt_mul hscale, ← Nat.pow_add]
    refine lt_of_lt_of_le (lt_pow_digitCount n) (Nat.pow_le_pow_right (by decide) ?_)
    rw [excess]
    omega
  rw [roundNat, Nat.pow_add]
  exact Nat.mul_le_mul_right _ (by omega)

theorem pow_le_roundNat_of_excess (hprec : 0 < prec) (h : 0 < excess prec n) :
    10 ^ (prec + excess prec n - 1) ≤ roundNat prec n := by
  have hn : 0 < n := by
    by_contra hzero
    obtain rfl : n = 0 := by omega
    rw [excess_eq_zero hprec (Nat.pow_pos (by decide))] at h
    omega
  have hscale : 0 < 10 ^ excess prec n := Nat.pow_pos (by decide)
  have hlow := pow_le_of_digitCount hn
  rw [show digitCount n - 1 = (prec - 1) + excess prec n by rw [excess] at h ⊢; omega, Nat.pow_add] at hlow
  have hq : 10 ^ (prec - 1) ≤ n / 10 ^ excess prec n := (Nat.le_div_iff_mul_le hscale).mpr hlow
  rw [roundNat, show prec + excess prec n - 1 = (prec - 1) + excess prec n by omega, Nat.pow_add]
  exact Nat.mul_le_mul_right _ (hq.trans (halfEven_bounds n hscale).1)

theorem roundNat_mono (hprec : 0 < prec) (h : m ≤ n) : roundNat prec m ≤ roundNat prec n := by
  have hexcess : excess prec m ≤ excess prec n := Nat.sub_le_sub_right (digitCount_mono h) _
  rcases Nat.lt_or_eq_of_le hexcess with hlt | heq
  · calc roundNat prec m ≤ 10 ^ (prec + excess prec m) := roundNat_le_pow
      _ ≤ 10 ^ (prec + excess prec n - 1) := Nat.pow_le_pow_right (by decide) (by omega)
      _ ≤ roundNat prec n := pow_le_roundNat_of_excess hprec (by omega)
  · rw [roundNat, roundNat, heq]
    exact Nat.mul_le_mul_right _ (halfEven_mono h)

theorem halfEven_mul (k : Nat) (hk : 0 < k) : halfEven (n * k) (scale * k) = halfEven n scale := by
  have hdiv : n * k / (scale * k) = n / scale := Nat.mul_div_mul_right _ _ hk
  have hmod : n * k % (scale * k) = n % scale * k := Nat.mul_mod_mul_right ..
  unfold halfEven
  rw [hdiv, hmod, ← Nat.mul_assoc]
  simp only [Nat.mul_lt_mul_right hk]

theorem halfUp_mul (k : Nat) (hk : 0 < k) : halfUp (n * k) (scale * k) = halfUp n scale := by
  have hdiv : n * k / (scale * k) = n / scale := Nat.mul_div_mul_right _ _ hk
  have hmod : n * k % (scale * k) = n % scale * k := Nat.mul_mod_mul_right ..
  unfold halfUp
  rw [hdiv, hmod, ← Nat.mul_assoc]
  simp only [Nat.mul_lt_mul_right hk]

theorem halfEven_of_dvd (h : scale ∣ n) (hscale : 0 < scale) : halfEven n scale * scale = n := by
  unfold halfEven
  rw [Nat.mod_eq_zero_of_dvd h, Nat.mul_zero, if_pos hscale, Nat.div_mul_cancel h]

theorem digitCount_mul_pow (hn : 0 < n) (k : Nat) : digitCount (n * 10 ^ k) = digitCount n + k := by
  have hcount := digitCount_pos n
  apply Nat.le_antisymm
  · rw [digitCount_le_iff (by omega), Nat.pow_add]
    exact Nat.mul_lt_mul_of_pos_right (lt_pow_digitCount n) (Nat.pow_pos (by decide))
  · by_contra hlt
    have hle : digitCount (n * 10 ^ k) ≤ digitCount n - 1 + k := by omega
    rcases Nat.eq_zero_or_pos (digitCount n - 1 + k) with hzero | hpos
    · have := digitCount_pos (n * 10 ^ k)
      omega
    · rw [digitCount_le_iff hpos, Nat.pow_add] at hle
      have := Nat.lt_of_mul_lt_mul_right hle
      have := pow_le_of_digitCount hn
      omega

/-- Rounding commutes with a shift of the point. -/
theorem roundNat_mul_pow (hprec : 0 < prec) (k : Nat) :
    roundNat prec (n * 10 ^ k) = roundNat prec n * 10 ^ k := by
  rcases Nat.eq_zero_or_pos n with rfl | hn
  · have hzero : roundNat prec 0 = 0 := roundNat_of_lt hprec (Nat.pow_pos (by decide))
    rw [Nat.zero_mul, hzero, Nat.zero_mul]
  have hcount := digitCount_mul_pow hn k
  by_cases hlong : prec ≤ digitCount n
  · have hexcess : excess prec (n * 10 ^ k) = excess prec n + k := by
      rw [excess, excess, hcount]
      omega
    rw [roundNat, hexcess, Nat.pow_add, halfEven_mul _ (Nat.pow_pos (by decide)), roundNat,
      Nat.mul_assoc]
  · have hexact : roundNat prec n = n :=
      roundNat_of_lt hprec ((digitCount_le_iff hprec).mp (by omega))
    have hdvd : 10 ^ excess prec (n * 10 ^ k) ∣ n * 10 ^ k := by
      refine Dvd.dvd.mul_left (Nat.pow_dvd_pow _ ?_) _
      rw [excess, hcount]
      omega
    rw [hexact, roundNat, halfEven_of_dvd hdvd (Nat.pow_pos (by decide))]

/-- A rounded number is a number of `prec` digits. -/
theorem roundNat_roundNat (hprec : 0 < prec) : roundNat prec (roundNat prec n) = roundNat prec n := by
  have hscale : 0 < 10 ^ excess prec n := Nat.pow_pos (by decide)
  have hle : halfEven n (10 ^ excess prec n) ≤ 10 ^ prec := by
    have hpow := @roundNat_le_pow n prec
    rw [roundNat, Nat.pow_add] at hpow
    exact Nat.le_of_mul_le_mul_right hpow hscale
  have hexact : roundNat prec (halfEven n (10 ^ excess prec n)) = halfEven n (10 ^ excess prec n) := by
    rcases Nat.lt_or_eq_of_le hle with hlt | heq
    · exact roundNat_of_lt hprec hlt
    · rw [heq, ← Nat.one_mul (10 ^ prec), roundNat_mul_pow hprec,
        roundNat_of_lt hprec (Nat.one_lt_pow (by omega) (by decide))]
  calc roundNat prec (roundNat prec n)
      = roundNat prec (halfEven n (10 ^ excess prec n) * 10 ^ excess prec n) := by rw [← roundNat]
    _ = roundNat prec n := by rw [roundNat_mul_pow hprec, hexact, ← roundNat]

end Nat

section Int
variable {m n : Int} {prec : Nat}

theorem roundToDigits_of_nonneg (h : 0 ≤ n) : roundToDigits prec n = roundNat prec n.toNat := by
  obtain ⟨k, rfl⟩ := Int.eq_ofNat_of_zero_le h
  rcases Nat.eq_zero_or_pos k with rfl | hk
  · have hzero : roundNat prec 0 = 0 :=
      halfEven_of_dvd (Nat.dvd_zero _) (Nat.pow_pos (by decide))
    simp [roundToDigits, hzero]
  · rw [roundToDigits, Int.sign_eq_one_of_pos (by omega), one_mul, Int.natAbs_natCast, Int.toNat_natCast]

theorem roundToDigits_mono (hprec : 0 < prec) (hm : 0 ≤ m) (h : m ≤ n) :
    roundToDigits prec m ≤ roundToDigits prec n := by
  rw [roundToDigits_of_nonneg hm, roundToDigits_of_nonneg (hm.trans h)]
  exact_mod_cast roundNat_mono hprec (Int.toNat_le_toNat h)

theorem roundToDigits_idem (hprec : 0 < prec) (h : 0 ≤ n) :
    roundToDigits prec (roundToDigits prec n) = roundToDigits prec n := by
  rw [roundToDigits_of_nonneg h, roundToDigits_of_nonneg (Int.natCast_nonneg _), Int.toNat_natCast,
    roundNat_roundNat hprec]

theorem roundToDigits_mul_pow (hprec : 0 < prec) (k : Nat) :
    roundToDigits prec (n * 10 ^ k) = roundToDigits prec n * 10 ^ k := by
  have hpow : (10 ^ k : Int).natAbs = 10 ^ k := by
    rw [Int.natAbs_pow]
    rfl
  have hsign : (10 ^ k : Int).sign = 1 := Int.sign_eq_one_of_pos (by positivity)
  rw [roundToDigits, Int.natAbs_mul, hpow, roundNat_mul_pow hprec, Int.sign_mul, hsign, mul_one,
    roundToDigits]
  push_cast
  ring

end Int

section Scaled
variable {K L prec : Nat} {x y : Number}

/-- A number in units of `10 ^ -K`. -/
def Number.scaled (K : Nat) (x : Number) : Int := x.coefficient * 10 ^ (x.exponent + K).toNat

/-- A number with at most `K` decimal places. -/
def Number.Within (K : Nat) (x : Number) : Prop := -(K : Int) ≤ x.exponent

theorem fix_spec (hprec : 0 < prec) (c : Nat) (e : Int) :
    ∃ places : Nat, (fix prec c e).exponent = e + places ∧
      (fix prec c e).coefficient * 10 ^ places = roundNat prec c := by
  have hscale : 0 < 10 ^ excess prec c := Nat.pow_pos (by decide)
  unfold fix
  dsimp only
  split
  · rename_i hcarry
    have hten : halfEven c (10 ^ excess prec c) = 10 ^ prec := by
      have hle := Nat.le_of_mul_le_mul_right
        (roundNat_le_pow.trans_eq (Nat.pow_add ..) : halfEven c (10 ^ excess prec c) *
          10 ^ excess prec c ≤ 10 ^ prec * 10 ^ excess prec c) hscale
      have hge := (digitCount_le_iff (n := halfEven c (10 ^ excess prec c)) hprec).not.mp
        (not_le.mpr hcarry)
      omega
    refine ⟨excess prec c + 1, by push_cast; ring, ?_⟩
    obtain ⟨m, rfl⟩ : ∃ m, prec = m + 1 := ⟨prec - 1, by omega⟩
    rw [roundNat, hten, Nat.pow_succ 10 m, Nat.mul_div_cancel _ (by decide)]
    push_cast
    ring
  · exact ⟨excess prec c, rfl, by rw [roundNat]; push_cast; ring⟩

theorem Within.round (h : x.Within K) (hprec : 0 < prec) : (x.round prec).Within K := by
  obtain ⟨places, hexponent, -⟩ := fix_spec hprec x.coefficient.natAbs x.exponent
  rw [Number.Within] at h ⊢
  rw [Number.round]
  dsimp only
  omega

/-- At a common scale rounding a number rounds its coefficient. -/
theorem scaled_round (h : x.Within K) (hprec : 0 < prec) :
    (x.round prec).scaled K = roundToDigits prec (x.scaled K) := by
  obtain ⟨places, hexponent, hcoefficient⟩ := fix_spec hprec x.coefficient.natAbs x.exponent
  rw [Number.Within] at h
  have hplaces : (x.exponent + places + K).toNat = places + (x.exponent + K).toNat := by omega
  rw [Number.scaled, Number.scaled, roundToDigits_mul_pow hprec, Number.round]
  dsimp only
  rw [hexponent, hplaces, pow_add, ← mul_assoc, mul_assoc x.coefficient.sign, hcoefficient, roundToDigits]

theorem within_mul (hx : x.Within K) (hy : y.Within L) (hprec : 0 < prec) :
    (mul prec x y).Within (K + L) := by
  refine Within.round ?_ hprec
  rw [Number.Within] at hx hy ⊢
  push_cast
  omega

theorem scaled_mul (hx : x.Within K) (hy : y.Within L) (hprec : 0 < prec) :
    (mul prec x y).scaled (K + L) = roundToDigits prec (x.scaled K * y.scaled L) := by
  have hwithin : Number.Within (K + L) ⟨x.coefficient * y.coefficient, x.exponent + y.exponent⟩ := by
    rw [Number.Within] at hx hy ⊢
    push_cast
    omega
  rw [mul, scaled_round hwithin hprec]
  congr 1
  rw [Number.Within] at hx hy
  have hsplit : (x.exponent + y.exponent + ((K + L : Nat) : Int)).toNat =
      (x.exponent + K).toNat + (y.exponent + L).toNat := by
    push_cast
    omega
  rw [Number.scaled, Number.scaled, Number.scaled]
  dsimp only
  rw [hsplit, pow_add]
  ring

theorem within_add (hx : x.Within K) (hy : y.Within K) (hprec : 0 < prec) :
    (add prec x y).Within K := by
  refine Within.round ?_ hprec
  rw [Number.Within] at hx hy ⊢
  dsimp only
  omega

theorem scaled_add (hx : x.Within K) (hy : y.Within K) (hprec : 0 < prec) :
    (add prec x y).scaled K = roundToDigits prec (x.scaled K + y.scaled K) := by
  rw [Number.Within] at hx hy
  rw [add, scaled_round (by rw [Number.Within]; dsimp only; omega) hprec]
  congr 1
  have hleft : (x.exponent + K).toNat = (x.exponent - min x.exponent y.exponent).toNat +
      (min x.exponent y.exponent + K).toNat := by omega
  have hright : (y.exponent + K).toNat = (y.exponent - min x.exponent y.exponent).toNat +
      (min x.exponent y.exponent + K).toNat := by omega
  rw [Number.scaled, Number.scaled, Number.scaled, hleft, hright, pow_add, pow_add]
  dsimp only
  ring

/-- The hundredths of a nonnegative number are the hundredths of its scaled coefficient. -/
theorem centsHalfUp_of_scaled (h : x.Within (K + 2)) (hx : 0 ≤ x.coefficient) :
    centsHalfUp x = halfUp (x.scaled (K + 2)).toNat (10 ^ K) := by
  obtain ⟨c, hc⟩ := Int.eq_ofNat_of_zero_le hx
  rw [Number.Within] at h
  push_cast at h
  have hnat : (x.scaled (K + 2)).toNat = c * 10 ^ (x.exponent + (K + 2 : Nat)).toNat := by
    rw [Number.scaled, hc]
    norm_cast
  rw [hnat, centsHalfUp]
  split
  · rename_i hcents
    have hplaces : (x.exponent + (K + 2 : Nat)).toNat = (x.exponent + 2).toNat + K := by
      push_cast
      omega
    rw [hplaces, pow_add, ← Nat.mul_assoc, halfUp, Nat.mul_mod_left, Nat.mul_zero,
      if_pos (Nat.pow_pos (by decide)), Nat.mul_div_cancel _ (Nat.pow_pos (by decide)), hc]
    push_cast
    rfl
  · rename_i hcents
    have hplaces : K = (-2 - x.exponent).toNat + (x.exponent + (K + 2 : Nat)).toNat := by
      push_cast
      omega
    have hscale : (10 : Nat) ^ K = 10 ^ (-2 - x.exponent).toNat *
        10 ^ (x.exponent + (K + 2 : Nat)).toNat := by
      rw [← pow_add, ← hplaces]
    rw [hscale, halfUp_mul _ (Nat.pow_pos (by decide)), hc, Int.natAbs_natCast]
    rcases Nat.eq_zero_or_pos c with rfl | hpos
    · simp [halfUp]
    · rw [Int.sign_eq_one_of_pos (by omega), one_mul]

end Scaled

section HalfCent

theorem round_nonneg {x : Number} (h : 0 ≤ x.coefficient) (prec : Nat) :
    0 ≤ (x.round prec).coefficient := by
  unfold Number.round
  refine Int.mul_nonneg (Int.sign_nonneg_iff.mpr h) ?_
  unfold fix
  dsimp only
  split <;> exact Int.natCast_nonneg _

theorem halfUp_ne_zero {n scale : Nat} (hscale : 0 < scale) :
    halfUp n scale ≠ 0 ↔ scale ≤ 2 * n := by
  have hzero : n / scale = 0 ↔ n < scale := Nat.div_eq_zero_iff_lt hscale
  unfold halfUp
  split
  · rename_i hlow
    constructor
    · intro h
      have : ¬ n < scale := fun hlt => h (hzero.mpr hlt)
      omega
    · intro h hq
      have hlt := hzero.mp hq
      rw [Nat.mod_eq_of_lt hlt] at hlow
      omega
  · rename_i hhigh
    have hmod := Nat.mod_le n scale
    exact ⟨fun _ => by omega, fun _ => Nat.succ_ne_zero _⟩

/-- Rounding to cents leaves something exactly from half a cent on. -/
theorem centsHalfUp_ne_zero {x : Number} (h : 0 ≤ x.coefficient) :
    centsHalfUp x ≠ 0 ↔ Number.le ⟨5, -3⟩ x := by
  obtain ⟨c, e⟩ := x
  obtain ⟨n, rfl⟩ := Int.eq_ofNat_of_zero_le h
  unfold centsHalfUp Number.le
  dsimp only
  split
  · rename_i he
    have hmin : min (-3 : Int) e = -3 := by omega
    have hshift : (e - -3).toNat = (e + 2).toNat + 1 := by omega
    rw [hmin, hshift, pow_succ]
    have hpow : (0 : Int) < 10 ^ (e + 2).toNat := by positivity
    constructor
    · intro hne
      have hn : (0 : Int) < n := by
        rcases Nat.eq_zero_or_pos n with rfl | hpos
        · simp at hne
        · omega
      have : (1 : Int) ≤ n * 10 ^ (e + 2).toNat := Int.mul_pos hn hpow
      simp only [sub_self, Int.toNat_zero, pow_zero, mul_one]
      rw [← mul_assoc]
      omega
    · intro hle hzero
      rw [← mul_assoc, hzero] at hle
      simp at hle
  · rename_i he
    have hmin : min (-3 : Int) e = e := by omega
    have hscale : (-2 - e).toNat = (-3 - e).toNat + 1 := by omega
    rw [hmin, hscale, pow_succ]
    have hhalf : halfUp n (10 ^ (-3 - e).toNat * 10) ≠ 0 ↔ 10 ^ (-3 - e).toNat * 10 ≤ 2 * n :=
      halfUp_ne_zero (by positivity)
    simp only [sub_self, Int.toNat_zero, pow_zero, mul_one, Int.natAbs_natCast]
    have hcast : ((5 : Int) * 10 ^ (-3 - e).toNat ≤ n) ↔ 5 * 10 ^ (-3 - e).toNat ≤ n := by
      exact_mod_cast Iff.rfl
    rw [hcast]
    constructor
    · intro hne
      have : halfUp n (10 ^ (-3 - e).toNat * 10) ≠ 0 := by
        intro hzero
        rw [hzero] at hne
        simp at hne
      have := hhalf.mp this
      omega
    · intro hle hzero
      have hne := hhalf.mpr (by omega)
      have hn : 0 < n := by
        have : 0 < 10 ^ (-3 - e).toNat := by positivity
        omega
      rw [Int.sign_eq_one_of_pos (by exact_mod_cast hn), one_mul] at hzero
      exact hne (by exact_mod_cast hzero)

end HalfCent

end Caixinha.Library.Decimal
