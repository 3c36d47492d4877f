import Mathlib.Algebra.Order.BigOperators.Group.List
import Mathlib.Algebra.Order.Ring.Int
import Mathlib.Tactic.Ring
import Mathlib.Tactic.Linarith

/-! Decimal arithmetic with a bounded number of significant digits: rounding, quantizing to
hundredths, and division with a sticky digit. Integers stand for sums of hundredths. -/
namespace Caixinha.Library.Decimal

/-- The finite number `coefficient · 10 ^ exponent`. -/
structure Number where
  coefficient : Int
  exponent : Int
  deriving DecidableEq, Repr

def digitCount (n : Nat) : Nat := (Nat.toDigits 10 n).length

def halfEven (n scale : Nat) : Nat :=
  if 2 * (n % scale) < scale then n / scale
  else if scale < 2 * (n % scale) then n / scale + 1
  else if n / scale % 2 = 0 then n / scale else n / scale + 1

def halfUp (n scale : Nat) : Nat :=
  if 2 * (n % scale) < scale then n / scale else n / scale + 1

/-- The digits beyond `prec`, which rounding drops. -/
def excess (prec n : Nat) : Nat := digitCount n - prec

def roundNat (prec n : Nat) : Nat := halfEven n (10 ^ excess prec n) * 10 ^ excess prec n

/-- An integer result rounded half even to `prec` significant digits. -/
def roundToDigits (prec : Nat) (n : Int) : Int := n.sign * roundNat prec n.natAbs

/-- Sums round after every addition. -/
def sumToDigits (prec : Nat) (start : Int) (amounts : List Int) : Int :=
  amounts.foldl (fun acc a => roundToDigits prec (acc + a)) start

/-- The nearest number of hundredths, halves away from zero. -/
def centsHalfUp (x : Number) : Int :=
  if -2 ≤ x.exponent then x.coefficient * 10 ^ (x.exponent + 2).toNat
  else x.coefficient.sign * halfUp x.coefficient.natAbs (10 ^ (-2 - x.exponent).toNat)

/-- Quantizing an amount that already counts hundredths only checks its length. -/
def checkCents (prec : Nat) (cents : Int) : Option Int :=
  if cents.natAbs < 10 ^ prec then some cents else none

/-- `quantize(Decimal("0.01"), ROUND_HALF_UP)`; more than `prec` digits are an invalid
operation. -/
def quantizeCents (prec : Nat) (x : Number) : Option Int := checkCents prec (centsHalfUp x)

/-- Rounding of a nonnegative coefficient; a carry into a new digit moves the exponent. -/
def fix (prec coefficient : Nat) (exponent : Int) : Number :=
  let drop := excess prec coefficient
  let rounded := halfEven coefficient (10 ^ drop)
  if prec < digitCount rounded then ⟨(rounded / 10 : Nat), exponent + drop + 1⟩
  else ⟨rounded, exponent + drop⟩

/-- Drop trailing zeros of an exact quotient while its exponent stays below zero. -/
def stripZeros : Nat → Nat → Nat × Nat
  | 0, coefficient => (coefficient, 0)
  | places + 1, coefficient =>
    if coefficient % 10 = 0 then stripZeros places (coefficient / 10)
    else (coefficient, places + 1)

/-- The quotient of two nonnegative integers to `prec` significant digits. -/
def divide (prec n d : Nat) : Number :=
  if n = 0 then ⟨0, 0⟩
  else
    let shift : Int := (digitCount d : Int) - digitCount n + prec + 1
    let num := n * 10 ^ shift.toNat
    let den := d * 10 ^ (-shift).toNat
    if num % den = 0 then
      let (coefficient, places) := stripZeros shift.toNat (num / den)
      fix prec coefficient (if 0 ≤ shift then -(places : Int) else -shift)
    else
      -- a nonzero digit in the last place keeps the remainder visible to the rounding
      fix prec (if num / den % 5 = 0 then num / den + 1 else num / den) (-shift)

/-- A number rounded half even to `prec` significant digits. -/
def Number.round (prec : Nat) (x : Number) : Number :=
  let r := fix prec x.coefficient.natAbs x.exponent
  ⟨x.coefficient.sign * r.coefficient, r.exponent⟩

def mul (prec : Nat) (x y : Number) : Number :=
  Number.round prec ⟨x.coefficient * y.coefficient, x.exponent + y.exponent⟩

def add (prec : Nat) (x y : Number) : Number :=
  let e := min x.exponent y.exponent
  Number.round prec ⟨x.coefficient * 10 ^ (x.exponent - e).toNat +
    y.coefficient * 10 ^ (y.exponent - e).toNat, e⟩

/-- `to_integral_value(ROUND_DOWN)` of a nonnegative number. -/
def Number.floor (x : Number) : Nat :=
  if 0 ≤ x.exponent then x.coefficient.natAbs * 10 ^ x.exponent.toNat
  else x.coefficient.natAbs / 10 ^ (-x.exponent).toNat

/-- The order of the denoted numbers. -/
def Number.le (x y : Number) : Prop :=
  x.coefficient * 10 ^ (x.exponent - min x.exponent y.exponent).toNat ≤
    y.coefficient * 10 ^ (y.exponent - min x.exponent y.exponent).toNat

instance (x y : Number) : Decidable (x.le y) := inferInstanceAs (Decidable (_ ≤ _))

/-- Subtracting a nonnegative integer. -/
def Number.subNat (x : Number) (n : Nat) : Number :=
  if 0 ≤ x.exponent then ⟨x.coefficient * 10 ^ x.exponent.toNat - n, 0⟩
  else ⟨x.coefficient - n * 10 ^ (-x.exponent).toNat, x.exponent⟩

/-- Positional notation, as `format(x, "f")` writes it. -/
def fixedText (x : Number) : String :=
  let digits := Nat.toDigits 10 x.coefficient.natAbs
  let places := (-x.exponent).toNat
  let padded := List.replicate (places + 1 - digits.length) '0' ++ digits
  let body :=
    if 0 ≤ x.exponent then digits ++ List.replicate x.exponent.toNat '0'
    else padded.take (padded.length - places) ++ '.' :: padded.drop (padded.length - places)
  String.ofList (if x.coefficient < 0 then '-' :: body else body)

/-- The text of an amount with two places. -/
def centsText (cents : Int) : String := fixedText ⟨cents, -2⟩

theorem digitCount_le_iff {n k : Nat} (hk : 0 < k) : digitCount n ≤ k ↔ n < 10 ^ k :=
  Nat.length_toDigits_le_iff (by decide) hk

theorem digitCount_pos (n : Nat) : 0 < digitCount n := Nat.length_toDigits_pos

theorem lt_pow_digitCount (n : Nat) : n < 10 ^ digitCount n :=
  (digitCount_le_iff (digitCount_pos n)).mp le_rfl

theorem pow_le_of_digitCount {n : Nat} (hn : 0 < n) : 10 ^ (digitCount n - 1) ≤ n := by
  by_cases h : digitCount n = 1
  · simp only [h, Nat.sub_self, Nat.pow_zero]
    omega
  · by_contra hlt
    have := digitCount_pos n
    have := (digitCount_le_iff (n := n) (k := digitCount n - 1) (by omega)).mpr (by omega)
    omega

theorem excess_eq_zero {prec n : Nat} (hprec : 0 < prec) (h : n < 10 ^ prec) : excess prec n = 0 :=
  Nat.sub_eq_zero_of_le ((digitCount_le_iff hprec).mpr h)

theorem halfEven_one (n : Nat) : halfEven n 1 = n := by
  unfold halfEven
  split <;> omega

theorem halfEven_bounds (n : Nat) {scale : Nat} (hscale : 0 < scale) :
    n / scale ≤ halfEven n scale ∧ halfEven n scale ≤ n / scale + 1 ∧
      2 * (halfEven n scale * scale) ≤ 2 * n + scale := by
  have hdiv := Nat.div_add_mod n scale
  have hmod := Nat.mod_lt n hscale
  unfold halfEven
  have hcomm : n / scale * scale = scale * (n / scale) := Nat.mul_comm _ _
  have hsucc : (n / scale + 1) * scale = scale * (n / scale) + scale := by
    rw [Nat.add_mul, hcomm, Nat.one_mul]
  split_ifs <;> refine ⟨by omega, by omega, by omega⟩

theorem halfUp_le (n : Nat) {scale : Nat} (hscale : 0 < scale) :
    2 * (halfUp n scale * scale) ≤ 2 * n + scale := by
  have hdiv := Nat.div_add_mod n scale
  have hmod := Nat.mod_lt n hscale
  have hcomm : n / scale * scale = scale * (n / scale) := Nat.mul_comm _ _
  have hsucc : (n / scale + 1) * scale = scale * (n / scale) + scale := by
    rw [Nat.add_mul, hcomm, Nat.one_mul]
  unfold halfUp
  split <;> omega

theorem roundNat_of_lt {prec n : Nat} (hprec : 0 < prec) (h : n < 10 ^ prec) :
    roundNat prec n = n := by
  rw [roundNat, excess_eq_zero hprec h, Nat.pow_zero, halfEven_one, Nat.mul_one]

theorem pow_le_roundNat {prec n : Nat} (hprec : 0 < prec) (h : 10 ^ prec ≤ n) :
    10 ^ prec ≤ roundNat prec n := by
  have hn : 0 < n := lt_of_lt_of_le (Nat.pow_pos (by decide)) h
  have hcount : prec < digitCount n := by
    by_contra hle
    have := (digitCount_le_iff (n := n) hprec).mp (by omega)
    omega
  obtain ⟨k, hk⟩ : ∃ k, digitCount n = prec + 1 + k := ⟨digitCount n - prec - 1, by omega⟩
  have hexcess : excess prec n = k + 1 := by
    rw [excess, hk]
    omega
  have hlow := pow_le_of_digitCount hn
  rw [hk, show prec + 1 + k - 1 = (prec - 1) + (k + 1) by omega, Nat.pow_add] at hlow
  have hq : 10 ^ (prec - 1) ≤ n / 10 ^ (k + 1) :=
    (Nat.le_div_iff_mul_le (Nat.pow_pos (by decide))).mpr hlow
  have hround := (halfEven_bounds n (show 0 < 10 ^ (k + 1) from Nat.pow_pos (by decide))).1
  rw [roundNat, hexcess]
  calc 10 ^ prec = 10 ^ (prec - 1) * 10 ^ 1 := by rw [← Nat.pow_add, Nat.sub_add_cancel hprec]
    _ ≤ 10 ^ (prec - 1) * 10 ^ (k + 1) :=
      Nat.mul_le_mul_left _ (Nat.pow_le_pow_right (by decide) (by omega))
    _ ≤ _ := Nat.mul_le_mul_right _ (hq.trans hround)

theorem roundNat_le {prec n : Nat} (hprec : 0 < prec) : roundNat prec n ≤ 2 * n := by
  by_cases h : n < 10 ^ prec
  · rw [roundNat_of_lt hprec h]
    omega
  · have hn : 0 < n := lt_of_lt_of_le (Nat.pow_pos (by decide)) (not_lt.mp h)
    have hscale : 10 ^ excess prec n ≤ n :=
      (Nat.pow_le_pow_right (by decide) (by rw [excess]; omega)).trans (pow_le_of_digitCount hn)
    have hround := (halfEven_bounds n
      (show 0 < 10 ^ excess prec n from Nat.pow_pos (by decide))).2.2
    rw [roundNat]
    omega

theorem roundToDigits_of_lt {prec : Nat} {n : Int} (hprec : 0 < prec) (h : n.natAbs < 10 ^ prec) :
    roundToDigits prec n = n := by
  rw [roundToDigits, roundNat_of_lt hprec h]
  exact Int.sign_mul_natAbs n

theorem roundToDigits_nonneg {prec : Nat} {n : Int} (h : 0 ≤ n) : 0 ≤ roundToDigits prec n :=
  mul_nonneg (Int.sign_nonneg_iff.mpr h) (Int.natCast_nonneg _)

theorem roundToDigits_nonpos {prec : Nat} {n : Int} (h : n ≤ 0) : roundToDigits prec n ≤ 0 :=
  mul_nonpos_of_nonpos_of_nonneg (Int.sign_nonpos_iff.mpr h) (Int.natCast_nonneg _)

/-- Rounding never brings an overlong result back within the precision. -/
theorem roundToDigits_eq_of_lt {prec : Nat} {n : Int} (hprec : 0 < prec)
    (h : (roundToDigits prec n).natAbs < 10 ^ prec) : roundToDigits prec n = n := by
  by_cases hn : n.natAbs < 10 ^ prec
  · exact roundToDigits_of_lt hprec hn
  · have hbig := pow_le_roundNat hprec (not_lt.mp hn)
    have hne : n ≠ 0 := by
      rintro rfl
      exact hn (Nat.pow_pos (by decide))
    rw [roundToDigits, Int.natAbs_mul, Int.natAbs_sign_of_ne_zero hne, Nat.one_mul,
      Int.natAbs_natCast] at h
    omega

theorem roundToDigits_le {prec : Nat} {n : Int} (hprec : 0 < prec) (h : 0 ≤ n) :
    roundToDigits prec n ≤ 2 * n := by
  have hle := roundNat_le (n := n.natAbs) hprec
  rcases h.eq_or_lt with rfl | hpos
  · simp [roundToDigits]
  · rw [roundToDigits, Int.sign_eq_one_of_pos hpos, one_mul]
    omega

theorem checkCents_eq_some {prec : Nat} {cents r : Int} :
    checkCents prec cents = some r ↔ cents.natAbs < 10 ^ prec ∧ cents = r := by
  unfold checkCents
  split <;> simp [*]

theorem natAbs_lt_pow {prec : Nat} {n : Int} (h : 0 ≤ n) :
    n.natAbs < 10 ^ prec ↔ n < 10 ^ prec := by
  rw [← Int.ofNat_lt, Int.natAbs_of_nonneg h]
  norm_num

theorem pow_le_roundToDigits {prec : Nat} {n : Int} (hprec : 0 < prec) (h : 10 ^ prec ≤ n) :
    10 ^ prec ≤ roundToDigits prec n := by
  have hpos : (0 : Int) < 10 ^ prec := pow_pos (by decide) _
  have hbig := pow_le_roundNat (n := n.natAbs) hprec
    (not_lt.mp fun hlt => not_lt.mpr h ((natAbs_lt_pow (by omega)).mp hlt))
  rw [roundToDigits, Int.sign_eq_one_of_pos (by omega), one_mul]
  exact_mod_cast hbig

private theorem pow_le_sumToDigits {prec : Nat} (hprec : 0 < prec) (amounts : List Int) {start : Int}
    (hnonneg : ∀ a ∈ amounts, 0 ≤ a) (hstart : 10 ^ prec ≤ start) :
    10 ^ prec ≤ sumToDigits prec start amounts := by
  induction amounts generalizing start with
  | nil => exact hstart
  | cons a amounts ih =>
    have ha := hnonneg a (List.mem_cons_self ..)
    exact ih (fun b hb => hnonneg b (List.mem_cons_of_mem _ hb))
      (pow_le_roundToDigits hprec (by omega))

/-- A sum of nonnegative amounts that ends within the precision lost nothing on the way. -/
theorem sumToDigits_eq {prec : Nat} (hprec : 0 < prec) (amounts : List Int) {start : Int}
    (hnonneg : ∀ a ∈ amounts, 0 ≤ a) (hstart : 0 ≤ start)
    (h : sumToDigits prec start amounts < 10 ^ prec) :
    sumToDigits prec start amounts = start + amounts.sum := by
  induction amounts generalizing start with
  | nil => simp [sumToDigits]
  | cons a amounts ih =>
    have ha := hnonneg a (List.mem_cons_self ..)
    have hrest : ∀ b ∈ amounts, 0 ≤ b := fun b hb => hnonneg b (List.mem_cons_of_mem _ hb)
    change sumToDigits prec (roundToDigits prec (start + a)) amounts < _ at h
    change sumToDigits prec (roundToDigits prec (start + a)) amounts = _
    by_cases hlt : start + a < 10 ^ prec
    · rw [roundToDigits_of_lt hprec ((natAbs_lt_pow (by omega)).mpr hlt)] at h ⊢
      rw [ih hrest (by omega) h, List.sum_cons]
      omega
    · have hround := pow_le_roundToDigits hprec (not_lt.mp hlt)
      exact absurd (pow_le_sumToDigits hprec amounts hrest hround) (not_le.mpr h)

/-- A sum of nonnegative amounts whose total fits never rounds. -/
theorem sumToDigits_of_sum_lt {prec : Nat} (hprec : 0 < prec) (amounts : List Int) {start : Int}
    (hnonneg : ∀ a ∈ amounts, 0 ≤ a) (hstart : 0 ≤ start)
    (h : start + amounts.sum < 10 ^ prec) : sumToDigits prec start amounts = start + amounts.sum := by
  induction amounts generalizing start with
  | nil => simp [sumToDigits]
  | cons a amounts ih =>
    have ha := hnonneg a (List.mem_cons_self ..)
    have hrest : ∀ b ∈ amounts, 0 ≤ b := fun b hb => hnonneg b (List.mem_cons_of_mem _ hb)
    have hsum := List.sum_nonneg hrest
    rw [List.sum_cons] at h ⊢
    change sumToDigits prec (roundToDigits prec (start + a)) amounts = _
    rw [roundToDigits_of_lt hprec ((natAbs_lt_pow (by omega)).mpr (by omega)),
      ih hrest (by omega) (by omega)]
    omega

theorem sumToDigits_nonneg {prec : Nat} (amounts : List Int) {start : Int}
    (hnonneg : ∀ a ∈ amounts, 0 ≤ a) (hstart : 0 ≤ start) :
    0 ≤ sumToDigits prec start amounts := by
  induction amounts generalizing start with
  | nil => exact hstart
  | cons a amounts ih =>
    have ha := hnonneg a (List.mem_cons_self ..)
    exact ih (fun b hb => hnonneg b (List.mem_cons_of_mem _ hb))
      (roundToDigits_nonneg (by omega))

private theorem floor_mk_neg (c k : Nat) : (Number.floor ⟨c, -(k : Int)⟩) = c / 10 ^ k := by
  rw [Number.floor]
  rcases Nat.eq_zero_or_pos k with rfl | hk
  · simp
  · rw [if_neg (by simp only [not_le]; omega)]
    simp

/-- Rounding does not cross an integer that is more than one rounding unit away. -/
private theorem floor_fix {prec c places q : Nat} (hprec : 0 < prec)
    (hlow : q * 10 ^ places ≤ c) (hhigh : c + 10 ^ excess prec c ≤ (q + 1) * 10 ^ places)
    (hplaces : excess prec c ≤ places) : (fix prec c (-(places : Int))).floor = q := by
  obtain ⟨k, rfl⟩ : ∃ k, places = excess prec c + k := ⟨places - excess prec c, by omega⟩
  have hscale : 0 < 10 ^ excess prec c := Nat.pow_pos (by decide)
  obtain ⟨hge, -, hround⟩ := halfEven_bounds c hscale
  rw [Nat.pow_add, Nat.mul_comm (10 ^ excess prec c), ← Nat.mul_assoc] at hlow hhigh
  have hrounded_low : q * 10 ^ k ≤ halfEven c (10 ^ excess prec c) :=
    ((Nat.le_div_iff_mul_le hscale).mpr hlow).trans hge
  have hrounded_high : halfEven c (10 ^ excess prec c) < (q + 1) * 10 ^ k := by
    apply Nat.lt_of_mul_lt_mul_right (a := 10 ^ excess prec c)
    omega
  have hfloor : halfEven c (10 ^ excess prec c) / 10 ^ k = q :=
    Nat.div_eq_of_lt_le hrounded_low hrounded_high
  unfold fix
  simp only []
  split
  · -- the carry: the rounded coefficient is a power of ten
    rename_i hcarry
    have hcount : c / 10 ^ excess prec c < 10 ^ prec := by
      rw [Nat.div_lt_iff_lt_mul hscale, ← Nat.pow_add]
      refine lt_of_lt_of_le (lt_pow_digitCount c) (Nat.pow_le_pow_right (by decide) ?_)
      rw [excess]
      omega
    have hten : halfEven c (10 ^ excess prec c) = 10 ^ prec := by
      have hbound := (halfEven_bounds c hscale).2.1
      have hge := (digitCount_le_iff (n := halfEven c (10 ^ excess prec c)) hprec).not.mp
        (not_le.mpr hcarry)
      omega
    obtain ⟨m, rfl⟩ : ∃ m, prec = m + 1 := ⟨prec - 1, by omega⟩
    rw [hten] at hfloor ⊢
    rw [Nat.pow_succ, Nat.mul_div_cancel _ (by decide)]
    rcases k with _ | k
    · rw [Number.floor, if_pos (by push_cast; omega)]
      rw [Nat.pow_zero, Nat.div_one, Nat.pow_succ] at hfloor
      rw [← hfloor]
      simp
    · rw [show -((excess (m + 1) c + (k + 1) : Nat) : Int) + excess (m + 1) c + 1 = -(k : Int) by
        push_cast; ring, floor_mk_neg, ← hfloor, Nat.pow_succ, Nat.pow_succ,
        Nat.mul_comm (10 ^ k), ← Nat.div_div_eq_div_mul, Nat.mul_div_cancel _ (by decide)]
  · rw [show -((excess prec c + k : Nat) : Int) + excess prec c = -(k : Int) by push_cast; ring,
      floor_mk_neg, hfloor]

theorem stripZeros_spec (places coefficient : Nat) :
    (stripZeros places coefficient).2 ≤ places ∧
      (stripZeros places coefficient).1 * 10 ^ (places - (stripZeros places coefficient).2) =
        coefficient := by
  induction places generalizing coefficient with
  | zero => simp [stripZeros]
  | succ places ih =>
    unfold stripZeros
    split
    · rename_i hzero
      obtain ⟨hle, hvalue⟩ := ih (coefficient / 10)
      refine ⟨by omega, ?_⟩
      rw [Nat.succ_sub hle, Nat.pow_succ, ← Nat.mul_assoc, hvalue]
      omega
    · simp

section Quotient
variable {prec n d : Nat}

/-- The scaled quotient `divide` works on, far enough from the next integer. -/
private theorem scaled_quotient (hprec : 4 < prec) (hd : 0 < d)
    (hbound : n < 10 ^ (prec - 4)) :
    ∃ s : Nat, (digitCount d : Int) - digitCount n + prec + 1 = (s : Int) ∧ 6 ≤ s ∧
      n / d * 10 ^ s ≤ n * 10 ^ s / d ∧
      n * 10 ^ s / d + 10 ^ 5 < (n / d + 1) * 10 ^ s ∧
      n * 10 ^ s / d < 10 ^ (prec + 2) := by
  have hcount : digitCount n ≤ prec - 4 := (digitCount_le_iff (by omega)).mpr hbound
  have hdpos := digitCount_pos d
  refine ⟨digitCount d + (prec + 1 - digitCount n), by push_cast; omega, by omega, ?_, ?_, ?_⟩
  · rw [Nat.le_div_iff_mul_le hd, Nat.mul_right_comm]
    exact Nat.mul_le_mul_right _ (Nat.div_mul_le_self n d)
  · set s := digitCount d + (prec + 1 - digitCount n) with hs
    have hwide : d * 10 ^ 5 < 10 ^ s := by
      calc d * 10 ^ 5 < 10 ^ digitCount d * 10 ^ 5 :=
            Nat.mul_lt_mul_of_pos_right (lt_pow_digitCount d) (by decide)
        _ = 10 ^ (digitCount d + 5) := (Nat.pow_add ..).symm
        _ ≤ 10 ^ s := Nat.pow_le_pow_right (by decide) (by omega)
    have hnext : n + 1 ≤ (n / d + 1) * d := by
      have := Nat.lt_mul_div_succ n hd
      rw [Nat.mul_comm]
      omega
    have hscaled := Nat.mul_le_mul_right (10 ^ s) hnext
    have hquot := Nat.div_mul_le_self (n * 10 ^ s) d
    apply Nat.lt_of_mul_lt_mul_right (a := d)
    calc (n * 10 ^ s / d + 10 ^ 5) * d = n * 10 ^ s / d * d + d * 10 ^ 5 := by ring
      _ < n * 10 ^ s + 10 ^ s := by omega
      _ = (n + 1) * 10 ^ s := by ring
      _ ≤ (n / d + 1) * d * 10 ^ s := hscaled
      _ = (n / d + 1) * 10 ^ s * d := by ring
  · rw [Nat.div_lt_iff_lt_mul hd]
    calc n * 10 ^ (digitCount d + (prec + 1 - digitCount n))
        < 10 ^ digitCount n * 10 ^ (digitCount d + (prec + 1 - digitCount n)) :=
          Nat.mul_lt_mul_of_pos_right (lt_pow_digitCount n) (Nat.pow_pos (by decide))
      _ = 10 ^ (prec + 2) * 10 ^ (digitCount d - 1) := by
          rw [← Nat.pow_add, ← Nat.pow_add]
          congr 1
          omega
      _ ≤ 10 ^ (prec + 2) * d := Nat.mul_le_mul_left _ (pow_le_of_digitCount hd)

private theorem excess_le_of_lt {c k : Nat} (hprec : 0 < prec) (h : c < 10 ^ (prec + k)) :
    excess prec c ≤ k := by
  have := (digitCount_le_iff (n := c) (k := prec + k) (by omega)).mpr h
  rw [excess]
  omega

/-- With four digits to spare the rounded quotient has the floor of the exact one. -/
theorem floor_divide (hprec : 4 < prec) (hd : 0 < d) (hbound : n < 10 ^ (prec - 4)) :
    (divide prec n d).floor = n / d := by
  rcases Nat.eq_zero_or_pos n with rfl | hn
  · simp [divide, Number.floor]
  obtain ⟨s, hs, hsix, hlow, hhigh, hsize⟩ := scaled_quotient hprec hd hbound
  rw [divide, if_neg (by omega), hs]
  have hneg : (-(s : Int)).toNat = 0 := by omega
  simp only [Int.toNat_natCast, hneg, Nat.pow_zero, Nat.mul_one]
  split
  · -- the exact quotient: only zeros were dropped
    obtain ⟨hle, hvalue⟩ := stripZeros_spec s (n * 10 ^ s / d)
    generalize stripZeros s (n * 10 ^ s / d) = strip at hle hvalue
    obtain ⟨c, places⟩ := strip
    simp only [] at hle hvalue ⊢
    rw [if_pos (by omega)]
    obtain ⟨j, rfl⟩ : ∃ j, s = places + j := ⟨s - places, by omega⟩
    rw [Nat.add_sub_cancel_left] at hvalue
    have hten : 0 < 10 ^ j := Nat.pow_pos (by decide)
    have hexcess : excess prec c = 0 ∨ excess prec c + j ≤ 2 := by
      by_contra hcon
      rw [not_or] at hcon
      have hcpos : 0 < c := by
        rcases Nat.eq_zero_or_pos c with rfl | hc
        · exact absurd (excess_eq_zero (by omega) (Nat.pow_pos (by decide))) hcon.1
        · exact hc
      have hcount : digitCount c = prec + excess prec c := by
        rw [excess] at hcon ⊢
        omega
      have hge := pow_le_of_digitCount hcpos
      rw [hcount] at hge
      have hq := Nat.mul_le_mul_right (10 ^ j) hge
      rw [hvalue, ← Nat.pow_add] at hq
      have := Nat.pow_le_pow_right (n := 10) (by decide)
        (show prec + 2 ≤ prec + excess prec c - 1 + j by omega)
      omega
    rw [← hvalue, Nat.pow_add] at hlow hhigh
    apply floor_fix (by omega)
    · apply Nat.le_of_mul_le_mul_right _ hten
      rw [Nat.mul_assoc]
      exact hlow
    · apply Nat.le_of_mul_le_mul_right _ hten
      rw [Nat.add_mul, Nat.mul_assoc, ← Nat.pow_add]
      have hsmall : 10 ^ (excess prec c + j) ≤ 10 ^ 5 ∨ excess prec c = 0 := by
        rcases hexcess with h | h
        · exact .inr h
        · exact .inl (Nat.pow_le_pow_right (by decide) (by omega))
      rcases hsmall with h | h
      · omega
      · -- nothing is rounded away, so one unit of the last place suffices
        rw [h, Nat.zero_add, ← Nat.add_one_mul, ← Nat.mul_assoc]
        refine Nat.mul_le_mul_right _ ?_
        have : c * 10 ^ j < (n / d + 1) * 10 ^ places * 10 ^ j := by
          rw [Nat.mul_assoc]
          omega
        exact Nat.lt_of_mul_lt_mul_right this
    · rcases hexcess with h | h <;> omega
  · have hc : ∀ c, c = n * 10 ^ s / d ∨ c = n * 10 ^ s / d + 1 →
        (fix prec c (-(s : Int))).floor = n / d := by
      intro c hc
      have hexcess : excess prec c ≤ 3 := by
        apply excess_le_of_lt (by omega)
        rw [show prec + 3 = (prec + 2) + 1 by omega, Nat.pow_succ]
        omega
      have hpow : 10 ^ excess prec c ≤ 10 ^ 3 := Nat.pow_le_pow_right (by decide) hexcess
      exact floor_fix (by omega) (by omega) (by omega) (by omega)
    split
    · exact hc _ (.inr rfl)
    · exact hc _ (.inl rfl)

end Quotient

private theorem isDigit_padded {k n : Nat} :
    ∀ c ∈ List.replicate k '0' ++ Nat.toDigits 10 n, c.isDigit = true := by
  intro c hc
  rcases List.mem_append.mp hc with hc | hc
  · rw [List.eq_of_mem_replicate hc]
    rfl
  · exact Nat.isDigit_of_mem_toDigits (by decide) (by decide) hc

/-- The characters of an amount without its sign: digits, with a point before the last two. -/
private theorem centsText_shape (cents : Int) : ∃ whole places, whole ≠ [] ∧
    (∀ c ∈ whole ++ places, c.isDigit = true) ∧
    Nat.ofDigitChars 10 (whole ++ places) 0 = cents.natAbs ∧
    centsText cents =
      String.ofList ((if cents < 0 then ['-'] else []) ++ (whole ++ '.' :: places)) := by
  have hlen : 0 < (Nat.toDigits 10 cents.natAbs).length := Nat.length_toDigits_pos
  generalize hpadded : List.replicate (3 - (Nat.toDigits 10 cents.natAbs).length) '0' ++
    Nat.toDigits 10 cents.natAbs = padded
  have hlength : 3 ≤ padded.length := by
    rw [← hpadded, List.length_append, List.length_replicate]
    omega
  refine ⟨padded.take (padded.length - 2), padded.drop (padded.length - 2), ?_, ?_, ?_, ?_⟩
  · intro hnil
    have hzero := congrArg List.length hnil
    rw [List.length_take, List.length_nil] at hzero
    omega
  · rw [List.take_append_drop, ← hpadded]
    exact isDigit_padded
  · rw [List.take_append_drop, ← hpadded]
    simp [Nat.ofDigitChars_append]
  · unfold centsText fixedText
    simp only [show ¬ (0 : Int) ≤ -2 by decide, if_false]
    simp only [show (-(-2) : Int).toNat = 2 from rfl, Nat.reduceAdd, hpadded]
    split <;> rfl

/-- The text of an amount determines it. -/
theorem centsText_injective : Function.Injective centsText := by
  intro a b h
  obtain ⟨wa, pa, hwa, hda, hva, hta⟩ := centsText_shape a
  obtain ⟨wb, pb, hwb, hdb, hvb, htb⟩ := centsText_shape b
  rw [hta, htb] at h
  have hchars := String.ofList_injective h
  have hdigits := congrArg (List.filter Char.isDigit) hchars
  have hfilter : ∀ (s : List Char) (whole places : List Char), (∀ c ∈ whole ++ places, c.isDigit = true) →
      (∀ c ∈ s, c.isDigit = false) → (s ++ (whole ++ '.' :: places)).filter Char.isDigit = whole ++ places := by
    intro s whole places hall hs
    have hsign : s.filter Char.isDigit = [] := by simpa [List.filter_eq_nil_iff] using hs
    have hpoint : ('.' :: places).filter Char.isDigit = places := by
      rw [List.filter_cons_of_neg (by decide)]
      exact List.filter_eq_self.mpr fun c hc => hall c (List.mem_append_right _ hc)
    rw [List.filter_append, List.filter_append, hsign, hpoint, List.nil_append,
      List.filter_eq_self.mpr fun c hc => hall c (List.mem_append_left _ hc)]
  have hsigns : ∀ n : Int, ∀ c ∈ (if n < 0 then ['-'] else []), Char.isDigit c = false := by
    intro n c hc
    split at hc
    · rw [List.mem_singleton] at hc
      rw [hc]
      rfl
    · cases hc
  rw [hfilter _ _ _ hda (hsigns a), hfilter _ _ _ hdb (hsigns b)] at hdigits
  have hsize : a.natAbs = b.natAbs := by rw [← hva, hdigits, hvb]
  have hheads : (a < 0) ↔ (b < 0) := by
    have hhead : ∀ whole places : List Char, whole ≠ [] → (∀ c ∈ whole ++ places, c.isDigit = true) →
        (whole ++ '.' :: places).head? ≠ some '-' := by
      intro whole places hne hall
      cases whole with
      | nil => exact absurd rfl hne
      | cons c rest =>
        intro hc
        have hdigit := hall c (by simp)
        simp only [List.cons_append, List.head?_cons, Option.some.injEq] at hc
        rw [hc] at hdigit
        cases hdigit
    have hha := hhead wa pa hwa hda
    have hhb := hhead wb pb hwb hdb
    constructor
    · intro ha
      by_contra hb
      rw [if_pos ha, if_neg hb, List.nil_append] at hchars
      rw [← hchars] at hhb
      exact hhb rfl
    · intro hb
      by_contra ha
      rw [if_neg ha, if_pos hb, List.nil_append] at hchars
      rw [hchars] at hha
      exact hha rfl
  omega

end Caixinha.Library.Decimal
