import Mathlib.Algebra.Group.Nat.Defs
import Mathlib.Order.Monotone.Basic
import Mathlib.Tactic.Common

/-! Civil dates of the Gregorian calendar from day numbers, and their ISO texts, which determine
them. -/
namespace Caixinha.Library.Calendar

structure CivilDate where
  year : Int
  month : Nat
  day : Nat
  deriving DecidableEq, Repr

/-- The day number of a civil date; 1970-01-01 is day 0. Years start in March here. -/
def dayOfCivil (c : CivilDate) : Int :=
  let y : Int := if c.month ≤ 2 then c.year - 1 else c.year
  let m : Int := if c.month ≤ 2 then c.month + 9 else c.month - 3
  365 * y + y / 4 - y / 100 + y / 400 + (153 * m + 2) / 5 + c.day - 1 - 719468

def civilOfDay (n : Int) : CivilDate :=
  let z := n + 719468
  let era := z / 146097
  let doe := z - era * 146097
  let yoe := (doe - doe / 1460 + doe / 36524 - doe / 146096) / 365
  let doy := doe - (365 * yoe + yoe / 4 - yoe / 100)
  let mp := (5 * doy + 2) / 153
  let month := if mp < 10 then mp + 3 else mp - 9
  { year := yoe + era * 400 + if month ≤ 2 then 1 else 0
    month := month.toNat
    day := (doy - (153 * mp + 2) / 5 + 1).toNat }

/-- The first day of the month a day falls in. -/
def monthStart (n : Int) : Int := n - ((civilOfDay n).day - 1)

def isLeap (year : Int) : Bool := year % 4 = 0 ∧ (year % 100 ≠ 0 ∨ year % 400 = 0)

/-- `monthrange(year, month)[1]` -/
def monthLength (year : Int) (month : Nat) : Nat :=
  if month = 2 then if isLeap year then 29 else 28
  else if month ∈ [4, 6, 9, 11] then 30 else 31

/-- The same day `months` later, or the last one of a shorter month. -/
def addMonths (n : Int) (months : Nat) : Int :=
  let c := civilOfDay n
  let monthIndex := c.month - 1 + months
  let year := c.year + (monthIndex / 12 : Nat)
  let month := monthIndex % 12 + 1
  dayOfCivil { year, month, day := min c.day (monthLength year month) }

example : addMonths 20484 1 = 20512 := by decide +kernel

/-- Decimal digits padded with zeros to a width. -/
def pad (width n : Nat) : List Char :=
  List.replicate (width - (Nat.toDigits 10 n).length) '0' ++ Nat.toDigits 10 n

def dateChars (n : Int) : List Char :=
  let c := civilOfDay n
  pad 4 c.year.toNat ++ '-' :: pad 2 c.month ++ '-' :: pad 2 c.day

/-- `date.isoformat` -/
def isoDate (n : Int) : String := String.ofList (dateChars n)

/-- The wall-clock part of `datetime.isoformat`, from microseconds since the epoch; the
fraction is written only when it is not zero. -/
def wallChars (micros : Int) : List Char :=
  let day := micros / 86400000000
  let rest := (micros % 86400000000).toNat
  let seconds := rest / 1000000
  let fraction := rest % 1000000
  dateChars day ++ 'T' :: pad 2 (seconds / 3600) ++ ':' :: pad 2 (seconds / 60 % 60) ++
    ':' :: pad 2 (seconds % 60) ++ (if fraction = 0 then [] else '.' :: pad 6 fraction)

def isoUtc (instant : Int) : String :=
  String.ofList (wallChars instant ++ ['+', '0', '0', ':', '0', '0'])

def isoZulu (instant : Int) : String := String.ofList (wallChars instant ++ ['Z'])

/-- The text in a zone three hours behind UTC. -/
def isoBelem (instant : Int) : String :=
  String.ofList (wallChars (instant - 10800000000) ++ ['-', '0', '3', ':', '0', '0'])

example : isoBelem 1767225600000000 = "2025-12-31T21:00:00-03:00" := by decide +kernel

/-- The day of its era on which a year begins, in March. -/
private def yearStart (year : Nat) : Nat := 365 * year + year / 4 - year / 100

/-- The year a day of an era falls in. -/
private def yearOfEra (day : Nat) : Nat := (day - day / 1460 + day / 36524 - day / 146096) / 365

private theorem yearOfEra_mono : Monotone yearOfEra := by
  refine monotone_nat_of_le_succ fun day => ?_
  unfold yearOfEra
  refine Nat.div_le_div_right ?_
  omega

private theorem yearOfEra_bounds : ∀ year < 400, yearOfEra (yearStart year) = year ∧
    (0 < year → yearOfEra (yearStart year - 1) = year - 1) ∧
    yearStart (year + 1) ≤ yearStart year + 366 := by decide +kernel

private theorem yearOfEra_lt {day : Nat} (h : day ≤ 146096) : yearOfEra day < 400 := by
  unfold yearOfEra
  omega

/-- Each day falls in the year that `yearOfEra` tells. -/
private theorem yearStart_le {day : Nat} (h : day ≤ 146096) :
    yearStart (yearOfEra day) ≤ day ∧ day ≤ yearStart (yearOfEra day) + 365 := by
  have hlt := yearOfEra_lt h
  obtain ⟨-, hbefore, hlong⟩ := yearOfEra_bounds _ hlt
  constructor
  · by_contra hlate
    have hmono : yearOfEra day ≤ yearOfEra (yearStart (yearOfEra day) - 1) :=
      yearOfEra_mono (by omega)
    rcases Nat.eq_zero_or_pos (yearOfEra day) with hzero | hpos
    · rw [hzero] at hlate
      exact hlate (Nat.zero_le _)
    · rw [hbefore hpos] at hmono
      omega
  · by_contra hlate
    by_cases hlast : yearOfEra day = 399
    · rw [hlast] at hlate
      have hend : yearStart 399 + 365 = 146096 := by decide
      omega
    · obtain ⟨hstart, -⟩ := yearOfEra_bounds (yearOfEra day + 1) (by omega)
      have hmono : yearOfEra (yearStart (yearOfEra day + 1)) ≤ yearOfEra day :=
        yearOfEra_mono (by omega)
      omega

/-- The civil date of a day has a month and a day of the month, and leads back to the day. -/
theorem civilOfDay_spec (n : Int) : 1 ≤ (civilOfDay n).month ∧ (civilOfDay n).month ≤ 12 ∧
    1 ≤ (civilOfDay n).day ∧ (civilOfDay n).day ≤ 31 ∧ dayOfCivil (civilOfDay n) = n := by
  obtain ⟨day, hday⟩ :=
    Int.eq_ofNat_of_zero_le (Int.emod_nonneg (n + 719468) (by decide : (146097 : Int) ≠ 0))
  have hlt : day ≤ 146096 := by omega
  obtain ⟨hfirst, hlast⟩ := yearStart_le hlt
  have hyear := yearOfEra_lt hlt
  have hcast : ((day : Int) - day / 1460 + day / 36524 - day / 146096) / 365 = yearOfEra day := by
    unfold yearOfEra
    omega
  have hdoe : n + 719468 - (n + 719468) / 146097 * 146097 = day := by omega
  unfold yearStart at hfirst hlast
  simp only [civilOfDay, hdoe, hcast, dayOfCivil]
  generalize yearOfEra day = year at *
  generalize hdoy : (day : Int) - (365 * year + year / 4 - year / 100) = doy
  have hdoy_bounds : 0 ≤ doy ∧ doy ≤ 365 := by omega
  generalize hmp : (5 * doy + 2) / 153 = mp
  have hmp_bounds : 0 ≤ mp ∧ mp ≤ 11 := by omega
  have hday_bounds : 0 ≤ doy - (153 * mp + 2) / 5 ∧ doy - (153 * mp + 2) / 5 ≤ 30 := by omega
  generalize hera : (n + 719468) / 146097 = era at *
  have hfour : ((year : Int) + era * 400) / 4 = year / 4 + era * 100 := by omega
  have hhundred : ((year : Int) + era * 400) / 100 = year / 100 + era * 4 := by omega
  have hera : ((year : Int) + era * 400) / 400 = era := by omega
  by_cases hmonth : mp < 10
  · have hlate : ¬ (mp + 3).toNat ≤ 2 := by omega
    have hback : ((mp + 3).toNat : Int) - 3 = mp := by omega
    rw [if_pos hmonth, if_neg hlate, if_neg hlate, if_neg (by omega), Int.add_zero, hfour, hhundred,
      hera, hback]
    omega
  · have hearly : (mp - 9).toNat ≤ 2 := by omega
    have hback : ((mp - 9).toNat : Int) + 9 = mp := by omega
    rw [if_neg hmonth, if_pos hearly, if_pos hearly, if_pos (by omega), Int.add_sub_cancel, hfour,
      hhundred, hera, hback]
    omega

/-- The month a day falls in, told from the years from March. -/
private theorem months_eq (n : Int) : ∃ (era : Int) (day : Nat), n + 719468 = 146097 * era + day ∧ day ≤ 146096 ∧
    (civilOfDay n).year * 12 + (civilOfDay n).month = (yearOfEra day + 400 * era) * 12 +
      ((5 * (day - yearStart (yearOfEra day)) + 2) / 153 : Nat) + 3 := by
  obtain ⟨day, hday⟩ :=
    Int.eq_ofNat_of_zero_le (Int.emod_nonneg (n + 719468) (by decide : (146097 : Int) ≠ 0))
  have hlt : day ≤ 146096 := by omega
  obtain ⟨hfirst, hlast⟩ := yearStart_le hlt
  refine ⟨(n + 719468) / 146097, day, by omega, hlt, ?_⟩
  have hcast : ((day : Int) - day / 1460 + day / 36524 - day / 146096) / 365 = yearOfEra day := by
    unfold yearOfEra
    omega
  have hdoe : n + 719468 - (n + 719468) / 146097 * 146097 = day := by omega
  unfold yearStart at hfirst hlast ⊢
  simp only [civilOfDay, hdoe, hcast]
  generalize yearOfEra day = year at *
  generalize hdoy : day - (365 * year + year / 4 - year / 100) = doy
  have hcastDoy : (day : Int) - (365 * year + (year : Int) / 4 - (year : Int) / 100) = doy := by omega
  have hmp : (5 * (doy : Int) + 2) / 153 = ((5 * doy + 2) / 153 : Nat) := by omega
  rw [hcastDoy, hmp]
  generalize hm : (5 * doy + 2) / 153 = m
  by_cases hmonth : m < 10
  · rw [if_pos (show (m : Int) < 10 by omega), if_neg (by omega)]
    omega
  · rw [if_neg (show ¬ (m : Int) < 10 by omega), if_pos (by omega)]
    omega

/-- Later days fall in no earlier months. -/
theorem month_mono {a b : Int} (h : a ≤ b) : (civilOfDay a).year * 12 + (civilOfDay a).month ≤
    (civilOfDay b).year * 12 + (civilOfDay b).month := by
  obtain ⟨era, day, hday, hle, hmonths⟩ := months_eq a
  obtain ⟨era', day', hday', hle', hmonths'⟩ := months_eq b
  rw [hmonths, hmonths']
  obtain ⟨hfirst, hlast⟩ := yearStart_le hle
  obtain ⟨hfirst', hlast'⟩ := yearStart_le hle'
  have hyear := yearOfEra_lt hle
  by_cases hera : era = era'
  · have hmono : yearOfEra day ≤ yearOfEra day' := yearOfEra_mono (by omega)
    by_cases hsame : yearOfEra day = yearOfEra day'
    · rw [hsame] at hfirst hlast ⊢
      omega
    · omega
  · omega

/-- The first day of a month, months counted from the year zero. -/
def firstOfMonth (index : Int) : Int :=
  dayOfCivil { year := index / 12, month := (index % 12).toNat + 1, day := 1 }

private theorem firstOfMonth_succ (index : Int) : firstOfMonth index + 28 ≤ firstOfMonth (index + 1) := by
  obtain ⟨month, hmonth⟩ :=
    Int.eq_ofNat_of_zero_le (Int.emod_nonneg index (by decide : (12 : Int) ≠ 0))
  have hlt : month < 12 := by omega
  by_cases hlast : month = 11
  · have hyear : (index + 1) / 12 = index / 12 + 1 := by omega
    have hmonth' : (index + 1) % 12 = 0 := by omega
    simp only [firstOfMonth, dayOfCivil, hmonth, hmonth', hyear, hlast, Int.toNat_natCast]
    simp
    omega
  · have hyear : (index + 1) / 12 = index / 12 := by omega
    have hmonth' : (index + 1) % 12 = (month + 1 : Nat) := by omega
    simp only [firstOfMonth, dayOfCivil, hmonth, hmonth', hyear, Int.toNat_natCast]
    generalize index / 12 = year
    split <;> split <;> omega

theorem firstOfMonth_add (index : Int) (months : Nat) :
    firstOfMonth index + 28 * months ≤ firstOfMonth (index + months) := by
  induction months with
  | zero => simp
  | succ k ih =>
    have hstep := firstOfMonth_succ (index + k)
    have hindex : index + (k + 1 : Nat) = index + k + 1 := by omega
    rw [hindex]
    omega

theorem dayOfCivil_eq {year : Int} {month day : Nat} (h1 : 1 ≤ month) (h12 : month ≤ 12) :
    dayOfCivil { year, month, day } = firstOfMonth (year * 12 + (month - 1 : Nat)) + day - 1 := by
  have hyear : (year * 12 + (month - 1 : Nat)) / 12 = year := by omega
  have hmonth : ((year * 12 + (month - 1 : Nat)) % 12).toNat + 1 = month := by omega
  simp only [firstOfMonth, hyear, hmonth, dayOfCivil]
  omega

theorem monthLength_ge (year : Int) (month : Nat) : 28 ≤ monthLength year month := by
  unfold monthLength
  split <;> split <;> omega

/-- Adding months moves a day well past its neighbours. -/
theorem lt_addMonths (n : Int) {months : Nat} (h : 0 < months) : n + 1 < addMonths n months := by
  obtain ⟨hm1, hm12, hd1, hd31, hback⟩ := civilOfDay_spec n
  have hlong := monthLength_ge
    ((civilOfDay n).year + (((civilOfDay n).month - 1 + months) / 12 : Nat))
    (((civilOfDay n).month - 1 + months) % 12 + 1)
  have hfar := firstOfMonth_add ((civilOfDay n).year * 12 + ((civilOfDay n).month - 1 : Nat)) months
  have hstart : dayOfCivil (civilOfDay n) =
      firstOfMonth ((civilOfDay n).year * 12 + ((civilOfDay n).month - 1 : Nat)) +
        (civilOfDay n).day - 1 := dayOfCivil_eq hm1 hm12
  have hindex : ((civilOfDay n).year + (((civilOfDay n).month - 1 + months) / 12 : Nat)) * 12 +
      ((((civilOfDay n).month - 1 + months) % 12 + 1 - 1 : Nat)) =
      (civilOfDay n).year * 12 + ((civilOfDay n).month - 1 : Nat) + months := by omega
  unfold addMonths
  rw [dayOfCivil_eq (by omega) (by omega), hindex]
  rw [hback] at hstart
  generalize monthLength _ _ = long at *
  have hmin : 28 ≤ min (civilOfDay n).day long ∨ min (civilOfDay n).day long = (civilOfDay n).day := by
    omega
  omega

section MonthStart

/-- The days of the first eleven months and a bit all fall in the year of their start. -/
private theorem yearOfEra_add {year rest : Nat} (hyear : year < 400) (hrest : rest ≤ 337) :
    yearOfEra (yearStart year + rest) = year := by
  have hlow : year ≤ yearOfEra (yearStart year + rest) := by
    have hmono : yearOfEra (yearStart year) ≤ yearOfEra (yearStart year + rest) :=
      yearOfEra_mono (Nat.le_add_right _ _)
    rwa [(yearOfEra_bounds year hyear).1] at hmono
  by_cases hlast : year = 399
  · have hend : yearStart 399 + 365 = 146096 := by decide
    have hlt : yearOfEra (yearStart year + rest) < 400 := yearOfEra_lt (by rw [hlast]; omega)
    omega
  · obtain ⟨-, hbefore, -⟩ := yearOfEra_bounds (year + 1) (by omega)
    have hlong : yearStart year + 365 ≤ yearStart (year + 1) := by
      unfold yearStart
      omega
    have hmono : yearOfEra (yearStart year + rest) ≤ yearOfEra (yearStart (year + 1) - 1) :=
      yearOfEra_mono (by omega)
    rw [hbefore (by omega)] at hmono
    omega

/-- A day told by the year from March, the month of that year and the first of it. -/
private theorem civilOfDay_march (y : Int) {m : Nat} (hm : m < 12) :
    civilOfDay (365 * y + y / 4 - y / 100 + y / 400 + ((153 * m + 2) / 5 : Nat) - 719468) =
      { year := y + if (if m < 10 then m + 3 else m - 9) ≤ 2 then 1 else 0
        month := if m < 10 then m + 3 else m - 9
        day := 1 } := by
  obtain ⟨year, hyear⟩ := Int.eq_ofNat_of_zero_le (Int.emod_nonneg y (by decide : (400 : Int) ≠ 0))
  obtain ⟨era, hera⟩ : ∃ era, era = y / 400 := ⟨_, rfl⟩
  obtain ⟨rest, hrest⟩ : ∃ rest : Nat, rest = (153 * m + 2) / 5 := ⟨_, rfl⟩
  have hlt : year < 400 := by omega
  have hfour : y / 4 = year / 4 + 100 * era := by omega
  have hhundred : y / 100 = year / 100 + 4 * era := by omega
  have hstart : ((yearStart year + rest : Nat) : Int) =
      365 * year + (year : Int) / 4 - (year : Int) / 100 + rest := by
    unfold yearStart
    omega
  have hsmall : yearStart year + rest ≤ 146096 := by
    unfold yearStart
    omega
  have hyoe : (((yearStart year + rest : Nat) : Int) - ((yearStart year + rest : Nat) : Int) / 1460 +
      ((yearStart year + rest : Nat) : Int) / 36524 - ((yearStart year + rest : Nat) : Int) / 146096) /
      365 = year := by
    have hnat : yearOfEra (yearStart year + rest) = year := yearOfEra_add hlt (by omega)
    generalize yearStart year + rest = day at *
    unfold yearOfEra at hnat
    omega
  rw [← hrest, ← hera]
  generalize yearStart year + rest = day at *
  have hshift : 365 * y + y / 4 - y / 100 + era + rest - 719468 + 719468 = 146097 * era + day := by omega
  have hquotient : (146097 * era + day : Int) / 146097 = era := by omega
  have hdoe : 146097 * era + day - era * 146097 = (day : Int) := by omega
  have hdoy : (day : Int) - (365 * year + (year : Int) / 4 - year / 100) = rest := by omega
  have hmp : (5 * (rest : Int) + 2) / 153 = m := by omega
  simp only [civilOfDay, hshift, hquotient, hdoe, hyoe, hdoy, hmp, CivilDate.mk.injEq]
  refine ⟨?_, ?_, by omega⟩
  · by_cases hlate : m < 10
    · rw [if_pos hlate, if_pos (show (m : Int) < 10 by omega)]
      split <;> split <;> omega
    · rw [if_neg hlate, if_neg (show ¬ (m : Int) < 10 by omega)]
      split <;> split <;> omega
  · by_cases hlate : m < 10
    · rw [if_pos hlate, if_pos (show (m : Int) < 10 by omega)]
      omega
    · rw [if_neg hlate, if_neg (show ¬ (m : Int) < 10 by omega)]
      omega

/-- The first day of a month is the first day of that month. -/
theorem civilOfDay_firstOfMonth (index : Int) : civilOfDay (firstOfMonth index) =
    { year := index / 12, month := (index % 12).toNat + 1, day := 1 } := by
  obtain ⟨k, hk⟩ := Int.eq_ofNat_of_zero_le (Int.emod_nonneg index (by decide : (12 : Int) ≠ 0))
  have hlt : k < 12 := by omega
  simp only [firstOfMonth, dayOfCivil, hk, Int.toNat_natCast]
  by_cases hearly : k + 1 ≤ 2
  · have hmarch := civilOfDay_march (index / 12 - 1) (show k + 10 < 12 by omega)
    have hmonth : ((153 * (k + 10) + 2) / 5 : Nat) = (153 * (((k + 1 : Nat) : Int) + 9) + 2) / 5 := by omega
    have hreal : (if k + 10 < 10 then k + 10 + 3 else k + 10 - 9) = k + 1 := by
      rw [if_neg (by omega)]
      omega
    rw [hreal, if_pos hearly, hmonth, Int.sub_add_cancel] at hmarch
    rw [if_pos hearly, if_pos hearly, ← hmarch]
    congr 1
    omega
  · have hmarch := civilOfDay_march (index / 12) (show k - 2 < 12 by omega)
    have hmonth : ((153 * (k - 2) + 2) / 5 : Nat) = (153 * (((k + 1 : Nat) : Int) - 3) + 2) / 5 := by omega
    have hreal : (if k - 2 < 10 then k - 2 + 3 else k - 2 - 9) = k + 1 := by
      rw [if_pos (by omega)]
      omega
    rw [hreal, if_neg hearly, hmonth, Int.add_zero] at hmarch
    rw [if_neg hearly, if_neg hearly, ← hmarch]
    congr 1
    omega

theorem monthStart_eq (n : Int) : monthStart n =
    firstOfMonth ((civilOfDay n).year * 12 + ((civilOfDay n).month - 1 : Nat)) := by
  obtain ⟨hm1, hm12, -, -, hback⟩ := civilOfDay_spec n
  have hstart : dayOfCivil (civilOfDay n) =
      firstOfMonth ((civilOfDay n).year * 12 + ((civilOfDay n).month - 1 : Nat)) +
        (civilOfDay n).day - 1 := dayOfCivil_eq hm1 hm12
  rw [monthStart]
  omega

end MonthStart

/-- The days a four-digit year can name: 0001-01-01 to 9999-12-31. -/
def DayInRange (n : Int) : Prop := -719162 ≤ n ∧ n ≤ 2932896

instance (n : Int) : Decidable (DayInRange n) := inferInstanceAs (Decidable (_ ∧ _))

theorem civilOfDay_year {n : Int} (h : DayInRange n) :
    0 ≤ (civilOfDay n).year ∧ (civilOfDay n).year ≤ 9999 := by
  obtain ⟨hfirst, hlast⟩ := h
  obtain ⟨hm1, hm12, hd1, hd31, hback⟩ := civilOfDay_spec n
  unfold dayOfCivil at hback
  generalize civilOfDay n = c at *
  by_cases hmonth : c.month ≤ 2
  · simp only [if_pos hmonth] at hback
    omega
  · simp only [if_neg hmonth] at hback
    omega

theorem length_pad {width n : Nat} (hwidth : 0 < width) (h : n < 10 ^ width) :
    (pad width n).length = width := by
  have hlen : (Nat.toDigits 10 n).length ≤ width :=
    (Nat.length_toDigits_le_iff (by decide) hwidth).mpr h
  rw [pad, List.length_append, List.length_replicate]
  omega

/-- The digits read back as the number. -/
theorem ofDigitChars_pad (width n : Nat) : Nat.ofDigitChars 10 (pad width n) 0 = n := by
  have hzeros : Nat.ofDigitChars 10 (List.replicate (width - (Nat.toDigits 10 n).length) '0') 0 = 0 := by
    simp
  rw [pad, Nat.ofDigitChars_append, hzeros, Nat.ofDigitChars_toDigits (by decide) (by decide)]

theorem pad_append_inj {width a b : Nat} {s t : List Char} (hwidth : 0 < width)
    (ha : a < 10 ^ width) (hb : b < 10 ^ width) (h : pad width a ++ s = pad width b ++ t) :
    a = b ∧ s = t := by
  obtain ⟨hpad, hrest⟩ := List.append_inj h (by rw [length_pad hwidth ha, length_pad hwidth hb])
  refine ⟨?_, hrest⟩
  rw [← ofDigitChars_pad width a, hpad, ofDigitChars_pad]

/-- A date is read off the front of a text. -/
theorem dateChars_append_inj {m n : Int} {s t : List Char} (hm : DayInRange m) (hn : DayInRange n)
    (h : dateChars m ++ s = dateChars n ++ t) : m = n ∧ s = t := by
  obtain ⟨hym, hym'⟩ := civilOfDay_year hm
  obtain ⟨hyn, hyn'⟩ := civilOfDay_year hn
  obtain ⟨-, hmm, -, hdm, hbackm⟩ := civilOfDay_spec m
  obtain ⟨-, hmn, -, hdn, hbackn⟩ := civilOfDay_spec n
  simp only [dateChars, List.append_assoc, List.cons_append] at h
  obtain ⟨hyear, h⟩ := pad_append_inj (by decide) (by omega) (by omega) h
  obtain ⟨hmonth, h⟩ := pad_append_inj (by decide) (by omega) (by omega) (List.cons_inj_right _ |>.mp h)
  obtain ⟨hday, h⟩ := pad_append_inj (by decide) (by omega) (by omega) (List.cons_inj_right _ |>.mp h)
  refine ⟨?_, h⟩
  have hcivil : civilOfDay m = civilOfDay n := by
    generalize civilOfDay m = a at *
    generalize civilOfDay n = b at *
    cases a
    cases b
    simp only [CivilDate.mk.injEq] at *
    omega
  rw [← hbackm, hcivil, hbackn]

theorem isoDate_inj {m n : Int} (hm : DayInRange m) (hn : DayInRange n)
    (h : isoDate m = isoDate n) : m = n := by
  have hchars := String.ofList_injective h
  exact (dateChars_append_inj (s := []) (t := []) hm hn (by simpa using hchars)).1

/-- The instants whose civil date has a four-digit year. -/
def InstantInRange (instant : Int) : Prop := DayInRange (instant / 86400000000)

instance (instant : Int) : Decidable (InstantInRange instant) :=
  inferInstanceAs (Decidable (DayInRange _))

theorem isoUtc_inj {m n : Int} (hm : InstantInRange m) (hn : InstantInRange n)
    (h : isoUtc m = isoUtc n) : m = n := by
  have hchars := String.ofList_injective h
  simp only [wallChars, List.append_assoc, List.cons_append] at hchars
  obtain ⟨hday, h⟩ := dateChars_append_inj hm hn hchars
  generalize hrm : (m % 86400000000).toNat = rm at *
  generalize hrn : (n % 86400000000).toNat = rn at *
  obtain ⟨hhour, h⟩ := pad_append_inj (by decide) (by omega) (by omega) (List.cons_inj_right _ |>.mp h)
  obtain ⟨hminute, h⟩ := pad_append_inj (by decide) (by omega) (by omega) (List.cons_inj_right _ |>.mp h)
  obtain ⟨hsecond, h⟩ := pad_append_inj (by decide) (by omega) (by omega) (List.cons_inj_right _ |>.mp h)
  have hfraction : rm % 1000000 = rn % 1000000 := by
    split at h <;> split at h
    · omega
    · cases h
    · cases h
    · exact (pad_append_inj (by decide) (by omega) (by omega) (List.cons_inj_right _ |>.mp h)).1
  omega

end Caixinha.Library.Calendar
