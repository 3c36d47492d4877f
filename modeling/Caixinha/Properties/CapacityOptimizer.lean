import Caixinha.Effects.CapacityOptimizer

/-! The capacity the optimizer reports against the greatest amount the reserve and the limits bear. -/
namespace Caixinha.Properties.CapacityOptimizer
open Caixinha.Library Decimal Fallible BinarySearch Caixinha.Model Caixinha.Model.CapacityOptimizer
open Caixinha.Effects.CapacityOptimizer

section
variable (db : Books) (l : Limits) (s : Search) (base : Projection)

/-- The amount keeps the reserve in every month and the global exposure within its limit. -/
def Passes (c : Int) : Prop :=
  KeepsReserve s.factors (Number.cents c) l.floor base ∧ withinGlobal db l (Number.cents c) = true

/-- What the search may not exceed. -/
def bound : Number := s.maxSearch.min (immediateRoom db l)

/-- The amounts of whole cents that may be lent every month. -/
def Lendable : Set Int := {c | 0 ≤ c ∧ (Number.cents c).le (bound db l s) ∧ Passes db l s base c}

/-- The report names the greatest amount: its capacity passes, and a cent more is more than the
immediate room or fails. -/
structure ReportsGreatest (r : CapacityReport) : Prop where
  greatest : IsGreatest (Lendable db l s base) r.monthlyCapacityByProjection
  passes : Passes db l s base r.capacity
  cent_more : ¬ (Number.cents (r.capacity + 1)).le (immediateRoom db l) ∨
    ¬ Passes db l s base (r.capacity + 1)

/-- A hundred times the amount, in 28 digits, is not beyond the half above its whole cents, and
reaches it only where these are even: the nearest whole cents, halves to the even ones, are its own. -/
structure RoundsDown (x : Number) : Prop where
  near : (mul 28 x ⟨100, 0⟩).le ⟨10 * floorCents x + 5, -1⟩
  even : Number.le ⟨10 * floorCents x + 5, -1⟩ (mul 28 x ⟨100, 0⟩) → floorCents x % 2 = 0

/-- The bound is not negative; the nearest whole cents are its own, or the cent above fails; and the
cent beyond `max_search` is beyond the room too, or fails. -/
structure RoundsWell : Prop where
  nonneg : (Number.cents 0).le (bound db l s)
  rounded : RoundsDown (bound db l s) ∨ ¬ Passes db l s base (floorCents (bound db l s) + 1)
  unbounded : ¬ (Number.cents (floorCents s.maxSearch + 1)).le (immediateRoom db l) ∨
    ¬ Passes db l s base (floorCents s.maxSearch + 1)

end

variable {db : Books} {l : Limits} {s : Search} {base : Projection}

theorem Passes.of_le {a b : Int} (hab : a ≤ b) (h : Passes db l s base b) : Passes db l s base a :=
  ⟨h.1.of_le (cents_le_cents.mpr hab), withinGlobal_of_le (cents_le_cents.mpr hab) h.2⟩

/-- The test of the search, where the simulation returns. -/
theorem passes_ok {c : Int} {data : Simulation}
    (h : simulate s.factors (Number.cents c) l.floor (.ok base) = .ok data) :
    ∃ passed, passes db l s.factors (.ok base) c = .ok (passed, data) ∧
      (passed = true ↔ Passes db l s base c) := by
  refine ⟨data.status = .pass && withinGlobal db l (Number.cents c), ?_, ?_⟩
  · rw [passes, h, ok_bind]
    rfl
  · rw [Bool.and_eq_true, decide_eq_true_eq, simulate_ok h, Passes]

theorem lendable_iff {c : Int} : c ∈ Lendable db l s base ↔
    0 ≤ c ∧ c ≤ floorCents (bound db l s) ∧ Passes db l s base c := by
  rw [Lendable, Set.mem_ofPred_eq, cents_le_iff]

/-- The result of the search up to the bound's whole cents, or to one cent more, is the greatest
lendable amount exactly when the cent more is not searched or fails. -/
private theorem greatest_iff {H r : Int}
    (hH : H = floorCents (bound db l s) ∨ H = floorCents (bound db l s) + 1)
    (hfloor : 0 ≤ floorCents (bound db l s))
    (hr : IsGreatest {c | 0 ≤ c ∧ c ≤ H ∧ Passes db l s base c} r) :
    IsGreatest (Lendable db l s base) r ↔ H = floorCents (bound db l s) ∨
      ¬ Passes db l s base (floorCents (bound db l s) + 1) := by
  obtain ⟨⟨hr0, hrH, hpass⟩, hmax⟩ := hr
  constructor
  · rintro ⟨hmem, -⟩
    rw [lendable_iff] at hmem
    refine hH.imp_right fun habove hmore => ?_
    have := hmax ⟨by omega, by omega, hmore⟩
    omega
  · intro hcond
    have hwithin : ∀ c, Passes db l s base c → c ≤ H → c ≤ floorCents (bound db l s) := by
      intro c hc hle
      rcases hcond with heq | hmore
      · omega
      · by_contra hout
        exact hmore (hc.of_le (by omega))
    refine ⟨lendable_iff.mpr ⟨hr0, hwithin r hpass hrH, hpass⟩, fun c hc => ?_⟩
    rw [lendable_iff] at hc
    exact hmax ⟨hc.1, by omega, hc.2.2⟩

/-- The search stops at the bound's whole cents, or one cent above where rounding adds one. -/
theorem searchBound_cases (hfloor : (Number.cents 0).le l.floor) (hbound : (Number.cents 0).le (bound db l s)) :
    (searchBound db l s.maxSearch = floorCents (bound db l s) ∨
      searchBound db l s.maxSearch = floorCents (bound db l s) + 1) ∧
    (searchBound db l s.maxSearch = floorCents (bound db l s) ↔ RoundsDown (bound db l s)) := by
  set F := floorCents (bound db l s) with hF
  have hF0 : 0 ≤ F := cents_le_iff.mp hbound
  have hroom : F ≤ max 0 db.cashBalance.val := cents_le_cents.mp
    (Number.le_trans (cents_le_iff.mpr hF.le) (Number.le_trans (Number.min_le_right _ _) (immediateRoom_le hfloor)))
  have hbalance := db.cashBalance.property
  have hcut := @searchBound_lt db _ hfloor s.maxSearch
  have hhundred : ∀ x y : Number, x.le y →
      (mul 28 x ⟨100, 0⟩).toIntegral ≤ (mul 28 y ⟨100, 0⟩).toIntegral := fun x y hxy =>
    toIntegral_mono (Number.mul_le_mul_right (by decide) (by decide) hxy)
  have hlow : F ≤ (mul 28 (bound db l s) ⟨100, 0⟩).toIntegral := by
    have := hhundred _ _ (cents_le_iff.mpr hF.le)
    rwa [toIntegral_hundredfold (by decide) (by omega)] at this
  have hsearch : searchBound db l s.maxSearch = (mul 28 (bound db l s) ⟨100, 0⟩).toIntegral :=
    max_eq_right (hF0.trans hlow)
  have hhigh : searchBound db l s.maxSearch ≤ F + 1 := by
    by_cases hedge : F + 1 < 10 ^ 28
    · have hnext : (bound db l s).le (Number.cents (F + 1)) := by
        refine (Number.le_total _ _).resolve_right fun hle => ?_
        have := cents_le_iff.mp hle
        omega
      have := hhundred _ _ hnext
      rw [toIntegral_hundredfold (by decide) (by omega)] at this
      omega
    · omega
  refine ⟨by omega, ?_⟩
  have hdown := @toIntegral_le_iff (mul 28 (bound db l s) ⟨100, 0⟩) F hF0
  constructor
  · intro h
    obtain ⟨hnear, heven⟩ := hdown.mp (by omega)
    exact ⟨hnear, heven⟩
  · rintro ⟨hnear, heven⟩
    have := hdown.mpr ⟨hnear, heven⟩
    omega

section Run
variable {groupId memberId : Option Nat}

/-- The reserve an accepted request is judged by is not negative. -/
theorem floor_nonneg (h : readLimits db groupId memberId s.reserveFloor = .ok l) :
    (Number.cents 0).le l.floor := by
  simp only [readLimits, bind_eq_ok, pure_eq_ok, refuseIf_eq_ok] at h
  obtain ⟨group, -, _, -, _, -, _, hfloor, rfl⟩ := h
  rw [Number.le, Number.cents, zero_mul]
  exact Int.mul_nonneg (Int.not_lt.mp hfloor) (by positivity)

private theorem money_cents {c : Int} (hc : 0 ≤ c) (hcut : c < 10 ^ 28) : money (Number.cents c) = .ok c := by
  have h := money_ok (by omega) hcut (Number.le_refl (Number.cents c)) (Number.le_refl _)
  rw [h.1, centsHalfEven_cents]

/-- The report of a request whose simulations return: the search's result and what becomes of it. -/
theorem optimizeCapacity_ok (hlimits : readLimits db groupId memberId s.reserveFloor = .ok l)
    (hreturns : ∀ c, 0 ≤ c → c ≤ searchBound db l s.maxSearch →
      ∃ data, simulate s.factors (Number.cents c) l.floor (.ok base) = .ok data)
    (hbaseline : Passes db l s base 0) :
    ∃ r, optimizeCapacity db groupId memberId s (.ok base) = .ok (.report r) ∧
      IsGreatest {c | 0 ≤ c ∧ c ≤ searchBound db l s.maxSearch ∧ Passes db l s base c}
        r.monthlyCapacityByProjection ∧
      money ((immediateRoom db l).min (Number.cents r.monthlyCapacityByProjection)) = .ok r.capacity := by
  have hfloor := floor_nonneg hlimits
  have hH : 0 ≤ searchBound db l s.maxSearch := le_max_left _ _
  obtain ⟨data0, hdata0⟩ := hreturns 0 le_rfl hH
  let data (c : Int) : Simulation :=
    match simulate s.factors (Number.cents c) l.floor (.ok base) with
    | .ok data => data
    | .error _ => data0
  have htest : ∀ c, 0 ≤ c → c ≤ searchBound db l s.maxSearch → ∃ passed,
      passes db l s.factors (.ok base) c = .ok (passed, data c) ∧ (passed = true ↔ Passes db l s base c) := by
    intro c hc hle
    obtain ⟨found, hfound⟩ := hreturns c hc hle
    have hdata : data c = found := by simp only [data, hfound]
    rw [hdata]
    exact passes_ok hfound
  obtain ⟨best, hsearch, hbest⟩ := search_isGreatest
    (fun a b _ hab _ hb => hb.of_le hab) htest hH hbaseline
  have hbestCut := @searchBound_lt db _ hfloor s.maxSearch
  obtain ⟨hbest0, hbestH, -⟩ := hbest.1
  obtain ⟨passed, hpassed, hpassedIff⟩ := htest 0 le_rfl hH
  rw [hpassedIff.mpr hbaseline] at hpassed
  obtain ⟨capacity, hcapacity⟩ := (@min_cents_fits db _ hfloor _ hbest0 (by omega)).money
  obtain ⟨immediate, himmediate⟩ := (@immediateRoom_fits db _ hfloor).money
  have hstart : Fits l.floor := by
    have hle : l.floor.le base.startingCash.number := hbaseline.1 _ (List.mem_cons_self ..)
    have := base.startingCash.property
    exact ⟨0, _, by decide, by omega, hfloor, hle⟩
  obtain ⟨floorCents, hfloorCents⟩ := hstart.money
  obtain ⟨global, hglobal⟩ := @rooms_money (globalRoom db l) fun y hy => (room_bounds hy).2
  obtain ⟨member, hmember⟩ := @rooms_money (memberRoom l) fun y hy => by
    obtain ⟨used, -, hroom⟩ := Option.bind_eq_some_iff.mp hy
    exact (room_bounds hroom).2
  rw [optimizeCapacity, hlimits, ok_bind]
  dsimp only
  rw [hpassed, ok_bind]
  dsimp only
  rw [hsearch]
  simp only [ok_bind, money_cents hbest0 (by omega), hcapacity, himmediate, hfloorCents, hglobal, hmember]
  exact ⟨_, rfl, hbest, hcapacity⟩

/-- An amount of cents not above the room is reported as it is. -/
private theorem capacity_eq {r c : Int} (hle : (Number.cents r).le (immediateRoom db l))
    (h : money ((immediateRoom db l).min (Number.cents r)) = .ok c) : c = r := by
  have hlow := centsHalfEven_mono (Number.le_min_iff.mpr ⟨hle, Number.le_refl (Number.cents r)⟩)
  have hhigh := centsHalfEven_mono (Number.min_le_right (immediateRoom db l) (Number.cents r))
  rw [centsHalfEven_cents] at hlow hhigh
  rw [money, quantizeHalfEven] at h
  split at h
  · rename_i cents hcents
    cases h
    rw [checkCents_eq_some] at hcents
    omega
  · cases h

/-- With a baseline that passes and simulations that return, the report names the greatest amount
exactly when rounding the bound to cents does no harm and `max_search` does not cut the search. -/
theorem reports_greatest_iff (hlimits : readLimits db groupId memberId s.reserveFloor = .ok l)
    (hreturns : ∀ c, 0 ≤ c → c ≤ searchBound db l s.maxSearch →
      ∃ data, simulate s.factors (Number.cents c) l.floor (.ok base) = .ok data)
    (hbaseline : Passes db l s base 0) :
    ∃ r, optimizeCapacity db groupId memberId s (.ok base) = .ok (.report r) ∧
      (ReportsGreatest db l s base r ↔ RoundsWell db l s base) := by
  obtain ⟨r, hok, hbest, hcapacity⟩ := optimizeCapacity_ok hlimits hreturns hbaseline
  refine ⟨r, hok, ?_⟩
  have hnonneg : ∀ c ∈ Lendable db l s base, (Number.cents 0).le (bound db l s) := fun c hc =>
    Number.le_trans (cents_le_cents.mpr hc.1) hc.2.1
  constructor
  · rintro ⟨hgreatest, hpasses, hmore⟩
    have hbound := hnonneg _ hgreatest.1
    have hroom : (Number.cents r.monthlyCapacityByProjection).le (immediateRoom db l) :=
      Number.le_trans hgreatest.1.2.1 (Number.min_le_right _ _)
    have heq := capacity_eq hroom hcapacity
    obtain ⟨hcases, hdown⟩ := searchBound_cases (floor_nonneg hlimits) hbound
    refine ⟨hbound, ?_, ?_⟩
    · rw [← hdown]
      exact (greatest_iff hcases (cents_le_iff.mp hbound) hbest).mp hgreatest
    by_contra hcut
    obtain ⟨hin, hpass⟩ := not_or.mp hcut
    rw [not_not] at hin hpass
    -- the cent beyond `max_search` is lendable but for `max_search`, so the amount below it is the greatest
    have hfits : (Number.cents (floorCents s.maxSearch)).le (bound db l s) :=
      Number.le_min_iff.mpr ⟨cents_le_iff.mpr le_rfl,
        Number.le_trans (cents_le_cents.mpr (by omega)) hin⟩
    have hmax : 0 ≤ floorCents s.maxSearch :=
      cents_le_iff.mp (Number.le_trans hbound (Number.min_le_left _ _))
    have hlow := hgreatest.2 ⟨hmax, hfits, hpass.of_le (by omega)⟩
    have hhigh := cents_le_iff.mp (Number.le_trans hgreatest.1.2.1 (Number.min_le_left _ _))
    have hsame : r.capacity = floorCents s.maxSearch := by omega
    rw [hsame] at hmore
    exact hmore.elim (fun h => h hin) (fun h => h hpass)
  · rintro ⟨hbound, hrounded, hunbounded⟩
    obtain ⟨hcases, hdown⟩ := searchBound_cases (floor_nonneg hlimits) hbound
    rw [← hdown] at hrounded
    have hgreatest := (greatest_iff hcases (cents_le_iff.mp hbound) hbest).mpr hrounded
    have hroom : (Number.cents r.monthlyCapacityByProjection).le (immediateRoom db l) :=
      Number.le_trans hgreatest.1.2.1 (Number.min_le_right _ _)
    have heq := capacity_eq hroom hcapacity
    refine ⟨hgreatest, heq ▸ hgreatest.1.2.2, ?_⟩
    rw [heq]
    by_contra hcut
    obtain ⟨hin, hpass⟩ := not_or.mp hcut
    rw [not_not] at hin hpass
    have hbeyond : ¬ (Number.cents (r.monthlyCapacityByProjection + 1)).le (bound db l s) := by
      intro hle
      have hmem := hgreatest.1.1
      have := hgreatest.2 ⟨by omega, hle, hpass⟩
      omega
    have hmax : ¬ (Number.cents (r.monthlyCapacityByProjection + 1)).le s.maxSearch := fun hle =>
      hbeyond (Number.le_min_iff.mpr ⟨hle, hin⟩)
    rw [cents_le_iff] at hmax
    have hwithin := cents_le_iff.mp (Number.le_trans hgreatest.1.2.1 (Number.min_le_left _ _))
    have hsame : floorCents s.maxSearch = r.monthlyCapacityByProjection := by omega
    rw [hsame] at hunbounded
    exact hunbounded.elim (fun h => h hin) (fun h => h hpass)

end Run

/-- One real of cash. -/
def smallBooks : Books where
  cashBalance := ⟨100, by decide⟩
  exposure := fun _ => ⟨0, by decide⟩
  group := fun _ => none
  memberGroup := fun _ => none

/-- Two reais come in. -/
def january : ProjectedMonth where
  month := "2026-01-01"
  expectedContributions := ⟨200, by decide⟩
  expectedLoanReceipts := ⟨0, by decide⟩
  expectedExpenses := ⟨0, by decide⟩

def oneMonth : Projection where
  asOfDate := "2026-01-01"
  startingCash := ⟨100, by decide⟩
  months := [january]

/-- A search over one month that leaves the given reserve. -/
def searchAbove (reserve : Number) : Search where
  factors := { horizonMonths := 1 }
  reserveFloor := some reserve

def reserveOnly (reserve : Number) : Limits where
  group := none
  floor := reserve
  memberExposure := none

private theorem oneMonth_simulated {c : Int} (hc : c = 0 ∨ c = 1 ∨ c = 2) :
    ∃ data, simulate (searchAbove ⟨98, -2⟩).factors (Number.cents c) ⟨98, -2⟩ (.ok oneMonth) = .ok data := by
  have hok : (simulate (searchAbove ⟨98, -2⟩).factors (Number.cents c) ⟨98, -2⟩ (.ok oneMonth)).isOk = true := by
    rcases hc with rfl | rfl | rfl <;> decide
  cases hsimulate : simulate (searchAbove ⟨98, -2⟩).factors (Number.cents c) ⟨98, -2⟩ (.ok oneMonth) with
  | ok data => exact ⟨data, rfl⟩
  | error e =>
    rw [hsimulate] at hok
    cases hok

/-- A reserve of whole cents: the two cents above it are the greatest amount, and are reported. -/
theorem cent_reserve_reports_greatest : ∃ r,
    optimizeCapacity smallBooks none none (searchAbove ⟨98, -2⟩) (.ok oneMonth) = .ok (.report r) ∧
      ReportsGreatest smallBooks (reserveOnly ⟨98, -2⟩) (searchAbove ⟨98, -2⟩) oneMonth r ∧
      r.monthlyCapacityByProjection = 2 := by
  have hbound : searchBound smallBooks (reserveOnly ⟨98, -2⟩) (searchAbove ⟨98, -2⟩).maxSearch = 2 := by
    decide
  have hcents : floorCents (bound smallBooks (reserveOnly ⟨98, -2⟩) (searchAbove ⟨98, -2⟩)) = 2 := by
    decide
  obtain ⟨r, hok, hgreatest⟩ := @reports_greatest_iff smallBooks (reserveOnly ⟨98, -2⟩)
    (searchAbove ⟨98, -2⟩) oneMonth none none (by rfl) (fun c hc hle => oneMonth_simulated (by omega))
    ⟨by decide, by decide⟩
  have hreported := hgreatest.mpr
    ⟨by decide, .inl ⟨by decide, fun _ => by rw [hcents]; decide⟩, .inl (by decide)⟩
  refine ⟨r, hok, hreported, Int.le_antisymm ?_ ?_⟩
  · have hwithin := (lendable_iff.mp hreported.greatest.1).2.1
    rwa [hcents] at hwithin
  · exact hreported.greatest.2 (lendable_iff.mpr
      ⟨by decide, by rw [hcents], ⟨by decide, by decide⟩⟩)

private def bothHundred : Tx CapacityOptimizer.Outcome → Bool
  | .ok (.report r) => decide (r.capacity = 100 ∧ r.monthlyCapacityByProjection = 100)
  | _ => false

/-- With half a cent in reserve the capacity is all the cash there is, which leaves less. -/
theorem half_cent_reserve_lent : ∃ r,
    optimizeCapacity smallBooks none none (searchAbove ⟨5, -3⟩) (.ok oneMonth) = .ok (.report r) ∧
      r.capacity = 100 ∧
      ¬ ReportsGreatest smallBooks (reserveOnly ⟨5, -3⟩) (searchAbove ⟨5, -3⟩) oneMonth r := by
  have hrun : bothHundred (optimizeCapacity smallBooks none none (searchAbove ⟨5, -3⟩) (.ok oneMonth)) = true := by
    decide
  rcases hreported : optimizeCapacity smallBooks none none (searchAbove ⟨5, -3⟩) (.ok oneMonth) with
    e | (_ | r)
  · rw [hreported] at hrun
    cases hrun
  · rw [hreported] at hrun
    cases hrun
  · rw [hreported] at hrun
    obtain ⟨hcapacity, hmonthly⟩ := of_decide_eq_true hrun
    refine ⟨r, rfl, hcapacity, fun h => ?_⟩
    have hwithin := h.greatest.1.2.1
    rw [hmonthly] at hwithin
    exact absurd hwithin (by decide)

end Caixinha.Properties.CapacityOptimizer
