import Caixinha.Library.RelatedRows
import Caixinha.Model.CapacityOptimizer

/-! The simulated cash month by month, its order in the lent amount, and which amounts of the
optimizer fit their columns. -/
namespace Caixinha.Effects.CapacityOptimizer
open Caixinha.Library Decimal Fallible Table Caixinha.Model Caixinha.Model.CapacityOptimizer

variable {f : Factors} {x y floor : Number}

/-- The cash at the end of each month when `x` is lent every month. -/
def projectedCash (f : Factors) (x : Number) : Number → List ProjectedMonth → List Number
  | _, [] => []
  | cash, r :: rest => add 28 cash (net f x r) :: projectedCash f x (add 28 cash (net f x r)) rest

/-- The simulated month without its texts. -/
theorem simulateMonth_ok {s t : Simulating} {r : ProjectedMonth}
    (h : simulateMonth f x floor s r = .ok t) :
    t.cash = add 28 s.cash (net f x r) ∧ t.minCash = s.minCash.min t.cash := by
  simp only [simulateMonth, bind_eq_ok, pure_eq_ok] at h
  obtain ⟨_, _, _, _, _, _, _, _, _, _, _, _, _, _, _, _, _, _, rfl⟩ := h
  exact ⟨rfl, rfl⟩

theorem simulateMonths_ok (months : List ProjectedMonth) {s t : Simulating}
    (h : months.foldlM (simulateMonth f x floor) s = .ok t) (z : Number) :
    z.le t.minCash ↔ z.le s.minCash ∧ ∀ cash ∈ projectedCash f x s.cash months, z.le cash := by
  induction months generalizing s with
  | nil =>
    rw [List.foldlM_nil, pure_eq_ok] at h
    subst h
    simp [projectedCash]
  | cons r rest ih =>
    rw [List.foldlM_cons, bind_eq_ok] at h
    obtain ⟨next, hnext, hrest⟩ := h
    obtain ⟨hcash, hmin⟩ := simulateMonth_ok hnext
    rw [ih hrest, hmin, Number.le_min_iff, projectedCash, hcash, List.forall_mem_cons, and_assoc]

/-- The reserve holds in the starting cash and at the end of every month. -/
def KeepsReserve (f : Factors) (x floor : Number) (base : Projection) : Prop :=
  ∀ cash ∈ base.startingCash.number :: projectedCash f x base.startingCash.number base.months, floor.le cash

instance (base : Projection) : Decidable (KeepsReserve f x floor base) :=
  inferInstanceAs (Decidable (∀ cash ∈ _, floor.le cash))

theorem simulate_ok {base : Projection} {data : Simulation} (h : simulate f x floor (.ok base) = .ok data) :
    data.status = .pass ↔ KeepsReserve f x floor base := by
  simp only [simulate, bind_eq_ok, pure_eq_ok] at h
  obtain ⟨_, _, _, _, _, _, _, _, _, _, _, _, _, _, base', hbase, s, hs, _, _, _, _, _, _, rfl⟩ := h
  cases hbase
  have hspec := simulateMonths_ok base.months hs floor
  rw [KeepsReserve, List.forall_mem_cons]
  dsimp only at hspec ⊢
  rw [← hspec]
  by_cases hle : floor.le s.minCash
  · simp [hle]
  · simp [hle]

private theorem projectedCash_antitone (hxy : x.le y) (months : List ProjectedMonth) {a b : Number}
    (h : b.le a) : List.Forall₂ (fun a b => Number.le b a) (projectedCash f x a months)
      (projectedCash f y b months) := by
  induction months generalizing a b with
  | nil => exact .nil
  | cons r rest ih =>
    have hnet : (net f y r).le (net f x r) := Number.sub_le_sub_left (by decide) _ hxy
    have hcash : (add 28 b (net f y r)).le (add 28 a (net f x r)) :=
      Number.le_trans (Number.add_le_add_right (by decide) _ h) (Number.add_le_add_left (by decide) _ hnet)
    exact .cons hcash (ih hcash)

/-- Where the reserve holds with an amount it holds with a smaller one. -/
theorem KeepsReserve.of_le {base : Projection} (hxy : x.le y) (h : KeepsReserve f y floor base) :
    KeepsReserve f x floor base := by
  rw [KeepsReserve, List.forall_mem_cons] at h ⊢
  refine ⟨h.1, fun cash hcash => ?_⟩
  have hpath := projectedCash_antitone (f := f) hxy base.months (Number.le_refl base.startingCash.number)
  obtain ⟨low, hlow, hle⟩ := exists_of_forall₂ hpath hcash
  exact Number.le_trans (h.2 low hlow) hle

/-- A number between two amounts within the precision has its cents between them. -/
theorem money_ok {a b : Int} (ha : -10 ^ 28 < a) (hb : b < 10 ^ 28) (hax : (Number.cents a).le x)
    (hxb : x.le (Number.cents b)) : money x = .ok (centsHalfEven x) ∧ a ≤ centsHalfEven x ∧
      centsHalfEven x ≤ b := by
  have hlow := centsHalfEven_mono hax
  have hhigh := centsHalfEven_mono hxb
  rw [centsHalfEven_cents] at hlow hhigh
  have hfits : (centsHalfEven x).natAbs < 10 ^ 28 := by omega
  rw [money, quantizeHalfEven, checkCents, if_pos hfits]
  exact ⟨rfl, hlow, hhigh⟩

section Rooms
variable {db : Books} {l : Limits}

/-- The number lies between two amounts the context can quantize. -/
def Fits (x : Number) : Prop :=
  ∃ a b : Int, -10 ^ 28 < a ∧ b < 10 ^ 28 ∧ (Number.cents a).le x ∧ x.le (Number.cents b)

theorem Fits.money (h : Fits x) : ∃ cents, money x = .ok cents := by
  obtain ⟨a, b, ha, hb, hax, hxb⟩ := h
  exact ⟨_, (money_ok ha hb hax hxb).1⟩

private theorem zero_eq : (⟨0, 0⟩ : Number).le (Number.cents 0) ∧ (Number.cents 0).le ⟨0, 0⟩ := by decide

private theorem max_zero_bounds {c : Int} (h : x.le (Number.cents c)) :
    (Number.cents 0).le (Number.max ⟨0, 0⟩ x) ∧ (Number.max ⟨0, 0⟩ x).le (Number.cents (max 0 c)) := by
  constructor
  · exact Number.le_trans zero_eq.2 (Number.max_le_iff.mp (Number.le_refl _)).1
  · refine Number.max_le_iff.mpr ⟨Number.le_trans zero_eq.1 (cents_le_cents.mpr (le_max_left 0 c)), ?_⟩
    exact Number.le_trans h (cents_le_cents.mpr (le_max_right 0 c))

theorem room_bounds {limit : Option Quantized} {used : Exposure} (h : room limit used = some x) :
    (Number.cents 0).le x ∧ Fits x := by
  rw [room, Option.map_eq_some_iff] at h
  obtain ⟨limit, -, rfl⟩ := h
  have hle : (sub 28 limit.number used.number).le limit.number :=
    sub_le_cents (by decide) limit.property (cents_le_cents.mpr used.property.1)
  obtain ⟨hlow, hhigh⟩ := max_zero_bounds hle
  have hfits := limit.property
  exact ⟨hlow, 0, _, by decide, by omega, hlow, hhigh⟩

private theorem capAt_le (x : Number) (limit : Option Number) : (capAt x limit).le x := by
  cases limit with
  | none => exact Number.le_refl x
  | some limit => exact Number.min_le_left x limit

private theorem le_capAt {limit : Option Number} (hx : floor.le x) (h : ∀ y, limit = some y → floor.le y) :
    floor.le (capAt x limit) := by
  cases limit with
  | none => exact hx
  | some y => exact Number.le_min_iff.mpr ⟨hx, h y rfl⟩

/-- There is never more room than cash. -/
theorem immediateRoom_le (hfloor : (Number.cents 0).le l.floor) :
    (immediateRoom db l).le (Number.cents (max 0 db.cashBalance.val)) := by
  have hle : (sub 28 db.cashBalance.number l.floor).le db.cashBalance.number :=
    sub_le_cents (by decide) db.cashBalance.property hfloor
  refine Number.le_trans (capAt_le _ _) (Number.le_trans (capAt_le _ _) (Number.le_trans (capAt_le _ _) ?_))
  exact (max_zero_bounds hle).2

private theorem le_immediateRoom (hfloor : (Number.cents 0).le l.floor) :
    (Number.cents (1 - 10 ^ 28)).le (immediateRoom db l) := by
  have hle : (sub 28 db.cashBalance.number l.floor).le db.cashBalance.number :=
    sub_le_cents (by decide) db.cashBalance.property hfloor
  have hzero : (Number.cents (1 - 10 ^ 28)).le (Number.cents 0) := by decide
  refine le_capAt (le_capAt (le_capAt ?_ fun y hy => ?_) fun y hy => ?_) fun y hy => ?_
  · exact Number.le_trans hzero (max_zero_bounds hle).1
  · exact Number.le_trans hzero (room_bounds hy).1
  · obtain ⟨used, -, hroom⟩ := Option.bind_eq_some_iff.mp hy
    exact Number.le_trans hzero (room_bounds hroom).1
  · obtain ⟨limit, -, rfl⟩ := Option.map_eq_some_iff.mp hy
    have := limit.property
    exact cents_le_cents.mpr (by omega)

theorem immediateRoom_fits (hfloor : (Number.cents 0).le l.floor) : Fits (immediateRoom db l) := by
  have := db.cashBalance.property
  exact ⟨_, _, by omega, by omega, le_immediateRoom hfloor, immediateRoom_le hfloor⟩

theorem min_cents_fits (hfloor : (Number.cents 0).le l.floor) {c : Int} (hc : 0 ≤ c) (hcut : c < 10 ^ 28) :
    Fits ((immediateRoom db l).min (Number.cents c)) := by
  have hlow : (1 - 10 ^ 28 : Int) ≤ c := by omega
  exact ⟨_, c, by omega, hcut, Number.le_min_iff.mpr ⟨le_immediateRoom hfloor, cents_le_cents.mpr hlow⟩,
    Number.min_le_right _ _⟩

theorem rooms_money {room? : Option Number} (hroom : ∀ y, room? = some y → Fits y) : ∃ cents, room?.mapM money = .ok cents := by
  cases room? with
  | none => exact ⟨none, rfl⟩
  | some y =>
    obtain ⟨cents, hcents⟩ := (hroom y rfl).money
    refine ⟨some cents, ?_⟩
    rw [Option.mapM_some, hcents]
    rfl

/-- The search never goes past the cash at hand. -/
theorem searchBound_lt (hfloor : (Number.cents 0).le l.floor) (maxSearch : Number) :
    searchBound db l maxSearch < 10 ^ 28 := by
  have hbalance := db.cashBalance.property
  have hle : (maxSearch.min (immediateRoom db l)).le (Number.cents (max 0 db.cashBalance.val)) :=
    Number.le_trans (Number.min_le_right _ _) (immediateRoom_le hfloor)
  have hmul : (mul 28 (maxSearch.min (immediateRoom db l)) ⟨100, 0⟩).le
      (mul 28 (Number.cents (max 0 db.cashBalance.val)) ⟨100, 0⟩) :=
    Number.mul_le_mul_right (by decide) (by decide) hle
  have hscaled := toIntegral_mono hmul
  rw [toIntegral_hundredfold (by decide) (by omega)] at hscaled
  unfold searchBound
  omega

theorem withinGlobal_of_le {l : Limits} (hxy : x.le y) (h : withinGlobal db l y) : withinGlobal db l x := by
  unfold withinGlobal at h ⊢
  cases hlimit : l.group.bind GroupLimits.maxGlobalExposure with
  | none => rfl
  | some limit =>
    rw [hlimit] at h
    simp only [decide_eq_true_eq] at h ⊢
    exact Number.le_trans (Number.add_le_add_left (by decide) _ hxy) h

end Rooms

end Caixinha.Effects.CapacityOptimizer
