import Caixinha.Library.BinarySearch
import Caixinha.Library.DecimalLattice
import Caixinha.Model.Values

/-! The lending capacity of a group: a projection is simulated with a monthly amount of new loans,
and the largest amount whose simulation keeps the reserve is searched in whole cents. What
`build_projection` returns does not depend on the amount and is taken as given. -/
namespace Caixinha.Model.CapacityOptimizer
open Caixinha.Library Decimal

/-- An amount that went through `quantize`. -/
abbrev Quantized := {cents : Int // cents.natAbs < 10 ^ 28}

def Quantized.number (a : Quantized) : Number := Number.cents a.val

/-- What is lent, a sum of open amounts. -/
abbrev Exposure := {cents : Int // 0 ≤ cents ∧ cents < 10 ^ 28}

def Exposure.number (a : Exposure) : Number := Number.cents a.val

/-- `Decimal(v).quantize(Decimal("0.01"))` in the default context. -/
def money (v : Number) : Tx Int :=
  match quantizeHalfEven 28 v with
  | some cents => .ok cents
  | none => .error .invalidOperation

/-- One month of the projection; its amounts are texts with two places. -/
structure ProjectedMonth where
  month : String
  expectedContributions : Quantized
  expectedLoanReceipts : Quantized
  expectedExpenses : Quantized

structure Projection where
  asOfDate : String
  startingCash : Quantized
  months : List ProjectedMonth

/-- The factors of a scenario besides the amount of new loans. -/
structure Factors where
  scenario : String := "BASE"
  horizonMonths : Nat := 12
  contributionFactor : Number := ⟨1, 0⟩
  delinquencyRate : Number := ⟨0, 0⟩
  extraExpenses : Number := ⟨0, 0⟩

structure SimulatedMonth where
  month : String
  openingCash : Int
  contributions : Int
  loanReceipts : Int
  newLoanDisbursements : Int
  expenses : Int
  netCashFlow : Int
  projectedCash : Int
  availableAboveReserve : Int
  reserveFloor : Int
  deriving DecidableEq, Repr

inductive Status where
  | pass
  | blocked
  deriving DecidableEq, Repr

structure Simulation where
  asOfDate : String
  scenario : String
  horizonMonths : Nat
  status : Status
  startingCash : Int
  minimumProjectedCash : Int
  endingProjectedCash : Int
  minimumAvailableAboveReserve : Int
  simulation : List SimulatedMonth
  deriving DecidableEq, Repr

def refuseNegative (name : String) (v : Number) : Tx Unit :=
  refuseIf (v.coefficient < 0) (name ++ " não pode ser negativo.")

/-- The locals of the month loop. -/
structure Simulating where
  cash : Number
  minCash : Number
  rows : List SimulatedMonth := []
  capacity : List Number := []

section Simulate
variable (f : Factors) (disbursements floor : Number)

def contributions (r : ProjectedMonth) : Number :=
  mul 28 r.expectedContributions.number f.contributionFactor

def receipts (r : ProjectedMonth) : Number :=
  mul 28 r.expectedLoanReceipts.number (sub 28 ⟨1, 0⟩ f.delinquencyRate)

def expenses (r : ProjectedMonth) : Number := add 28 r.expectedExpenses.number f.extraExpenses

def net (r : ProjectedMonth) : Number :=
  sub 28 (sub 28 (add 28 (contributions f r) (receipts f r)) (expenses f r)) disbursements

def simulateMonth (s : Simulating) (r : ProjectedMonth) : Tx Simulating := do
  let cash := add 28 s.cash (net f disbursements r)
  let available := Number.max ⟨0, 0⟩ (sub 28 cash floor)
  let row : SimulatedMonth :=
    { month := r.month, openingCash := ← money s.cash, contributions := ← money (contributions f r),
      loanReceipts := ← money (receipts f r), newLoanDisbursements := ← money disbursements,
      expenses := ← money (expenses f r), netCashFlow := ← money (net f disbursements r),
      projectedCash := ← money cash, availableAboveReserve := ← money available,
      reserveFloor := ← money floor }
  return { cash := cash, minCash := s.minCash.min cash, rows := s.rows ++ [row],
           capacity := s.capacity ++ [available] }

/-- The smallest number of a list, zero for the empty one. -/
def minimum : List Number → Number
  | [] => ⟨0, 0⟩
  | a :: rest => rest.foldl Number.min a

def simulate (buildProjection : Tx Projection) : Tx Simulation := do
  refuseIf (¬ (1 ≤ f.horizonMonths ∧ f.horizonMonths ≤ 36)) "Horizonte deve estar entre 1 e 36 meses."
  refuseNegative "contribution_factor" f.contributionFactor
  refuseNegative "delinquency_rate" f.delinquencyRate
  refuseNegative "new_loan_disbursements" disbursements
  refuseNegative "extra_expenses" f.extraExpenses
  refuseNegative "reserve_floor" floor
  refuseIf (¬ f.delinquencyRate.le ⟨1, 0⟩) "delinquency_rate deve estar entre 0 e 1."
  let base ← buildProjection
  let start := base.startingCash.number
  let s ← base.months.foldlM (simulateMonth f disbursements floor) { cash := start, minCash := start }
  return { asOfDate := base.asOfDate, scenario := f.scenario.toUpper, horizonMonths := f.horizonMonths,
           status := if floor.le s.minCash then .pass else .blocked, startingCash := base.startingCash.val,
           minimumProjectedCash := ← money s.minCash, endingProjectedCash := ← money s.cash,
           minimumAvailableAboveReserve := ← money (minimum s.capacity), simulation := s.rows }

end Simulate

structure GroupLimits where
  minCashReserve : Quantized
  maxGlobalExposure : Option Quantized := none
  maxMemberExposure : Option Quantized := none
  maxLoanAmount : Option Quantized := none

/-- What the optimizer reads of the database: `cash_balance`, `exposure` overall or of a member,
the groups' limits and the members' groups. -/
structure Books where
  cashBalance : Quantized
  exposure : Option Nat → Exposure
  group : Nat → Option GroupLimits
  memberGroup : Nat → Option Nat

structure Search where
  factors : Factors := {}
  reserveFloor : Option Number := none
  maxSearch : Number := ⟨10000000, 0⟩

structure CapacityReport where
  decision : String
  asOfDate : String
  capacity : Int
  monthlyCapacityByProjection : Int
  immediateCapacity : Int
  currentCash : Int
  reserveFloor : Int
  globalExposure : Int
  globalExposureRoom : Option Int
  memberExposure : Option Int
  memberExposureRoom : Option Int
  bottlenecks : List String
  simulationAtCapacity : Simulation
  deriving DecidableEq, Repr

inductive Outcome where
  /-- The scenario without new loans breaks the reserve already. -/
  | blocked (reason : String) (immediateCapacity : Int) (bottlenecks : List String)
  | report (r : CapacityReport)
  deriving DecidableEq, Repr

/-- The limits a request is judged by: the group's, and the member's exposure where one is named. -/
structure Limits where
  group : Option GroupLimits
  floor : Number
  memberExposure : Option Exposure

/-- The group of the member, or else the named one. -/
def readGroup (db : Books) (groupId memberId : Option Nat) : Tx (Option GroupLimits) :=
  match memberId with
  | some m => do
    let own ← orRefuse (db.memberGroup m) "Participante não encontrado."
    return db.group own
  | none => .ok (groupId.bind db.group)

def readLimits (db : Books) (groupId memberId : Option Nat) (reserveFloor : Option Number) : Tx Limits := do
  let group ← readGroup db groupId memberId
  refuseIf (groupId.isSome ∧ group.isNone) "Grupo não encontrado."
  refuseIf (∃ m ∈ memberId, ∃ g ∈ groupId, db.memberGroup m ≠ some g)
    "Participante não pertence ao grupo informado."
  let floor := reserveFloor.getD ((group.map fun g => g.minCashReserve.number).getD ⟨0, 0⟩)
  refuseIf (floor.coefficient < 0) "reserve_floor não pode ser negativo."
  return { group := group, floor := floor, memberExposure := memberId.map fun m => db.exposure (some m) }

section Rooms
variable (db : Books) (l : Limits)

def room (limit : Option Quantized) (used : Exposure) : Option Number :=
  limit.map fun limit => Number.max ⟨0, 0⟩ (sub 28 limit.number used.number)

def globalRoom : Option Number := room (l.group.bind GroupLimits.maxGlobalExposure) (db.exposure none)

def memberRoom : Option Number :=
  l.memberExposure.bind (room (l.group.bind GroupLimits.maxMemberExposure))

def maxLoanAmount : Option Number := (l.group.bind GroupLimits.maxLoanAmount).map Quantized.number

def capAt (room : Number) (limit : Option Number) : Number :=
  match limit with
  | some limit => room.min limit
  | none => room

def immediateRoom : Number :=
  let directRoom := Number.max ⟨0, 0⟩ (sub 28 db.cashBalance.number l.floor)
  capAt (capAt (capAt directRoom (globalRoom db l)) (memberRoom l)) (maxLoanAmount l)

/-- `global_exp + x` stays within the group's limit. -/
def withinGlobal (x : Number) : Bool :=
  match l.group.bind GroupLimits.maxGlobalExposure with
  | some limit => decide ((add 28 (db.exposure none).number x).le limit.number)
  | none => true

/-- The whole cents the search stops at. -/
def searchBound (maxSearch : Number) : Int :=
  max 0 (mul 28 (maxSearch.min (immediateRoom db l)) ⟨100, 0⟩).toIntegral

/-- Whether the reserve and the exposure hold with an amount of cents lent every month. -/
def passes (f : Factors) (buildProjection : Tx Projection) (cents : Int) : Tx (Bool × Simulation) := do
  let data ← simulate f (Number.cents cents) l.floor buildProjection
  return (data.status = .pass && withinGlobal db l (Number.cents cents), data)

end Rooms

def bottlenecks (db : Books) (l : Limits) (monthly capacity : Number) : List String :=
  let reached (room : Option Number) : Bool := room.any fun room => decide (room.le capacity)
  let names := (if (immediateRoom db l).le monthly then [] else ["PROJECTED_CASH"]) ++
    (if reached (globalRoom db l) then ["GLOBAL_EXPOSURE"] else []) ++
    (if reached (memberRoom l) then ["MEMBER_EXPOSURE"] else []) ++
    (if reached (maxLoanAmount l) then ["MAX_LOAN_AMOUNT"] else [])
  if names.isEmpty then ["RESERVE"] else names

def optimizeCapacity (db : Books) (groupId memberId : Option Nat) (s : Search)
    (buildProjection : Tx Projection) : Tx Outcome := do
  let l ← readLimits db groupId memberId s.reserveFloor
  let bound := searchBound db l s.maxSearch
  let (baselineOk, baseData) ← passes db l s.factors buildProjection 0
  if !baselineOk then
    return .blocked "Cenário-base já viola a reserva mínima." (← money (immediateRoom db l))
      ["RESERVE_BASELINE"]
  let (best, data) ← BinarySearch.search (passes db l s.factors buildProjection) (bound + 1).toNat 0 bound
    (0, baseData)
  let monthly ← money (Number.cents best)
  let capacity := (immediateRoom db l).min (Number.cents monthly)
  return .report
    { decision := if Number.le capacity ⟨0, 0⟩ then "BLOCKED" else "ALLOW", asOfDate := data.asOfDate,
      capacity := ← money capacity, monthlyCapacityByProjection := monthly,
      immediateCapacity := ← money (immediateRoom db l), currentCash := db.cashBalance.val,
      reserveFloor := ← money l.floor, globalExposure := (db.exposure none).val,
      globalExposureRoom := ← (globalRoom db l).mapM money,
      memberExposure := l.memberExposure.map Subtype.val,
      memberExposureRoom := ← (memberRoom l).mapM money,
      bottlenecks := bottlenecks db l (Number.cents monthly) capacity, simulationAtCapacity := data }

end Caixinha.Model.CapacityOptimizer
