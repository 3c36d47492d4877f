import Caixinha.Library.Decimal
import Caixinha.Model.Records
import Mathlib.Data.List.Sort

/-! Late charges of loan installments: the daily simple interest on overdue principal, the
fixed penalty, and the event ledger both are materialized into. -/
namespace Caixinha.Model

open Caixinha.Library Table Decimal

/-- `Decimal("0.20") / Decimal("30")` -/
def dailyLateInterestRate : Number :=
  let q := divide 28 20 30
  ⟨q.coefficient, q.exponent - 2⟩

def fixedPenaltyAmount : Int := 1000

def calculateFixedPenalty (alreadyAssessed : Bool) : Int :=
  if alreadyAssessed then 0 else fixedPenaltyAmount

/-- Eligible principal and its number of civil late days. -/
structure PrincipalSegment where
  principal : Int
  days : Nat
  deriving DecidableEq, Repr

/-- Products and sums round to 28 digits, the total once to cents. -/
def calculateLateInterest (segments : List PrincipalSegment) : Int :=
  centsHalfUp (segments.foldl (fun total s =>
    add 28 total (mul 28 (mul 28 ⟨s.principal, -2⟩ ⟨s.days, 0⟩) dailyLateInterestRate)) ⟨0, 0⟩)

def isLateChargeEligible (dueDate : Int) (effectiveDate : Option Int) : Bool :=
  effectiveDate.any (· ≤ dueDate)

section Movements
variable (db : Db) (installmentId : Nat)

/-- The settlements of an installment by confirmation and id. -/
def installmentSettlements : List PaymentSettlement :=
  (db.settlements.filter (fun s => s.obligation = .loanInstallment installmentId)).insertionSort
    (fun a b => a.confirmedAt < b.confirmedAt ∨ (a.confirmedAt = b.confirmedAt ∧ a.id ≤ b.id))

/-- `_settlement_financial_date` of the receipt versions that carry no date of their own. -/
def PaymentSettlement.financialDate (s : PaymentSettlement) : Int := financialCivilDate s.confirmedAt

def PaymentReversal.financialDate (r : PaymentReversal) : Int := financialCivilDate r.reversedAt

/-- What one settlement adds to the principal paid, from the day after it, and its reversal
takes back. -/
def principalMovements (s : PaymentSettlement) : Tx (List (Int × Int)) :=
  match db.reversalOfSettlement? s.id with
  | none => .ok [(s.financialDate + 1, s.amounts.principalApplied)]
  | some r =>
    if r.amounts.principalApplied ≠ s.amounts.principalApplied then
      .error (.valueError "Reversão possui componente de principal incompatível.")
    else
      .ok [(s.financialDate + 1, s.amounts.principalApplied),
        (r.financialDate + 1, -r.amounts.principalApplied)]

def latePrincipalMovements : Tx (List (Int × Int)) := do
  let movements ← (installmentSettlements db installmentId).mapM (principalMovements db)
  return movements.flatten.insertionSort (fun a b => a.1 ≤ b.1)

end Movements

def principalPaidThrough (movements : List (Int × Int)) (onDate : Int) : Int :=
  max 0 ((movements.filter (fun m => m.1 ≤ onDate)).map Prod.snd).sum

/-- The days after `dueDate` up to `throughDate`. -/
def lateDays (dueDate throughDate : Int) : List Int :=
  (List.range (throughDate - dueDate).toNat).map (fun n => dueDate + 1 + n)

/-- Day, eligible principal and cumulative rounded interest. -/
def scheduleFrom (principalOn : Int → Int) :
    List PrincipalSegment → List Int → List (Int × Int × Int)
  | _, [] => []
  | segments, day :: days =>
    let segments := segments ++ [⟨principalOn day, 1⟩]
    (day, principalOn day, calculateLateInterest segments) :: scheduleFrom principalOn segments days

def dailyLateSchedule (db : Db) (inst : LoanInstallment) (throughDate : Int) :
    Tx (List (Int × Int × Int)) := do
  let movements ← latePrincipalMovements db inst.id
  return scheduleFrom (fun day => max 0 (inst.principal - principalPaidThrough movements day)) []
    (lateDays inst.dueDate throughDate)

def reconstructLatePrincipalBase (db : Db) (inst : LoanInstallment) (onDate : Int) : Tx Int := do
  if onDate ≤ inst.dueDate then return 0
  let movements ← latePrincipalMovements db inst.id
  return max 0 (inst.principal - principalPaidThrough movements onDate)

def expectedLateInterest (db : Db) (inst : LoanInstallment) (throughDate : Int) : Tx Int := do
  let schedule ← dailyLateSchedule db inst throughDate
  return (schedule.getLast?.map (·.2.2)).getD 0

/-- How an event moves the late interest; the fixed penalty does not. -/
def LoanLateChargeEvent.lateDelta (e : LoanLateChargeEvent) : Int :=
  match e.eventType with
  | .LATE_INTEREST_ACCRUED | .LATE_INTEREST_ADJUSTMENT_INCREASE => e.amount
  | .LATE_INTEREST_ADJUSTMENT_DECREASE => -e.amount
  | .FIXED_PENALTY_ASSESSED => 0

def installmentEvents (db : Db) (installmentId : Nat) : List LoanLateChargeEvent :=
  db.lateChargeEvents.filter (fun e => e.loanInstallmentId = installmentId)

/-- The late interest on record, of all dates or through one. -/
def lateInterestMaterialized (db : Db) (installmentId : Nat) (throughDate : Option Int) : Tx Int :=
  let total := (((installmentEvents db installmentId).filter
    (fun e => throughDate.all (e.effectiveDate ≤ ·))).map LoanLateChargeEvent.lateDelta).sum
  if total < 0 then .error (.valueError "Mora materializada não pode ser negativa.") else .ok total

def noLateCharge : LateChargeProjection where
  fixedPenaltyAmount := 0
  paidFixedPenaltyAmount := 0
  lateInterestAmount := 0
  paidLateInterestAmount := 0
  accruedThroughDate := none

/-- `_initialize_projection` -/
def LoanInstallment.projection (inst : LoanInstallment) : LateChargeProjection :=
  inst.lateCharge.getD noLateCharge

/-- The check constraints on the late-charge columns of an installment. -/
def checkProjection (p : LateChargeProjection) : Tx Unit := do
  requireConstraint (0 ≤ p.fixedPenaltyAmount) "ck_loan_installments_fixed_penalty_nonnegative"
  requireConstraint (0 ≤ p.paidFixedPenaltyAmount)
    "ck_loan_installments_paid_fixed_penalty_nonnegative"
  requireConstraint (0 ≤ p.lateInterestAmount) "ck_loan_installments_late_interest_nonnegative"
  requireConstraint (0 ≤ p.paidLateInterestAmount)
    "ck_loan_installments_paid_late_interest_nonnegative"
  requireConstraint (p.paidFixedPenaltyAmount ≤ p.fixedPenaltyAmount)
    "ck_loan_installments_paid_fixed_penalty_lte_assessed"
  requireConstraint (p.paidLateInterestAmount ≤ p.lateInterestAmount)
    "ck_loan_installments_paid_late_interest_lte_accrued"

/-- Write an installment back and flush. -/
def flushInstallment (db : Db) (inst : LoanInstallment) : Tx Db := do
  match inst.lateCharge with
  | none => pure ()
  | some p => checkProjection p
  return db.putInstallment inst

def lockInstallment (db : Db) (installmentId : Nat) : Tx LoanInstallment :=
  orRefuse (db.installment? installmentId) "Parcela de empréstimo não encontrada."

/-- The columns of a new event that its caller chooses. -/
structure NewLateChargeEvent where
  loanInstallmentId : Nat
  eventType : LateChargeEventType
  effectiveDate : Int
  amount : Int
  eligiblePrincipal : Option Int := none
  paymentSettlementId : Option Nat := none
  paymentReversalId : Option Nat := none

/-- The row a new event would repeat: the same kind for the same day, settlement or reversal. -/
def repeatedEvent? (db : Db) (new : NewLateChargeEvent) : Option LoanLateChargeEvent :=
  (installmentEvents db new.loanInstallmentId).find? (fun e =>
    e.eventType = new.eventType ∧
    (new.eventType = .LATE_INTEREST_ACCRUED → e.effectiveDate = new.effectiveDate) ∧
    (new.paymentSettlementId.isSome → e.paymentSettlementId = new.paymentSettlementId) ∧
    (new.paymentReversalId.isSome → e.paymentReversalId = new.paymentReversalId))

/-- `_insert_unique_event`; the flag tells a new row. -/
def insertUniqueEvent (db : Db) (new : NewLateChargeEvent) : Db × LoanLateChargeEvent × Bool :=
  match repeatedEvent? db new with
  | some existing => (db, existing, false)
  | none =>
    let event : LoanLateChargeEvent :=
      { id := nextKey LoanLateChargeEvent.id db.lateChargeEvents
        loanInstallmentId := new.loanInstallmentId
        eventType := new.eventType
        effectiveDate := new.effectiveDate
        amount := new.amount
        eligiblePrincipal := new.eligiblePrincipal
        paymentSettlementId := new.paymentSettlementId
        paymentReversalId := new.paymentReversalId }
    ({ db with lateChargeEvents := db.lateChargeEvents ++ [event] }, event, true)

/-- Assess the fixed penalty once, on the first civil overdue day. -/
def materializeFixedPenalty (db : Db) (installmentId : Nat) (throughDate : Int)
    (effectiveDate : Option Int) : Tx (Db × Option LoanLateChargeEvent) := do
  if effectiveDate.isNone then return (db, none)
  let inst ← lockInstallment db installmentId
  if ¬ isLateChargeEligible inst.dueDate effectiveDate then return (db, none)
  let penaltyDate := inst.dueDate + 1
  if throughDate < penaltyDate then return (db, none)
  match (installmentEvents db inst.id).find? (fun e => e.eventType = .FIXED_PENALTY_ASSESSED) with
  | some existing =>
    let db ← flushInstallment db
      { inst with lateCharge := some { inst.projection with fixedPenaltyAmount := existing.amount } }
    return (db, some existing)
  | none =>
    let eligiblePrincipal ← reconstructLatePrincipalBase db inst penaltyDate
    if eligiblePrincipal ≤ 0 then return (db, none)
    let (db, event, _) := insertUniqueEvent db
      { loanInstallmentId := inst.id, eventType := .FIXED_PENALTY_ASSESSED
        effectiveDate := penaltyDate, amount := calculateFixedPenalty false }
    let db ← flushInstallment db
      { inst with lateCharge := some { inst.projection with fixedPenaltyAmount := event.amount } }
    return (db, some event)

/-- The days of an installment that already have an accrual. -/
def accruedDays (db : Db) (installmentId : Nat) : List Int :=
  ((installmentEvents db installmentId).filter
    (fun e => e.eventType = .LATE_INTEREST_ACCRUED)).map (·.effectiveDate)

structure Accrual where
  db : Db
  running : Int := 0
  created : List LoanLateChargeEvent := []

/-- One round of the accrual loop; `deltaOn` is what the ledger held for the day before it. -/
def accrueDay (installmentId : Nat) (start : Int) (deltaOn : Int → Int) (state : Accrual)
    (row : Int × Int × Int) : Tx Accrual := do
  let (day, principal, expected) := row
  let running := state.running + deltaOn day
  refuseIf (running < 0) "Mora materializada não pode ser negativa."
  if day < start then return { state with running }
  let (db, event, isNew) := insertUniqueEvent state.db
    { loanInstallmentId := installmentId, eventType := .LATE_INTEREST_ACCRUED
      effectiveDate := day, amount := max 0 (expected - running), eligiblePrincipal := some principal }
  return { db, running := running + event.amount
           created := if isNew then state.created ++ [event] else state.created }

/-- Materialize the normal daily accruals through a civil date. -/
def materializeDailyLateInterest (db : Db) (installmentId : Nat) (throughDate : Int)
    (effectiveDate : Option Int) : Tx (Db × List LoanLateChargeEvent) := do
  if effectiveDate.isNone then return (db, [])
  let inst ← lockInstallment db installmentId
  if ¬ isLateChargeEligible inst.dueDate effectiveDate then return (db, [])
  if throughDate ≤ inst.dueDate then return (db, [])
  let start := (accruedDays db inst.id).foldl (fun start day => max start (day + 1)) (inst.dueDate + 1)
  let deltaOn := fun day => (((installmentEvents db inst.id).filter
    (fun e => e.effectiveDate = day)).map LoanLateChargeEvent.lateDelta).sum
  let schedule ← dailyLateSchedule db inst throughDate
  let accrual ← schedule.foldlM (accrueDay inst.id start deltaOn) { db }
  let accruedThrough := (accruedDays accrual.db inst.id).foldl
    (fun cursor day => some (cursor.elim day (max day))) inst.projection.accruedThroughDate
  let lateInterest ← lateInterestMaterialized accrual.db inst.id none
  let db ← flushInstallment accrual.db
    { inst with lateCharge := some { inst.projection with
        accruedThroughDate := accruedThrough, lateInterestAmount := lateInterest } }
  return (db, accrual.created)

/-- `_materialize_adjustment`: correct the late interest already accrued beyond a settlement
or a reversal that took effect earlier. -/
def materializeAdjustment (db : Db) (inst : LoanInstallment) (new : NewLateChargeEvent) :
    Tx (Db × Option LoanLateChargeEvent) := do
  match inst.projection.accruedThroughDate with
  | none => return (db, none)
  | some cursor =>
    if cursor < new.effectiveDate then return (db, none)
    match repeatedEvent? db new with
    | some existing => return (db, some existing)
    | none =>
      let current ← lateInterestMaterialized db inst.id (some cursor)
      let expected ← expectedLateInterest db inst cursor
      let amount := if new.eventType = .LATE_INTEREST_ADJUSTMENT_DECREASE
        then min (max 0 (current - expected)) current
        else max 0 (expected - current)
      let (db, event, _) := insertUniqueEvent db { new with amount }
      let lateInterest ← lateInterestMaterialized db inst.id none
      let db ← flushInstallment db
        { inst with lateCharge := some { inst.projection with lateInterestAmount := lateInterest } }
      return (db, some event)

def materializeSettlementLateInterestAdjustment (db : Db) (settlement : PaymentSettlement) :
    Tx (Db × Option LoanLateChargeEvent) := do
  match settlement.obligation with
  | .loanInstallment installmentId =>
    let inst ← lockInstallment db installmentId
    if inst.lateCharge.isNone then return (db, none)
    materializeAdjustment db inst
      { loanInstallmentId := inst.id, eventType := .LATE_INTEREST_ADJUSTMENT_DECREASE
        effectiveDate := settlement.financialDate + 1, amount := 0
        paymentSettlementId := some settlement.id }
  | _ => .error (.valueError "Settlement não referencia uma parcela de empréstimo.")

def materializeReversalLateInterestAdjustment (db : Db) (settlement : PaymentSettlement)
    (reversal : PaymentReversal) : Tx (Db × Option LoanLateChargeEvent) := do
  match settlement.obligation with
  | .loanInstallment installmentId =>
    let inst ← lockInstallment db installmentId
    if inst.lateCharge.isNone then return (db, none)
    materializeAdjustment db inst
      { loanInstallmentId := inst.id, eventType := .LATE_INTEREST_ADJUSTMENT_INCREASE
        effectiveDate := reversal.financialDate + 1, amount := 0
        paymentReversalId := some reversal.id }
  | _ => .error (.valueError "Reversão não referencia uma parcela de empréstimo.")

end Caixinha.Model
