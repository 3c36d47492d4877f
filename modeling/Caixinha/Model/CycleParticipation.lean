import Caixinha.Model.DailyPenalty
import Caixinha.Model.Operations

/-! Participation in a cycle: the civil-day charges of its contributions, the block of a
delinquent member and the voluntary exit. -/
namespace Caixinha.Model

open Caixinha.Library Table Decimal

section Charges

structure ContributionCharges where
  fixedPenalty : Int
  dailyInterest : Int
  deriving DecidableEq, Repr

/-- `DAILY_RATE`, the quotient of 0.20 and 30. -/
def contributionDailyRate : Number :=
  let q := divide 28 20 30
  ⟨q.coefficient, q.exponent - 2⟩

def contributionFixedPenalty : Int := 1000

/-- Where the walk over the payments of a contribution stands. -/
structure ChargeWalk where
  balance : Int
  latePrincipal : Int
  start : Int
  exactInterest : Number
  deriving DecidableEq, Repr

/-- `balance * Decimal(days) * DAILY_RATE` added to the interest so far. -/
def ChargeWalk.accrued (w : ChargeWalk) (days : Int) : Number :=
  add 28 w.exactInterest (mul 28 (mul 28 ⟨w.balance, -2⟩ ⟨days, 0⟩) contributionDailyRate)

/-- One payment of the sorted history; those after the date only have to be valid. -/
def chargeStep (dueDate through : Int) (w : ChargeWalk) (payment : Int × Int) : Tx ChargeWalk := do
  let (paidDate, amount) := payment
  refuseIf (amount < 0 ∨ w.balance < amount) "invalid principal payment history"
  if through < paidDate then return w
  let walked :=
    if paidDate ≤ dueDate then { w with latePrincipal := w.latePrincipal - amount }
    else if w.start < paidDate then
      { w with exactInterest := w.accrued (paidDate - w.start), start := paidDate }
    else w
  return { walked with balance := w.balance - amount }

def calculateContributionCharges (principal dueDate through : Int)
    (principalPayments : List (Int × Int)) : Tx ContributionCharges := do
  refuseIf (principal < 0) "principal must be nonnegative"
  let walk ← (principalPayments.insertionSort (fun a b => a.1 ≤ b.1)).foldlM
    (chargeStep dueDate through)
    { balance := principal, latePrincipal := principal, start := dueDate + 1, exactInterest := ⟨0, 0⟩ }
  let exactInterest :=
    if walk.start ≤ through then walk.accrued (through - walk.start + 1) else walk.exactInterest
  let dailyInterest ← quantizedMoney exactInterest
  return { fixedPenalty := if dueDate < through ∧ 0 < walk.latePrincipal then contributionFixedPenalty else 0
           dailyInterest }

end Charges

section History
variable (db : Db)

/-- The settlements of a contribution by confirmation and id. -/
def contributionSettlements (contributionId : Nat) : List PaymentSettlement :=
  (db.settlements.filter (fun s => s.obligation = .contribution contributionId)).insertionSort
    (fun a b => a.confirmedAt < b.confirmedAt ∨ (a.confirmedAt = b.confirmedAt ∧ a.id ≤ b.id))

/-- The dated principal of a settlement that no reversal up to the day takes back. -/
def historyItem (through : Int) (s : PaymentSettlement) : Option (Int × Int) :=
  if (db.reversalOfSettlement? s.id).any (fun r => financialCivilDate r.reversedAt ≤ through) then none
  else some (financialCivilDate s.confirmedAt, s.amounts.principalApplied)

/-- The payment that paid a contribution before settlements existed. -/
def legacyPayment? (c : Contribution) (current : Int) : Option Int := do
  let payment ← c.paymentId.bind db.payment?
  let confirmedAt ← payment.confirmedAt
  guard (payment.status = "approved")
  guard (payment.reference = none ∨ payment.reference = some (.contribution c.id))
  guard (payment.amountReceived.getD payment.amount = current)
  return confirmedAt

def paymentHistory (c : Contribution) (through : Int) : Tx (List (Int × Int)) :=
  let settlements := contributionSettlements db c.id
  let history := settlements.filterMap (historyItem db through)
  let current := contributionPaidAmount c
  if (history.map Prod.snd).sum = current then .ok history
  else
    match settlements, c.paidAt, legacyPayment? db c current with
    | [], some paidAt, legacy =>
      if current = c.amount then .ok [(financialCivilDate paidAt, current)]
      else
        match legacy with
        | some confirmedAt => .ok [(financialCivilDate confirmedAt, current)]
        | none => .error (.valueError s!"contribution {c.id} has no complete dated principal history")
    | [], none, some confirmedAt => .ok [(financialCivilDate confirmedAt, current)]
    | _, _, _ => .error (.valueError s!"contribution {c.id} has no complete dated principal history")

end History

section Overdue

/-- `value.year * 12 + value.month` -/
def monthIndex (day : Int) : Int :=
  (Calendar.civilOfDay day).year * 12 + (Calendar.civilOfDay day).month

def isOverdue (asOf : Int) (c : Contribution) : Bool :=
  c.dueDate.any (· < asOf) ∧ contributionPaidAmount c < c.amount

/-- The loop over the contributions by competence: three overdue ones in consecutive months. -/
def overdueStreak (asOf : Int) (streak : Nat) (previous : Option Int) : List Contribution → Tx Bool
  | [] => .ok false
  | c :: rest =>
    if c.cancelledAt.isSome ∨ c.dueDate.isNone then overdueStreak asOf 0 none rest
    else if previous = some (monthIndex c.competence) then
      .error (.valueError "duplicate monthly competence")
    else
      let streak :=
        if isOverdue asOf c ∧ previous = some (monthIndex c.competence - 1) then streak + 1
        else if isOverdue asOf c then 1 else 0
      if 3 ≤ streak then .ok true
      else overdueStreak asOf streak (some (monthIndex c.competence)) rest

def consecutiveOverdue (contributions : List Contribution) (asOf : Int) : Tx Bool :=
  overdueStreak asOf 0 none (contributions.insertionSort (fun a b => a.competence ≤ b.competence))

end Overdue

section Participation
variable (db : Db) (memberId cycleId : Nat)

def participation? : Option CycleParticipation :=
  db.participations.find? (fun p => p.memberId = memberId ∧ p.cycleId = cycleId)

/-- The contributions of a member in a cycle, by competence and id. -/
def memberContributions : List Contribution :=
  (db.contributions.filter (fun c => c.memberId = memberId ∧ c.cycleId = some cycleId)).insertionSort
    (fun a b => a.competence < b.competence ∨ (a.competence = b.competence ∧ a.id ≤ b.id))

/-- `_participation` with `create`; a day of entry begins at midnight in Belem. -/
def getOrCreateParticipation (clock : Int) (entryDate : Option Int) : Tx (Db × CycleParticipation) := do
  match participation? db memberId cycleId with
  | some row => return (db, row)
  | none =>
    refuseIf (db.quotas.all (fun q => ¬ (q.memberId = memberId ∧ q.cycleId = some cycleId)))
      "member has no quota in cycle"
    let row : CycleParticipation :=
      { id := nextKey CycleParticipation.id db.participations, cycleId, memberId, state := .active
        joinedAt := some (entryDate.elim clock (fun day => day * dayLength + belemOffset)) }
    return ({ db with participations := db.participations ++ [row] }, row)

def ensureActiveParticipation (clock : Int) (entryDate : Option Int) :
    Tx (Db × CycleParticipation) := do
  let (locked, _) ← lockMemberFinancialAccount db memberId
  let (db', row) ← getOrCreateParticipation locked memberId cycleId clock entryDate
  refuseIf (row.state ≠ .active) "participation is closed for this cycle"
  return (db', row)

/-- `_effective_at` -/
def effectiveAtUtc (clock : Int) : Option Timestamp → Tx Int
  | none => .ok clock
  | some t => if t.aware then .ok t.instant else .error (.valueError "effective_at must be timezone-aware")

end Participation

namespace Db

def putParticipation (db : Db) (row : CycleParticipation) : Db :=
  { db with participations := replace CycleParticipation.id db.participations row }

end Db

/-- The columns of a new charge event that its caller chooses. -/
structure NewChargeEvent where
  contributionId : Nat
  participationId : Nat
  eventType : ContributionChargeEventType
  accruedThrough : Int
  charges : ContributionCharges
  cancelledPrincipal : Int
  deriving DecidableEq, Repr

def addChargeEvent (clock : Int) (db : Db) (new : NewChargeEvent) : Tx Db := do
  requireConstraint (db.contributionChargeEvents.all (fun e =>
      ¬ (e.contributionId = new.contributionId ∧ e.eventType = new.eventType ∧
        e.accruedThrough = new.accruedThrough)))
    "uq_contribution_charge_events_snapshot"
  requireConstraint (0 ≤ new.charges.fixedPenalty ∧ 0 ≤ new.charges.dailyInterest ∧
    0 ≤ new.cancelledPrincipal) "ck_contribution_charge_events_nonnegative"
  let event : ContributionChargeEvent :=
    { id := nextKey ContributionChargeEvent.id db.contributionChargeEvents
      contributionId := new.contributionId
      eventType := new.eventType
      accruedThrough := new.accruedThrough
      fixedPenalty := new.charges.fixedPenalty
      dailyInterest := new.charges.dailyInterest
      createdAt := clock
      participationId := new.participationId
      ruleVersion := "contribution-late-v1"
      cancelledPrincipal := new.cancelledPrincipal }
  return { db with contributionChargeEvents := db.contributionChargeEvents ++ [event] }

section Evaluate

/-- What a block finds of one contribution. -/
structure ChargeSnapshot where
  contribution : Contribution
  charges : ContributionCharges
  principalOpen : Int
  deriving DecidableEq, Repr

def ChargeSnapshot.isOpen (s : ChargeSnapshot) : Bool :=
  s.charges.fixedPenalty ≠ 0 ∨ s.charges.dailyInterest ≠ 0 ∨ s.principalOpen ≠ 0

def chargesOn (db : Db) (civil dueDate : Int) (c : Contribution) : Tx ContributionCharges := do
  let history ← paymentHistory db c civil
  calculateContributionCharges c.amount dueDate civil history

def chargeSnapshot (db : Db) (civil : Int) (c : Contribution) : Tx ChargeSnapshot := do
  let dueDate ← orRefuse c.dueDate s!"contribution {c.id} has no due date"
  let charges ← chargesOn db civil dueDate c
  return { contribution := c, charges, principalOpen := max 0 (c.amount - contributionPaidAmount c) }

/-- One snapshot of a block: its event, and the contribution cancelled when it is open. -/
def freeze (clock when_ civil : Int) (participationId : Nat) (db : Db) (s : ChargeSnapshot) : Tx Db := do
  let db' ← addChargeEvent clock db
    { contributionId := s.contribution.id, participationId, eventType := .BLOCK_FREEZE
      accruedThrough := civil, charges := s.charges, cancelledPrincipal := s.principalOpen }
  return cancelContribution db' s.contribution.id "BLOCKED_DELINQUENCY" when_

def evaluateDelinquency (db : Db) (clock : Int) (memberId cycleId : Nat)
    (effectiveAt : Option Timestamp) : Tx (Db × CycleParticipation) := do
  let when_ ← effectiveAtUtc clock effectiveAt
  let civil := financialCivilDate when_
  let (locked, _) ← lockMemberFinancialAccount db memberId
  let (db', row) ← getOrCreateParticipation locked memberId cycleId clock none
  if row.state ≠ .active then return (db', row)
  let contributions := memberContributions db' memberId cycleId
  if ← consecutiveOverdue contributions civil then
    let snapshots ← contributions.mapM (chargeSnapshot db' civil)
    let blocked := { row with
      state := .blockedDelinquency when_, blockReason := some "THREE_CONSECUTIVE_OVERDUE" }
    let frozen ← (snapshots.filter ChargeSnapshot.isOpen).foldlM
      (freeze clock when_ civil row.id) (db'.putParticipation blocked)
    return (frozen, blocked)
  else return (db', row)

end Evaluate

section Materialize

/-- The last accrual snapshot of a contribution. -/
def lastAccrual? (db : Db) (contributionId : Nat) : Option ContributionChargeEvent :=
  ((db.contributionChargeEvents.filter (fun e => e.contributionId = contributionId ∧
    e.eventType = .ACCRUAL_SNAPSHOT)).insertionSort
      (fun a b => b.accruedThrough ≤ a.accruedThrough)).head?

/-- One contribution of the daily run: a snapshot when its charges changed. -/
def materializeCharges (clock civil : Int) (participationId : Nat) (db : Db) (c : Contribution) :
    Tx Db := do
  match c.dueDate with
  | none => return db
  | some dueDate =>
    let charges ← chargesOn db civil dueDate c
    if charges.fixedPenalty = 0 ∧ charges.dailyInterest = 0 then return db
    if (lastAccrual? db c.id).any (fun e =>
        e.fixedPenalty = charges.fixedPenalty ∧ e.dailyInterest = charges.dailyInterest) then return db
    addChargeEvent clock db
      { contributionId := c.id, participationId, eventType := .ACCRUAL_SNAPSHOT
        accruedThrough := civil, charges, cancelledPrincipal := 0 }

def materializeActiveCharges (db : Db) (clock : Int) (memberId cycleId : Nat)
    (effectiveAt : Option Timestamp) : Tx Db := do
  let when_ ← effectiveAtUtc clock effectiveAt
  let civil := financialCivilDate when_
  let (locked, _) ← lockMemberFinancialAccount db memberId
  let (db', row) ← getOrCreateParticipation locked memberId cycleId clock none
  if row.state ≠ .active then return db'
  (db'.contributions.filter (fun c => c.memberId = memberId ∧ c.cycleId = some cycleId ∧
    c.dueDate.any (· < civil) ∧ c.cancelledAt = none)).foldlM (materializeCharges clock civil row.id) db'

end Materialize

section Exit

/-- An overdue contribution that is not cancelled and not paid. -/
def isUnpaidOverdue (civil : Int) (c : Contribution) : Bool :=
  c.cancelledAt = none ∧ c.dueDate.any (· < civil) ∧ contributionPaidAmount c < c.amount

/-- Contributions due before the day owe no charges. -/
def checkExitCharges (db : Db) (civil : Int) (c : Contribution) : Tx Unit :=
  match c.dueDate with
  | none => .ok ()
  | some dueDate => do
    if civil ≤ dueDate ∨ c.cancelledAt.isSome then return
    let charges ← chargesOn db civil dueDate c
    refuseIf (0 < charges.fixedPenalty ∨ 0 < charges.dailyInterest)
      "member has unpaid contribution late charges"

def overdueLoanInstallments (db : Db) (memberId : Nat) (onDate : Int) : List LoanInstallment :=
  db.loanInstallments.filter (fun i => i.dueDate < onDate ∧ 0 < installmentDue i ∧
    db.loans.any (fun loan => loan.memberId = memberId ∧ loan.id = i.loanId))

def overdueAgreementInstallments (db : Db) (memberId : Nat) (civil : Int) : List AgreementInstallment :=
  db.agreementInstallments.filter (fun i => i.dueDate < civil ∧ i.status ≠ .PAID ∧
    db.agreements.any (fun a => a.memberId = memberId ∧ a.status = .APPROVED ∧ a.id = i.agreementId))

def voluntaryExit (db : Db) (clock : Int) (memberId cycleId : Nat) (effectiveAt : Option Timestamp) :
    Tx (Db × CycleParticipation) := do
  let when_ ← effectiveAtUtc clock effectiveAt
  let civil := financialCivilDate when_
  let (locked, _) ← lockMemberFinancialAccount db memberId
  let (db', row) ← getOrCreateParticipation locked memberId cycleId clock none
  refuseIf (row.state ≠ .active) "participation is closed for this cycle"
  let contributions :=
    db'.contributions.filter (fun c => c.memberId = memberId ∧ c.cycleId = some cycleId)
  refuseIf (contributions.any (isUnpaidOverdue civil)) "member has overdue contributions"
  let _ ← contributions.mapM (checkExitCharges db' civil)
  refuseIf (overdueLoanInstallments db' memberId (utcDate when_) ≠ [])
    "member has overdue loan installments"
  refuseIf (overdueAgreementInstallments db' memberId civil ≠ [])
    "member has overdue agreement installments"
  let exited := { row with state := .voluntarilyExited when_ }
  return ((contributions.foldl (fun db c => cancelContribution db c.id "VOLUNTARY_EXIT" when_)
    (db'.putParticipation exited)), exited)

end Exit

end Caixinha.Model
