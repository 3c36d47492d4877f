import Caixinha.Model.CycleParticipation

/-! Quotas of a cycle, the monthly contributions they owe, and the daily unit of work on one
participation. -/
namespace Caixinha.Model

open Caixinha.Library Table

section Quotas
variable (db : Db)

/-- `create_quota`; the units of a cycle are counted whatever the status of the quota. -/
def createQuota (memberId cycleId : Nat) (units : Int) : Tx (Db × Quota) := do
  refuseIf (units < 1) "quota units must be a positive integer"
  let cycle ← orRefuse (db.cycle? cycleId) "cycle not found"
  let member ← orRefuse (db.member? memberId) "member not found"
  refuseIf ((participation? db member.id cycle.id).any (fun p => p.state ≠ .active))
    "participation is closed for this cycle"
  let total := ((db.quotas.filter (fun q => q.cycleId = some cycle.id)).map Quota.units).sum
  refuseIf (cycle.maxQuotas < total + units.toNat) "cycle quota capacity exceeded"
  let quota : Quota :=
    { id := nextKey Quota.id db.quotas, memberId := member.id, cycleId := some cycle.id
      units := units.toNat, active := true }
  return ({ db with quotas := db.quotas ++ [quota] }, quota)

/-- The active units of a member in a cycle. -/
def activeUnits (memberId cycleId : Nat) : Nat :=
  ((db.quotas.filter (fun q => q.memberId = memberId ∧ q.cycleId = some cycleId ∧ q.active)).map
    Quota.units).sum

def quotaUnits (memberId cycleId : Nat) : Tx Nat := do
  refuseIf (activeUnits db memberId cycleId = 0) "member has no active quota in cycle"
  return activeUnits db memberId cycleId

def authoritativeAmount (memberId cycleId : Nat) : Tx Int := do
  let cycle ← orRefuse (db.cycle? cycleId) "cycle not found"
  let units ← quotaUnits db memberId cycleId
  quantizedMoney (Decimal.mul 28 ⟨cycle.monthlyAmount.val, -2⟩ ⟨units, 0⟩)

end Quotas

section Contributions
variable (db : Db) (clock : Int) (memberId cycleId : Nat)

/-- The first day of the month with an index of `monthIndex`. -/
def monthOfIndex (index : Int) : Int := Calendar.firstOfMonth (index - 1)

/-- The tenth of the month of a competence. -/
def contributionDueDate (competence : Int) : Int :=
  let c := Calendar.civilOfDay competence
  Calendar.dayOfCivil { c with day := min 10 (Calendar.monthLength c.year c.month) }

def contributionOf? (competence : Int) : Option Contribution :=
  db.contributions.find?
    (fun c => c.memberId = memberId ∧ c.cycleId = some cycleId ∧ c.competence = competence)

def createContribution (competence entryDate : Int) : Tx (Db × Contribution) := do
  let cycle ← orRefuse (db.cycle? cycleId) "cycle not found"
  refuseIf (participation? db memberId cycleId = none ∧ cycle.entryDeadline < entryDate)
    "cycle entry deadline exceeded"
  refuseIf (entryDate < cycle.startDate) "entry precedes cycle"
  refuseIf ((Calendar.civilOfDay competence).day ≠ 1) "competence must be the first day of a month"
  refuseIf (competence < Calendar.monthStart cycle.startDate) "competence precedes cycle"
  refuseIf (monthIndex cycle.startDate + cycle.months ≤ monthIndex competence) "competence exceeds cycle"
  let (joined, _) ← ensureActiveParticipation db memberId cycleId clock (some entryDate)
  match contributionOf? joined memberId cycleId competence with
  | some existing =>
    let expected ← authoritativeAmount joined memberId cycleId
    refuseIf (existing.amount ≠ expected) "existing contribution amount is not authoritative"
    return (joined, existing)
  | none =>
    let amount ← authoritativeAmount joined memberId cycleId
    let contribution : Contribution :=
      { id := nextKey Contribution.id joined.contributions, memberId, competence, amount
        status := .PENDING, paymentId := none, dueDate := some (contributionDueDate competence)
        paidAmount := some 0, paidAt := none, cancelledAt := none, cancellationReason := none
        cycleId := some cycleId }
    return ({ joined with contributions := joined.contributions ++ [contribution] }, contribution)

/-- The months of the cycle that have begun on a day, at most all of them. -/
def elapsedMonths (cycle : Cycle) (entryDate : Int) : Nat :=
  (min (cycle.months : Int) (monthIndex entryDate - monthIndex cycle.startDate + 1)).toNat

/-- One month of the loop, with the contributions so far. -/
def ensureMonth (cycle : Cycle) (entryDate : Int) (progress : Db × List Contribution) (offset : Nat) :
    Tx (Db × List Contribution) := do
  let (db', contribution) ← createContribution progress.1 clock memberId cycleId
    (monthOfIndex (monthIndex cycle.startDate + offset)) entryDate
  return (db', progress.2 ++ [contribution])

def ensureContributionsForEntry (entryDate : Int) : Tx (Db × List Contribution) := do
  let cycle ← orRefuse (db.cycle? cycleId) "cycle not found"
  refuseIf (participation? db memberId cycleId = none ∧ cycle.entryDeadline < entryDate)
    "cycle entry deadline exceeded"
  refuseIf (entryDate < cycle.startDate) "entry precedes cycle"
  let (joined, _) ← ensureActiveParticipation db memberId cycleId clock (some entryDate)
  (List.range (elapsedMonths cycle entryDate)).foldlM
    (ensureMonth clock memberId cycleId cycle entryDate) (joined, [])

end Contributions

/-- The work of one unit of the daily run: contributions, then charges, then delinquency. -/
def participationUnit (db : Db) (clock scheduledFor financialDate : Int) (cycleId participationId : Nat) :
    Tx (Db × Option CycleParticipation) := do
  match lookup CycleParticipation.id db.participations participationId with
  | none => return (db, none)
  | some row =>
    if row.state ≠ .active ∨ row.cycleId ≠ cycleId then return (db, none)
    match db.cycle? cycleId with
    | none => return (db, none)
    | some cycle =>
      if financialDate < cycle.startDate then return (db, none)
      let (issued, _) ← ensureContributionsForEntry db clock row.memberId row.cycleId financialDate
      let charged ← materializeActiveCharges issued clock row.memberId row.cycleId (some ⟨scheduledFor, true⟩)
      let (evaluated, result) ← evaluateDelinquency charged clock row.memberId row.cycleId
        (some ⟨scheduledFor, true⟩)
      return (evaluated, some result)

/-- The operations on a cycle, with the payments of its contributions. -/
inductive CycleOp where
  | buyQuota (memberId cycleId : Nat) (units : Int)
  | issue (memberId cycleId : Nat) (entryDate : Int)
  | daily (scheduledFor financialDate : Int) (cycleId participationId : Nat)
  | materialize (memberId cycleId : Nat) (effectiveAt : Option Timestamp)
  | evaluate (memberId cycleId : Nat) (effectiveAt : Option Timestamp)
  | exit (memberId cycleId : Nat) (effectiveAt : Option Timestamp)
  | settle (paymentId : Nat) (c : Confirmation)
  | reverse (paymentId adminId : Nat) (reason : String) (now : Option Timestamp)
  deriving DecidableEq, Repr

/-- One operation at an instant of the clock. -/
def attemptCycle (env : Env) (db : Db) (clock : Int) : CycleOp → Tx Db
  | .buyQuota memberId cycleId units => Prod.fst <$> createQuota db memberId cycleId units
  | .issue memberId cycleId entryDate =>
    Prod.fst <$> ensureContributionsForEntry db clock memberId cycleId entryDate
  | .daily scheduledFor financialDate cycleId participationId =>
    Prod.fst <$> participationUnit db clock scheduledFor financialDate cycleId participationId
  | .materialize memberId cycleId effectiveAt =>
    materializeActiveCharges db clock memberId cycleId effectiveAt
  | .evaluate memberId cycleId effectiveAt =>
    Prod.fst <$> evaluateDelinquency db clock memberId cycleId effectiveAt
  | .exit memberId cycleId effectiveAt =>
    Prod.fst <$> voluntaryExit db clock memberId cycleId effectiveAt
  | .settle paymentId c => Prod.fst <$> settleConfirmedPixPayment env db clock paymentId c
  | .reverse paymentId adminId reason now =>
    Prod.fst <$> reversePayment env db clock paymentId adminId reason now

/-- An operation that fails is rolled back. -/
def executeCycle (env : Env) (db : Db) (op : Int × CycleOp) : Db :=
  match attemptCycle env db op.1 op.2 with
  | .ok db' => db'
  | .error _ => db

def runCycle (env : Env) (db : Db) (ops : List (Int × CycleOp)) : Db := ops.foldl (executeCycle env) db

end Caixinha.Model
