import Caixinha.Model.Reversal

/-! Histories of one versioned installment: payments and reversals, each followed by its
late-interest correction, and the materializations between them. -/
namespace Caixinha.Model

open Caixinha.Library Table

/-- The columns of an installment that payments and their reversals write. -/
structure PaymentColumns where
  paidAmount : Int
  penaltyAmount : Int
  paidPenaltyAmount : Int
  paidFixedPenaltyAmount : Int
  paidLateInterestAmount : Int
  paidAt : Option Int
  status : ObligationStatus
  deriving DecidableEq, Repr

def LoanInstallment.withColumns (inst : LoanInstallment) (columns : PaymentColumns) :
    LoanInstallment :=
  { inst with
    paidAmount := columns.paidAmount
    penaltyAmount := columns.penaltyAmount
    paidPenaltyAmount := columns.paidPenaltyAmount
    paidAt := columns.paidAt
    status := columns.status
    lateCharge := inst.lateCharge.map (fun p => { p with
      paidFixedPenaltyAmount := columns.paidFixedPenaltyAmount
      paidLateInterestAmount := columns.paidLateInterestAmount }) }

inductive LateStep where
  | settle (settlement : PaymentSettlement) (columns : PaymentColumns)
  | reverse (settlementId : Nat) (reversal : PaymentReversal) (columns : PaymentColumns)
  | adjustSettlement (settlementId : Nat)
  | adjustReversal (settlementId : Nat)
  | assess (throughDate : Int) (effectiveDate : Option Int)
  | accrue (throughDate : Int) (effectiveDate : Option Int)
  deriving DecidableEq, Repr

section Step
variable (id : Nat) (db : Db)

/-- The settlement of the installment with an id. -/
def settlementOf (settlementId : Nat) : Tx PaymentSettlement :=
  orRefuse (db.settlements.find? (fun s => s.id = settlementId ∧ s.obligation = .loanInstallment id))
    "Settlement não referencia uma parcela de empréstimo."

def reversalOf (settlementId : Nat) : Tx PaymentReversal :=
  orRefuse (db.reversalOfSettlement? settlementId) "Reversão não encontrada."

/-- The next row of the settlements table, for the installment. -/
def nextSettlement (s : PaymentSettlement) : PaymentSettlement :=
  { s with id := nextKey PaymentSettlement.id db.settlements, obligation := .loanInstallment id }

/-- The next row of the reversals table; its amounts are those of the settlement. -/
def nextReversal (s : PaymentSettlement) (r : PaymentReversal) : PaymentReversal :=
  { r with
    id := nextKey PaymentReversal.id db.reversals
    paymentId := s.paymentId
    settlementId := s.id
    amounts := s.amounts }

def writeColumns (columns : PaymentColumns) : Tx Db := do
  let inst ← lockInstallment db id
  flushInstallment db (inst.withColumns columns)

def LateStep.apply : LateStep → Tx Db
  | .settle s columns => do
    let s := nextSettlement id db s
    checkSettlement s
    let db ← writeColumns id db columns
    let (db, _) ← materializeSettlementLateInterestAdjustment
      { db with settlements := db.settlements ++ [s] } s
    return db
  | .reverse settlementId r columns => do
    let s ← settlementOf id db settlementId
    let r := nextReversal db s r
    let db ← insertReversal db r
    let db ← writeColumns id db columns
    let (db, _) ← materializeReversalLateInterestAdjustment db s r
    return db
  | .adjustSettlement settlementId => do
    let s ← settlementOf id db settlementId
    let (db, _) ← materializeSettlementLateInterestAdjustment db s
    return db
  | .adjustReversal settlementId => do
    let s ← settlementOf id db settlementId
    let r ← reversalOf db settlementId
    let (db, _) ← materializeReversalLateInterestAdjustment db s r
    return db
  | .assess throughDate effectiveDate => do
    let (db, _) ← materializeFixedPenalty db id throughDate effectiveDate
    return db
  | .accrue throughDate effectiveDate => do
    let (db, _) ← materializeDailyLateInterest db id throughDate effectiveDate
    return db

/-- A step that fails is rolled back. -/
def LateStep.next (step : LateStep) : Db :=
  match step.apply id db with
  | .ok db' => db'
  | .error _ => db

/-- The state after a history. -/
def lateRun (steps : List LateStep) : Db := steps.foldl (fun db step => step.next id db) db

end Step

end Caixinha.Model
