import Caixinha.Model.OwnBalance
import Caixinha.Model.PixAttempts

/-! The operations of the program on the money of the group, each one transaction, and the
state after any sequence of them. -/
namespace Caixinha.Model

open Caixinha.Library Table

def cancelledContribution (c : Contribution) (reason : String) (when_ : Int) : Contribution :=
  { c with cancelledAt := some when_, cancellationReason := some reason, status := .CANCELLED }

/-- `_cancel`: an unpaid contribution is cancelled once. -/
def cancelContribution (db : Db) (contributionId : Nat) (reason : String) (when_ : Int) : Db :=
  match db.contribution? contributionId with
  | none => db
  | some c =>
    if c.cancelledAt.isSome ∨ c.amount ≤ contributionPaidAmount c then db
    else db.putContribution (cancelledContribution c reason when_)

/-- What the provider reports of a payment, kept before anything is settled. -/
def keepEvidence (db : Db) (paymentId : Nat) (status : String) (received : Option Int) : Db :=
  match db.payment? paymentId with
  | none => db
  | some p => db.putPayment { p with status, amountReceived := received <|> p.amountReceived }

def loanDisbursement (loan : Loan) : NewLedgerEntry where
  account := "CAIXINHA"
  direction := .DEBIT
  amount := loan.principal
  referenceType := .LOAN_DISBURSEMENT
  referenceId := toString loan.id

def loanCommitment (loan : Loan) : NewMemberEntry where
  entryType := .LOAN_PRINCIPAL_COMMITMENT
  direction := .CREDIT
  amount := loan.principal
  referenceType := some .LOAN_PRINCIPAL_COMMITMENT
  referenceId := some (toString loan.id)

def hasCommitment (db : Db) (loanId : Nat) : Bool :=
  db.memberEntries.any (fun e => e.entryType = .LOAN_PRINCIPAL_COMMITMENT ∧
    e.referenceType = some .LOAN_PRINCIPAL_COMMITMENT ∧ e.referenceId = some (toString loanId))

/-- Commit the member's balance to the principal of a loan once. -/
def commitPrincipal (db : Db) (clock : Int) (account : MemberFinancialAccount) (loan : Loan) :
    Tx Db := do
  if hasCommitment db loan.id then return db
  let (db, _) ← addMemberFinancialEntry db clock account (loanCommitment loan)
  return db

/-- `release_loan`; the flag tells whether funds left now. -/
def releaseLoan (env : Env) (db : Db) (clock : Int) (loanId : Nat) : Tx (Db × Bool) := do
  let loan ← orRefuse (db.loan? loanId) "Empréstimo não encontrado."
  let (db, account) ← lockMemberFinancialAccount db loan.memberId
  match db.ledgerEntries.find? (fun e => e.referenceType = .LOAN_DISBURSEMENT ∧
      e.referenceId = toString loan.id) with
  | some exists_ =>
    if loan.status = .ACTIVE ∧ loan.disbursedAt.isSome then return (db, false)
    return (db.putLoan (touchLoan { loan with
      status := .ACTIVE, disbursedAt := some (loan.disbursedAt.getD exists_.createdAt) }), false)
  | none =>
    refuseIf (loan.status ≠ .APPROVED) "Somente empréstimos aprovados podem ser liberados."
    let (db, _) ← postEntry env db clock (loanDisbursement loan)
    let db ← commitPrincipal db clock account loan
    return (db.putLoan (touchLoan { loan with status := .ACTIVE, disbursedAt := some clock }), true)

/-- `create_expense` -/
def createExpense (env : Env) (db : Db) (clock amount : Int) : Tx Db := do
  let expense : Expense := { id := nextKey Expense.id db.expenses, amount }
  let (db, _) ← postEntry env { db with expenses := db.expenses ++ [expense] } clock
    { account := "CAIXINHA", direction := .DEBIT, amount, referenceType := .EXPENSE
      referenceId := toString expense.id }
  return db

/-- `POST /ledger/{entry_id}/reverse` -/
def ledgerReverse (env : Env) (db : Db) (clock : Int) (entryId : Nat) (reason : String) : Tx Db := do
  let original ← orRefuse (db.ledgerEntry? entryId) "Lançamento não encontrado."
  let (db, _) ← reverseEntry env db clock original reason
  return db

inductive Operation where
  | settle (paymentId : Nat) (c : Confirmation)
  | reverse (paymentId adminId : Nat) (reason : String) (now : Option Timestamp)
  | evidence (paymentId : Nat) (status : String) (received : Option Int)
  | cancel (contributionId : Nat) (reason : String)
  | reserve (installmentId : Nat) (now : Option Timestamp)
  | bindProvider (attemptId : Nat) (result : ProviderResult)
  | markAmbiguous (attemptId : Nat)
  | approve (paymentId : Nat) (confirmedAt : Option Timestamp) (payload : RemotePayload)
  | settleWithOwnBalance (loanId : Nat) (financialAt : Option Timestamp)
  | renegotiateWithOwnBalance (loanId : Nat) (amount : Int)
  | releaseLoan (loanId : Nat)
  | expense (amount : Int)
  | ledgerReverse (entryId : Nat) (reason : String)
  deriving DecidableEq, Repr

/-- One operation at an instant of the clock. -/
def attempt (env : Env) (db : Db) (clock : Int) : Operation → Tx Db
  | .settle paymentId c => Prod.fst <$> settleConfirmedPixPayment env db clock paymentId c
  | .reverse paymentId adminId reason now =>
    Prod.fst <$> reversePayment env db clock paymentId adminId reason now
  | .evidence paymentId status received => .ok (keepEvidence db paymentId status received)
  | .cancel contributionId reason => .ok (cancelContribution db contributionId reason clock)
  | .reserve installmentId now => Reservation.db <$> reserve env db clock installmentId now
  | .bindProvider attemptId result => .ok (bindProvider db attemptId result)
  | .markAmbiguous attemptId => .ok (markAmbiguous db attemptId)
  | .approve paymentId confirmedAt payload =>
    Prod.fst <$> approveOrReconcile env db clock paymentId confirmedAt payload
  | .settleWithOwnBalance loanId financialAt =>
    Prod.fst <$> settleLoanWithOwnBalance db clock loanId financialAt
  | .renegotiateWithOwnBalance loanId amount =>
    Prod.fst <$> renegotiateLoanWithOwnBalance db clock loanId amount
  | .releaseLoan loanId => Prod.fst <$> Model.releaseLoan env db clock loanId
  | .expense amount => createExpense env db clock amount
  | .ledgerReverse entryId reason => Model.ledgerReverse env db clock entryId reason

/-- An operation that fails is rolled back. -/
def execute (env : Env) (db : Db) (op : Int × Operation) : Db :=
  match attempt env db op.1 op.2 with
  | .ok db' => db'
  | .error _ => db

/-- The state after a sequence of operations, each with its reading of the clock. -/
def run (env : Env) (db : Db) (ops : List (Int × Operation)) : Db := ops.foldl (execute env) db

end Caixinha.Model
