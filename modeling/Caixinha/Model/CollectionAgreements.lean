import Caixinha.Model.DailyPenalty
import Caixinha.Model.Reversal

/-! Agreements that replace the debt of a loan: the request, the decision, and the histories of
worker runs and agreement payments after it. -/
namespace Caixinha.Model

open Caixinha.Library Table Decimal

/-- `(total/Decimal(n)).quantize(CENT, rounding=ROUND_HALF_UP)` -/
def splitBase (total : Int) (n : Nat) : Tx Int :=
  if n = 0 then .error .invalidOperation
  else
    let q := divide 28 total.natAbs n
    quantizedMoney ⟨total.sign * q.coefficient, q.exponent - 2⟩

/-- `_split`: equal parts, the last one takes the rest. -/
def split (total : Int) (n : Nat) : Tx (List Int) := do
  let base ← splitBase total n
  return List.replicate (n - 1) base ++ [total - (n - 1 : Nat) * base]

/-- The rows of a loan that are not paid. -/
def openInstallments (db : Db) (loanId : Nat) : List LoanInstallment :=
  db.loanInstallments.filter (fun i => i.loanId = loanId ∧ i.status ≠ .PAID)

/-- `outstanding_for_loan`: base and penalty of the open rows. -/
def outstandingForLoan (db : Db) (loanId : Nat) : Int × Int :=
  let rows := openInstallments db loanId
  ((rows.map (fun i => i.amount - i.paidAmount)).sum,
    (rows.map (fun i => i.penaltyAmount - i.paidPenaltyAmount)).sum)

/-- `request_agreement` -/
def requestAgreement (db : Db) (loanId installments : Nat) : Tx (Db × CollectionAgreement) := do
  let loan ← orRefuse ((db.loan? loanId).filter (fun l =>
    l.status = .ACTIVE ∨ l.status = .OVERDUE ∨ l.status = .IN_COLLECTION))
    "Empréstimo não elegível para acordo."
  let member ← orRefuse (db.member? loan.memberId) "Participante não encontrado."
  refuseIf (db.agreements.any (fun a => a.loanId = loan.id ∧ a.status = .REQUESTED))
    "Já existe uma solicitação de acordo pendente."
  let (base, penalty) := outstandingForLoan db loan.id
  refuseIf (base + penalty ≤ 0) "Não há saldo para renegociar."
  refuseIf (installments < 1 ∨ 24 < installments) "O acordo deve ter entre 1 e 24 parcelas."
  let agreement : CollectionAgreement :=
    { id := nextKey CollectionAgreement.id db.agreements
      loanId := loan.id
      memberId := member.id
      status := .REQUESTED
      stateRevision := 0
      installments
      totalAmount := base + penalty }
  return ({ db with agreements := db.agreements ++ [agreement] }, agreement)

/-- The installments of an approved agreement; the whole penalty goes into the first. -/
def replacementRows (db : Db) (agreement : CollectionAgreement) (today penalty : Int)
    (principalParts : List Int) : List AgreementInstallment :=
  principalParts.mapIdx (fun k principal =>
    let penaltyPart := if k = 0 then penalty else 0
    { id := nextKey AgreementInstallment.id db.agreementInstallments + k
      agreementId := agreement.id
      number := k + 1
      dueDate := Calendar.addMonths today (k + 1)
      principal
      penaltyAmount := penaltyPart
      amount := principal + penaltyPart
      paidAmount := 0
      paidPenaltyAmount := 0
      paidAt := none
      status := .OPEN })

def agreedInstallment (loanId : Nat) (inst : LoanInstallment) : LoanInstallment :=
  if inst.loanId = loanId ∧ inst.status ≠ .PAID then { inst with status := .AGREED } else inst

/-- What an approval writes. -/
def approveAgreement (db : Db) (today : Int) (agreement : CollectionAgreement) (loan : Loan) :
    Tx Db := do
  let (base, penalty) := outstandingForLoan db loan.id
  refuseIf (base + penalty ≤ 0 ∨ 1 < |base + penalty - agreement.totalAmount|)
    "O saldo do empréstimo mudou desde a solicitação; solicite um novo acordo."
  let principalParts ← split base agreement.installments
  let rows := replacementRows db agreement today penalty principalParts
  requireConstraint (¬ db.agreementInstallments.any (fun i =>
    i.agreementId = agreement.id ∧ i.number ∈ rows.map (·.number)))
    "uq_agreement_installment_number"
  return { db with
    loanInstallments := db.loanInstallments.map (agreedInstallment loan.id)
    agreementInstallments := db.agreementInstallments ++ rows
    loans := replace Loan.id db.loans (touchLoan { loan with status := .RESTRUCTURED }) }

/-- `_claim_collection_agreement` on a requested agreement. -/
def claimAgreement (db : Db) (clock : Int) (agreement : CollectionAgreement)
    (status : AgreementStatus) : Tx (Db × CollectionAgreement) := do
  requireConstraint (¬ db.agreements.any (fun a =>
    a.id ≠ agreement.id ∧ a.loanId = agreement.loanId ∧ a.status = status))
    "uq_agreement_loan_status"
  let claimed := { agreement with
    status, decidedAt := some clock, stateRevision := agreement.stateRevision + 1 }
  return (db.putAgreement claimed, claimed)

/-- `decide_agreement`; `today` is the civil date on the server. -/
def decideAgreement (db : Db) (clock today : Int) (agreementId : Nat) (approve : Bool) : Tx Db := do
  let requested ← orRefuse ((db.agreement? agreementId).filter (fun a => a.status = .REQUESTED))
    "Acordo não encontrado ou já decidido."
  let (db, agreement) ← claimAgreement db clock requested
    (if approve then .APPROVED else .REJECTED)
  let loan ← orRefuse (db.loan? agreement.loanId) "Dados do acordo inválidos."
  let _ ← orRefuse (db.member? agreement.memberId) "Dados do acordo inválidos."
  if approve then approveAgreement db today agreement loan else return db

/-- What may happen to an approved agreement: the worker runs, and its installments are paid and
their payments reversed. -/
inductive AgreementStep where
  | accrue (onDate : Int) (rate : Number)
  | pay (clock : Int) (paymentId : Nat) (c : Confirmation)
  | reverse (clock : Int) (paymentId adminId : Nat) (reason : String) (now : Option Timestamp)
  deriving DecidableEq, Repr

def AgreementStep.apply (env : Env) (db : Db) : AgreementStep → Tx Db
  | .accrue onDate rate => accrueOverduePenalties db onDate rate
  | .pay clock paymentId c => Prod.fst <$> settleConfirmedPixPayment env db clock paymentId c
  | .reverse clock paymentId adminId reason now =>
    Prod.fst <$> reversePayment env db clock paymentId adminId reason now

/-- A step that fails is rolled back. -/
def AgreementStep.next (env : Env) (db : Db) (step : AgreementStep) : Db :=
  match step.apply env db with
  | .ok db' => db'
  | .error _ => db

def agreementRun (env : Env) (db : Db) (steps : List AgreementStep) : Db :=
  steps.foldl (AgreementStep.next env) db

/-- What may happen to the installments of agreements: a charge is created, and payments of them are
settled and reversed, in any order. -/
inductive InstallmentStep where
  | charge (payment : Payment)
  | pay (clock : Int) (paymentId : Nat) (c : Confirmation)
  | reverse (clock : Int) (paymentId adminId : Nat) (reason : String) (now : Option Timestamp)
  deriving DecidableEq, Repr

/-- The payment is one of an agreement installment. -/
def paysInstallment (db : Db) (paymentId : Nat) : Bool :=
  (db.payment? paymentId).any fun p => match p.reference with
    | some (.agreementInstallment _) => true
    | _ => false

/-- The settlement of the payment, if any, is one of an agreement installment. -/
def settledInstallment (db : Db) (paymentId : Nat) : Bool :=
  (db.settlementOfPayment? paymentId).all fun s => match s.obligation with
    | .agreementInstallment _ => true
    | _ => false

/-- Payments of other obligations are no step of such a history. -/
def InstallmentStep.apply (env : Env) (db : Db) : InstallmentStep → Tx Db
  | .charge payment =>
    .ok { db with payments := db.payments ++ [{ payment with id := nextKey Payment.id db.payments }] }
  | .pay clock paymentId c =>
    if paysInstallment db paymentId then Prod.fst <$> settleConfirmedPixPayment env db clock paymentId c
    else .ok db
  | .reverse clock paymentId adminId reason now =>
    if settledInstallment db paymentId then
      Prod.fst <$> reversePayment env db clock paymentId adminId reason now
    else .ok db

def InstallmentStep.next (env : Env) (db : Db) (step : InstallmentStep) : Db :=
  match step.apply env db with
  | .ok db' => db'
  | .error _ => db

def installmentRun (env : Env) (db : Db) (steps : List InstallmentStep) : Db :=
  steps.foldl (InstallmentStep.next env) db

end Caixinha.Model
