import Caixinha.Model.LoanObligation
import Caixinha.Model.MemberFinancial
import Caixinha.Model.Receipts

/-! Settlement of a payment the provider confirmed: one branch for each kind of obligation
and the evidence row all of them end in. -/
namespace Caixinha.Model

open Caixinha.Library Table

/-- The parts of the provider's answer the settlement reads. -/
structure RemotePayload where
  externalReference : Option String := none
  statusDetail : Option String := none
  txid : Option String := none
  endToEndId : Option String := none
  deriving DecidableEq, Repr

/-- How a payment was confirmed. -/
structure Confirmation where
  source : String
  webhookEventId : Option Nat := none
  remotePayload : Option RemotePayload := none
  confirmedAt : Option Timestamp := none
  deriving DecidableEq, Repr

def contributionPaidAmount (c : Contribution) : Int :=
  c.paidAmount.getD (if c.status = .PAID then c.amount else 0)

def contributionFinancialStatus (c : Contribution) (paidAmount : Int) (asOf : Int) :
    ObligationStatus :=
  if c.cancelledAt.isSome then .CANCELLED
  else if c.amount - paidAmount ≤ 0 then .PAID
  else if c.dueDate.any (· < financialCivilDate asOf) then .OVERDUE
  else if c.paidAmount.isNone ∧ c.status ∈ [.PENDING, .PARTIAL, .OVERDUE] then c.status
  else if 0 < paidAmount then .PARTIAL else .PENDING

def installmentFinancialStatus (inst : LoanInstallment) (asOf : Int) : ObligationStatus :=
  if inst.amount - inst.paidAmount + max 0 (inst.penaltyAmount - inst.paidPenaltyAmount) ≤ 0 then .PAID
  else if inst.dueDate < utcDate asOf then .OVERDUE
  else if 0 < inst.paidAmount ∨ 0 < inst.paidPenaltyAmount then .PARTIAL else .PENDING

/-- The contribution a payment refers to, or the one that points back at the payment. -/
def lockedContribution (db : Db) (payment : Payment) : Tx (Option Contribution) :=
  match payment.reference with
  | some (.contribution id) => .ok (db.contribution? id)
  | _ =>
    match db.contributions.filter (fun c => c.paymentId = some payment.id) with
    | [] => .ok none
    | [c] => .ok (some c)
    | _ => .error .multipleResultsFound

def lockedInstallment (db : Db) (payment : Payment) : Option LoanInstallment :=
  match payment.reference with
  | some (.loanInstallment id) => db.installment? id
  | _ => none

/-- What a branch did to the obligation, and the evidence it leaves. -/
structure Application where
  db : Db
  memberId : Nat
  obligation : Obligation
  receiptVersion : ReceiptVersion
  principalApplied : Int := 0
  interestApplied : Int := 0
  penaltyApplied : Int := 0
  components : Option LateChargeComponents := none
  statusBefore : ObligationStatus
  statusAfter : ObligationStatus
  loanEvidence : Option LoanEvidence := none
  agreementEvidence : Option AgreementEvidence := none
  /-- the account to credit and the contribution that became paid -/
  becamePaid : Option (MemberFinancialAccount × Contribution) := none

/-- A credit of the CAIXINHA account for one component of a payment. -/
def paymentCredit (payment : Payment) (type : LedgerReferenceType) (amount : Int) :
    NewLedgerEntry where
  account := "CAIXINHA"
  direction := .CREDIT
  amount := amount
  referenceType := type
  referenceId := toString payment.id

def ledgerHas (db : Db) (type : LedgerReferenceType) (referenceId : String) : Bool :=
  db.ledgerEntries.any (fun e => e.referenceType = type ∧ e.referenceId = referenceId)

/-- Post a component unless it is already there. -/
def postOnce (env : Env) (db : Db) (clock : Int) (new : NewLedgerEntry) : Tx Db := do
  if ledgerHas db new.referenceType new.referenceId then return db
  let (db, _) ← postEntry env db clock new
  return db

/-- Post a component of a positive amount. -/
def postPositive (env : Env) (db : Db) (clock : Int) (new : NewLedgerEntry) : Tx Db := do
  if new.amount ≤ 0 then return db
  let (db, _) ← postEntry env db clock new
  return db

/-- A step taken for a positive amount only. -/
def whenPositive (amount : Int) (db : Db) (step : Tx Db) : Tx Db := if 0 < amount then step else .ok db

section Agreement

def lockCollectionAgreement (db : Db) (agreementId : Nat) : Tx CollectionAgreement :=
  orRefuse (db.agreement? agreementId) "Acordo não encontrado."

def touchCollectionAgreement (agreement : CollectionAgreement) : CollectionAgreement :=
  { agreement with stateRevision := agreement.stateRevision + 1 }

def agreementConfirmed (payment : Payment) (c : Confirmation) : Bool :=
  payment.status = "approved" ∨ (payment.status = "processed" ∧
    c.remotePayload.any (fun p => p.statusDetail = some "accredited"))

/-- Penalty first, then principal. -/
def applyToAgreementInstallment (env : Env) (db : Db) (clock effectiveAt received : Int)
    (payment : Payment) (agreement : CollectionAgreement) (inst : AgreementInstallment) :
    Tx Application := do
  let member ← orRefuse (db.member? agreement.memberId) "Participante do acordo não encontrado."
  let penaltyOpen := max 0 (inst.penaltyAmount - inst.paidPenaltyAmount)
  let principalOpen := max 0 (inst.principal - inst.paidAmount)
  let applied := min received (penaltyOpen + principalOpen)
  refuseIf (applied ≤ 0) "Parcela de acordo não possui saldo aplicável."
  let penaltyApplied := min penaltyOpen applied
  let principalApplied := min principalOpen (applied - penaltyApplied)
  let paidPenalty := inst.paidPenaltyAmount + penaltyApplied
  let paid := inst.paidAmount + principalApplied
  let remaining := max 0 (inst.penaltyAmount - paidPenalty) + max 0 (inst.principal - paid)
  let status : ObligationStatus := if remaining = 0 then .PAID else .PARTIAL
  let after := { inst with
    paidPenaltyAmount := paidPenalty, paidAmount := paid, status
    paidAt := if status = .PAID then some effectiveAt else inst.paidAt }
  let db := db.putAgreementInstallment after
  let (db, _) ← postEntry env db clock (paymentCredit payment .AGREEMENT_INSTALLMENT_PAYMENT applied)
  let items := db.agreementInstallments.filter (fun i => i.agreementId = agreement.id)
  let settled := ¬ items.isEmpty ∧ items.all (fun i => i.status = .PAID)
  let agreementAfter := touchCollectionAgreement
    { agreement with status := if settled then .SETTLED else agreement.status }
  return { db := db.putAgreement agreementAfter
           memberId := member.id
           obligation := .agreementInstallment inst.id
           receiptVersion := .v5
           principalApplied, penaltyApplied
           statusBefore := inst.status, statusAfter := status
           agreementEvidence := some
             { installmentStatusBefore := inst.status, installmentStatusAfter := status
               installmentPaidAtBefore := inst.paidAt, installmentPaidAtAfter := after.paidAt
               paidAmountBefore := inst.paidAmount, paidAmountAfter := paid
               paidPenaltyAmountBefore := inst.paidPenaltyAmount
               paidPenaltyAmountAfter := paidPenalty
               agreementStatusBefore := agreement.status
               agreementStatusAfter := agreementAfter.status
               stateRevisionBefore := agreement.stateRevision
               stateRevisionAfter := agreementAfter.stateRevision } }

end Agreement

section Contribution

/-- `post_contribution_payment` -/
def postContributionPayment (env : Env) (db : Db) (clock : Int) (payment : Payment) (amount : Int) :
    Tx Db :=
  if payment.ledgerPostedAt.isSome then .ok db
  else postOnce env db clock (paymentCredit payment .CONTRIBUTION_PAYMENT amount)

/-- What of a payment a contribution takes. -/
def contributionApplied (c : Contribution) (received : Int) : Int :=
  min received (max 0 (c.amount - contributionPaidAmount c))

def creditedContribution (c : Contribution) (applied effectiveAt : Int) : Contribution :=
  let afterPaid := contributionPaidAmount c + applied
  let status :=
    contributionFinancialStatus { c with paidAmount := some afterPaid } afterPaid effectiveAt
  { c with
    paidAmount := some afterPaid
    status
    paidAt := if status = .PAID ∧ c.paidAt.isNone then some effectiveAt else c.paidAt }

def applyToContribution (env : Env) (db : Db) (clock effectiveAt received : Int)
    (payment : Payment) (c : Contribution) : Tx Application := do
  let (db, account) ← lockMemberFinancialAccount db c.memberId
  refuseIf c.cancelledAt.isSome "Contribuição cancelada; pagamento requer reconciliação."
  let statusBefore := contributionFinancialStatus c (contributionPaidAmount c) effectiveAt
  let applied := contributionApplied c received
  let after := creditedContribution c applied effectiveAt
  let db := db.putContribution after
  let db ← whenPositive applied db (postContributionPayment env db clock payment applied)
  return { db
           memberId := c.memberId
           obligation := .contribution c.id
           receiptVersion := .v1
           principalApplied := applied
           statusBefore, statusAfter := after.status
           becamePaid := if statusBefore ≠ .PAID ∧ after.status = .PAID
             then some (account, after) else none }

end Contribution

section Loan

def touchLoan (loan : Loan) : Loan := { loan with stateRevision := loan.stateRevision + 1 }

/-- `ensure_loan_completion` where the revision is counted by the caller. -/
def ensureLoanCompletion (db : Db) (clock : Int) (loan : Loan) : Loan :=
  let installments := db.loanInstallments.filter (fun i => i.loanId = loan.id)
  if ¬ installments.isEmpty ∧ installments.all (fun i => i.status = .PAID) then
    { loan with status := .PAID, paidAt := some (loan.paidAt.getD clock) }
  else loan

/-- The evidence of a loan settlement and the checks on it. -/
def loanEvidenceOf (before after : Loan) (instBefore instAfter : LoanInstallment) :
    Tx LoanEvidence := do
  refuseIf (after.stateRevision ≠ before.stateRevision + 1)
    "Revisão do Loan inválida para settlement v4."
  refuseIf (before.status = .PAID ∨ before.paidAt.isSome)
    "Settlement v4 possui paid_at_before incompatível."
  refuseIf (after.status = .PAID ∧ after.paidAt.isNone)
    "Settlement v4 exige paid_at_after ao fechar o Loan."
  refuseIf (after.status ≠ .PAID ∧ after.paidAt.isSome)
    "Settlement v4 não pode possuir paid_at_after fora de PAID."
  return { statusBefore := before.status, statusAfter := after.status
           stateRevisionBefore := before.stateRevision, stateRevisionAfter := after.stateRevision
           paidAtBefore := before.paidAt, paidAtAfter := after.paidAt
           installmentStatusBefore := instBefore.status, installmentStatusAfter := instAfter.status
           installmentPaidAtBefore := instBefore.paidAt, installmentPaidAtAfter := instAfter.paidAt }

def principalCredit (payment : Payment) (amount : Int) : NewMemberEntry where
  entryType := .LOAN_PRINCIPAL_PAYMENT
  direction := .CREDIT
  amount := amount
  referenceType := some .LOAN_PRINCIPAL_PAYMENT
  referenceId := some (toString payment.id)

/-- Credit the member with a positive amount of principal. -/
def creditPrincipal (db : Db) (clock : Int) (account : MemberFinancialAccount) (payment : Payment)
    (amount : Int) : Tx Db := do
  if amount ≤ 0 then return db
  let (db, _) ← addMemberFinancialEntry db clock account (principalCredit payment amount)
  return db

/-- How a payment is split over what an installment owes. -/
structure Allocation where
  fixedPenalty : Int
  lateInterest : Int
  normalInterest : Int
  principal : Int
  deriving DecidableEq, Repr

def allocate (obligation : LoanInstallmentObligation) (applied : Int) : Allocation :=
  let fixedPenalty := min obligation.fixedPenaltyDue applied
  let lateInterest := min obligation.lateInterestDue (applied - fixedPenalty)
  let normalInterest :=
    min obligation.normalPriceInterestDue (applied - fixedPenalty - lateInterest)
  { fixedPenalty, lateInterest, normalInterest
    principal := min obligation.principalDue (applied - fixedPenalty - lateInterest - normalInterest) }

def Allocation.penalty (a : Allocation) : Int := a.fixedPenalty + a.lateInterest
def Allocation.base (a : Allocation) : Int := a.normalInterest + a.principal

/-- `penalty_amount` follows the projections of a versioned installment. -/
def LoanInstallment.withPenaltyTotal (inst : LoanInstallment) : LoanInstallment :=
  match inst.lateCharge with
  | some p => { inst with penaltyAmount := p.fixedPenaltyAmount + p.lateInterestAmount }
  | none => inst

/-- The columns of a versioned installment after an allocation. -/
def allocateTo (inst : LoanInstallment) (a : Allocation) (effectiveAt financialDate remaining : Int) :
    LoanInstallment :=
  let credited : LoanInstallment := { inst with
    paidAmount := inst.paidAmount + a.base
    paidPenaltyAmount := inst.paidPenaltyAmount + a.penalty
    lateCharge := inst.lateCharge.map (fun p => { p with
      paidFixedPenaltyAmount := p.paidFixedPenaltyAmount + a.fixedPenalty
      paidLateInterestAmount := p.paidLateInterestAmount + a.lateInterest }) }
  let paid := credited.withPenaltyTotal
  if remaining = 0 then { paid with status := .PAID, paidAt := some effectiveAt }
  else { paid with status := if inst.dueDate < financialDate then .OVERDUE else .PARTIAL }

/-- The branch of an installment under late charge v1. -/
def applyToVersionedInstallment (env : Env) (db : Db) (clock received : Int)
    (confirmedAt : Option Timestamp) (payment : Payment) (account : MemberFinancialAccount)
    (loan : Loan) (inst : LoanInstallment) : Tx Application := do
  let at' ← orRefuse confirmedAt
    "Settlement versionado de LoanInstallment exige confirmed_at explícito e confiável."
  refuseIf (¬ at'.aware)
    "Settlement versionado de LoanInstallment exige confirmed_at timezone-aware."
  let effectiveAt := at'.instant
  let financialDate := financialCivilDate effectiveAt
  let statusBefore := installmentFinancialStatus inst effectiveAt
  let (db, _) ← materializeFixedPenalty db inst.id financialDate env.lateChargeEffectiveDate
  let (db, _) ← materializeDailyLateInterest db inst.id financialDate env.lateChargeEffectiveDate
  let charged ← lockInstallment db inst.id
  let obligation ← loanInstallmentObligation db charged financialDate
  let applied := min received obligation.totalDue
  refuseIf (applied ≤ 0) "Parcela versionada não possui obrigação vencida aplicável."
  let a := allocate obligation applied
  refuseIf (applied ≠ a.base + a.penalty) "Alocação versionada não fecha com o valor aplicado."
  let after := allocateTo charged a effectiveAt financialDate (obligation.totalDue - applied)
  let db ← flushInstallment db after
  let db ← postPositive env db clock (paymentCredit payment .LOAN_INTEREST_PAYMENT a.normalInterest)
  let db ← postPositive env db clock (paymentCredit payment .LOAN_PENALTY_PAYMENT a.penalty)
  let db ← creditPrincipal db clock account payment a.principal
  let completed := ensureLoanCompletion db clock loan
  let loanAfter := touchLoan
    (if completed.status = .PAID then { completed with paidAt := some effectiveAt } else completed)
  let evidence ← loanEvidenceOf loan loanAfter inst after
  return { db := db.putLoan loanAfter
           memberId := loan.memberId
           obligation := .loanInstallment inst.id
           receiptVersion := .v4
           principalApplied := a.principal, interestApplied := a.normalInterest
           penaltyApplied := a.penalty
           components := some { normalInterestApplied := a.normalInterest
                                lateInterestApplied := a.lateInterest
                                fixedPenaltyApplied := a.fixedPenalty }
           statusBefore, statusAfter := after.status
           loanEvidence := some evidence }

def installmentDue (inst : LoanInstallment) : Int :=
  max 0 (inst.amount - inst.paidAmount) + max 0 (inst.penaltyAmount - inst.paidPenaltyAmount)

/-- `apply_payment`: the columns after a payment, and what it paid of penalty and base. -/
def applyPayment (inst : LoanInstallment) (amount clock : Int) : LoanInstallment × Int × Int :=
  let penaltyOpen := max 0 (inst.penaltyAmount - inst.paidPenaltyAmount)
  let baseOpen := max 0 (inst.amount - inst.paidAmount)
  let applied := min amount (penaltyOpen + baseOpen)
  let penaltyApplied := min penaltyOpen applied
  let baseApplied := min baseOpen (applied - penaltyApplied)
  let paid := { inst with
    paidPenaltyAmount := inst.paidPenaltyAmount + penaltyApplied
    paidAmount := inst.paidAmount + baseApplied }
  let status : ObligationStatus := if installmentDue paid ≤ 0 then .PAID else .PARTIAL
  ({ paid with status, paidAt := if status = .PAID then some (inst.paidAt.getD clock) else inst.paidAt },
    penaltyApplied, baseApplied)

/-- The branch of a legacy installment: penalty first, then interest, then principal, all read
from the columns of the installment. -/
def applyToLegacyInstallment (env : Env) (db : Db) (clock effectiveAt received : Int)
    (payment : Payment) (account : MemberFinancialAccount) (loan : Loan) (inst : LoanInstallment) :
    Tx Application := do
  let statusBefore := installmentFinancialStatus inst effectiveAt
  let (after, penaltyApplied, baseApplied) := applyPayment inst received clock
  -- without a positive application the loan revision stands still, which is refused
  refuseIf (penaltyApplied + baseApplied ≤ 0) "Revisão do Loan inválida para settlement v4."
  let interestOpen := max 0 (inst.interest - min inst.interest inst.paidAmount)
  let interestApplied := min baseApplied interestOpen
  let principalApplied := max 0 (baseApplied - interestApplied)
  let db := db.putInstallment after
  let db ← whenPositive penaltyApplied db
    (postOnce env db clock (paymentCredit payment .LOAN_PENALTY_PAYMENT penaltyApplied))
  let db ← whenPositive interestApplied db
    (postOnce env db clock (paymentCredit payment .LOAN_INTEREST_PAYMENT interestApplied))
  let db ← creditPrincipal db clock account payment principalApplied
  let loanAfter := touchLoan (ensureLoanCompletion db clock loan)
  let evidence ← loanEvidenceOf loan loanAfter inst after
  return { db := db.putLoan loanAfter
           memberId := loan.memberId
           obligation := .loanInstallment inst.id
           receiptVersion := .v4
           principalApplied, interestApplied, penaltyApplied
           statusBefore, statusAfter := installmentFinancialStatus after effectiveAt
           loanEvidence := some evidence }

def applyToInstallment (env : Env) (db : Db) (clock effectiveAt received : Int)
    (confirmedAt : Option Timestamp) (payment : Payment) (inst : LoanInstallment) :
    Tx Application := do
  let loan ← orRefuse (db.loan? inst.loanId) "Empréstimo da parcela não encontrado."
  let (db, account) ← lockMemberFinancialAccount db loan.memberId
  if isLateChargeEligible inst.dueDate env.lateChargeEffectiveDate then
    applyToVersionedInstallment env db clock received confirmedAt payment account loan inst
  else
    applyToLegacyInstallment env db clock effectiveAt received payment account loan inst

end Loan

/-- The obligation a payment settles, and what happens to it. -/
def applyToObligation (env : Env) (db : Db) (clock effectiveAt received : Int) (c : Confirmation)
    (payment : Payment) : Tx Application := do
  let contribution ← lockedContribution db payment
  match payment.reference with
  | some (.agreementInstallment id) =>
    refuseIf (¬ agreementConfirmed payment c)
      "Pagamento de acordo sem confirmação financeira válida."
    let inst ← orRefuse (db.agreementInstallment? id) "Referência de parcela de acordo inválida."
    let agreement ← lockCollectionAgreement db inst.agreementId
    applyToAgreementInstallment env db clock effectiveAt received payment agreement inst
  | _ =>
    match contribution, lockedInstallment db payment with
    | some contribution, none => applyToContribution env db clock effectiveAt received payment contribution
    | none, some inst =>
      applyToInstallment env db clock effectiveAt received c.confirmedAt payment inst
    | _, _ => .error (.valueError
        "Pagamento deve referenciar exatamente uma contribuição ou parcela de empréstimo.")

/-- The check constraints on the values of a settlement row. -/
def checkSettlement (s : PaymentSettlement) : Tx Unit := do
  let a := s.amounts
  requireConstraint (0 ≤ a.amountReceived ∧ 0 ≤ a.amountApplied ∧ 0 ≤ a.principalApplied ∧
    0 ≤ a.interestApplied ∧ 0 ≤ a.penaltyApplied ∧ 0 ≤ a.excessAmount)
    "ck_payment_settlements_nonnegative_amounts"
  requireConstraint (a.amountReceived = a.amountApplied + a.excessAmount)
    "ck_payment_settlements_received_allocation"
  requireConstraint (a.amountApplied = a.principalApplied + a.interestApplied + a.penaltyApplied)
    "ck_payment_settlements_applied_components"
  requireConstraint (s.components.all (fun c => 0 ≤ c.normalInterestApplied))
    "ck_payment_settlements_normal_interest_nonnegative"
  requireConstraint (s.components.all (fun c => 0 ≤ c.lateInterestApplied))
    "ck_payment_settlements_late_interest_nonnegative"
  requireConstraint (s.components.all (fun c => 0 ≤ c.fixedPenaltyApplied))
    "ck_payment_settlements_fixed_penalty_nonnegative"
  requireConstraint (s.components.all (fun c => a.interestApplied = c.normalInterestApplied ∧
    a.penaltyApplied = c.lateInterestApplied + c.fixedPenaltyApplied))
    "ck_payment_settlements_component_aggregates"
  requireConstraint (s.obligationStatusBefore ∈ [.OPEN, .PENDING, .PARTIAL, .OVERDUE, .PAID])
    "ck_payment_settlements_status_before"
  requireConstraint (s.obligationStatusAfter ∈ [.OPEN, .PENDING, .PARTIAL, .OVERDUE, .PAID])
    "ck_payment_settlements_status_after"
  requireConstraint (s.agreementEvidence.all (fun e =>
    e.installmentStatusBefore ∈ [.OPEN, .PARTIAL, .PAID] ∧
    e.installmentStatusAfter ∈ [.OPEN, .PARTIAL, .PAID]))
    "ck_payment_settlements_v5_installment_statuses"
  requireConstraint (s.agreementEvidence.all (fun e =>
    e.agreementStatusBefore ∈ [.APPROVED, .SETTLED] ∧ e.agreementStatusAfter ∈ [.APPROVED, .SETTLED]))
    "ck_payment_settlements_v5_agreement_statuses"
  requireConstraint (s.agreementEvidence.all (fun e =>
    0 ≤ e.paidAmountBefore ∧ 0 ≤ e.paidAmountAfter ∧ 0 ≤ e.paidPenaltyAmountBefore ∧
    0 ≤ e.paidPenaltyAmountAfter)) "ck_payment_settlements_v5_agreement_amounts_nonnegative"

/-- `_persist_remote_payload` -/
def persistRemotePayload (payment : Payment) (payload : Option RemotePayload) : Payment :=
  match payload with
  | none => payment
  | some p => { payment with
      externalReference := p.externalReference <|> payment.externalReference
      providerStatusDetail := p.statusDetail <|> payment.providerStatusDetail
      pixTxid := p.txid <|> payment.pixTxid
      endToEndId := p.endToEndId <|> payment.endToEndId }

/-- A contribution or an agreement installment settled by a payment created for its kind. -/
def sameKind (obligation : Obligation) (payment : Payment) : Bool :=
  match obligation, payment.reference with
  | .contribution _, some (.contribution _) => true
  | .agreementInstallment _, some (.agreementInstallment _) => true
  | _, _ => false

/-- A canonical confirmation that applied something ends the attempt that created the payment. -/
def releasesAttempt (payment : Payment) (c : Confirmation) (obligation : Obligation)
    (applied : Int) : Bool :=
  sameKind obligation payment ∧ payment.providerOrderId.any (· ≠ "") ∧
    payment.providerPaymentId.any (· ≠ "") ∧ 0 < applied ∧ c.source = "WEBHOOK" ∧
    c.remotePayload.isSome ∧ (payment.status = "approved" ∨ (payment.status = "processed" ∧
      c.remotePayload.any (fun p => p.statusDetail = some "accredited"))) ∧
    payment.attemptStatus = some .PENDING ∧
    payment.reconciliationStatus ∈ [some .PROVIDER_CREATE_UNKNOWN, some .RECONCILIATION_REQUIRED]

def releaseAttempt (payment : Payment) (c : Confirmation) (obligation : Obligation) (applied : Int) :
    Payment :=
  if releasesAttempt payment c obligation applied then
    { payment with attemptStatus := none, reconciliationStatus := none }
  else payment

def settlementReceiptNumber (version : ReceiptVersion) (paymentId : Nat) : String :=
  let prefix' := match version with
    | .v1 => "PIX-V1-"
    | .v4 => "PIX-V4-"
    | .v5 => "PIX-V5-"
  prefix' ++ String.ofList (Calendar.pad 12 paymentId)

/-- The settlement row of an application, before its receipt is written. -/
def settlementRow (db : Db) (payment : Payment) (c : Confirmation) (effectiveAt received : Int)
    (app : Application) : PaymentSettlement :=
  let applied := app.principalApplied + app.interestApplied + app.penaltyApplied
  { id := nextKey PaymentSettlement.id db.settlements
    paymentId := payment.id
    memberId := app.memberId
    obligation := app.obligation
    amounts := { amountReceived := received, amountApplied := applied
                 principalApplied := app.principalApplied, interestApplied := app.interestApplied
                 penaltyApplied := app.penaltyApplied, excessAmount := received - applied }
    components := app.components
    obligationStatusBefore := app.statusBefore
    obligationStatusAfter := app.statusAfter
    confirmedAt := effectiveAt
    confirmationSource := c.source
    webhookEventId := c.webhookEventId
    receiptNumber := settlementReceiptNumber app.receiptVersion payment.id
    receiptVersion := app.receiptVersion
    receiptSnapshotJson := ""
    receiptHash := ""
    loanEvidence := app.loanEvidence
    agreementEvidence := app.agreementEvidence }

/-- The patrimonial credit of a contribution that became paid. -/
def contributionCredit (contribution : Contribution) (settlement : PaymentSettlement) :
    NewMemberEntry where
  entryType := .CONTRIBUTION
  direction := .CREDIT
  amount := contribution.amount
  referenceType := some .PAYMENT_SETTLEMENT
  referenceId := some (toString settlement.id)
  contributionId := some contribution.id
  paymentSettlementId := some settlement.id

def creditBecamePaid (db : Db) (clock : Int) (settlement : PaymentSettlement) :
    Option (MemberFinancialAccount × Contribution) → Tx Db
  | none => .ok db
  | some (account, contribution) => do
    let (db, _) ← addMemberFinancialEntry db clock account
      (contributionCredit contribution settlement)
    return db

/-- The late-interest correction of a settlement with components. -/
def adjustAfterSettlement (db : Db) (settlement : PaymentSettlement) : Tx Db :=
  match settlement.components, settlement.obligation with
  | some _, .loanInstallment installmentId => do
    let (db, _) ← materializeSettlementLateInterestAdjustment db settlement
    let inst ← lockInstallment db installmentId
    flushInstallment db inst.withPenaltyTotal
  | _, _ => .ok db

/-- The columns of the payment a settlement fills in. -/
def confirmedPayment (payment : Payment) (c : Confirmation) (clock effectiveAt received : Int) :
    Payment :=
  { persistRemotePayload { payment with
      amountReceived := some received
      confirmedAt := some (payment.confirmedAt.getD effectiveAt) } c.remotePayload with
    ledgerPostedAt := some clock }

def writeReceipt (env : Env) (db : Db) (payment : Payment) (settlement : PaymentSettlement) :
    PaymentSettlement :=
  let text := Json.dumps (settlementReceiptSnapshot payment settlement (ledgerSnapshot db payment.id))
  { settlement with receiptSnapshotJson := text, receiptHash := env.sha256 text }

/-- The evidence of a settlement: the payment's columns, the row, the patrimonial credit and
the receipt. -/
def recordSettlement (env : Env) (clock effectiveAt received : Int) (c : Confirmation)
    (payment : Payment) (app : Application) : Tx (Db × PaymentSettlement) := do
  let payment := confirmedPayment payment c clock effectiveAt received
  let db := app.db.putPayment payment
  let settlement := settlementRow db payment c effectiveAt received app
  checkSettlement settlement
  let db := { db with settlements := db.settlements ++ [settlement] }
  let db ← adjustAfterSettlement db settlement
  let db ← creditBecamePaid db clock settlement app.becamePaid
  let settlement := writeReceipt env db payment settlement
  let db := { db with settlements := replace PaymentSettlement.id db.settlements settlement }
  let applied := settlement.amounts.amountApplied
  return (db.putPayment (releaseAttempt payment c app.obligation applied), settlement)

/-- Settle one confirmed payment inside the caller's transaction; a settled payment is
answered with the settlement it has. -/
def settleConfirmedPixPayment (env : Env) (db : Db) (clock : Int) (paymentId : Nat)
    (c : Confirmation) : Tx (Db × PaymentSettlement) := do
  refuseIf (c.source = "") "Origem da confirmação é obrigatória."
  let payment ← orRefuse (db.payment? paymentId) "Pagamento não encontrado."
  match db.settlementOfPayment? payment.id with
  | some existing => return (db, existing)
  | none =>
    let isAgreement : Bool := match payment.reference with
      | some (.agreementInstallment _) => true
      | _ => false
    refuseIf (isAgreement ∧ (payment.ledgerPostedAt.isSome ∨
        ledgerHas db .AGREEMENT_INSTALLMENT_PAYMENT (toString payment.id)))
      "Pagamento legado de acordo já lançado não pode receber settlement retroativo."
    refuseIf payment.ledgerPostedAt.isSome
      "Pagamento legado já lançado não pode ser relançado sem recibo de liquidação."
    let effectiveAt := ((c.confirmedAt.map (·.instant)) <|> payment.confirmedAt).getD clock
    let received := payment.amountReceived.getD payment.amount
    refuseIf (received < 0) "Valor confirmado não pode ser negativo."
    let app ← applyToObligation env db clock effectiveAt received c payment
    recordSettlement env clock effectiveAt received c payment app

end Caixinha.Model
