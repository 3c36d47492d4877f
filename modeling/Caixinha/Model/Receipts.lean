import Caixinha.Library.JsonParser
import Caixinha.Model.Ledger

/-! The documents that settlements and reversals keep as their receipts, and how the code
compares a stored document with its columns. -/
namespace Caixinha.Model

open Caixinha.Library Json

def ObligationStatus.text : ObligationStatus → String
  | .OPEN => "OPEN"
  | .PENDING => "PENDING"
  | .PARTIAL => "PARTIAL"
  | .OVERDUE => "OVERDUE"
  | .PAID => "PAID"
  | .CANCELLED => "CANCELLED"
  | .AGREED => "AGREED"

def LoanStatus.text : LoanStatus → String
  | .REQUESTED => "REQUESTED"
  | .APPROVED => "APPROVED"
  | .REJECTED => "REJECTED"
  | .ACTIVE => "ACTIVE"
  | .OVERDUE => "OVERDUE"
  | .IN_COLLECTION => "IN_COLLECTION"
  | .PAID => "PAID"
  | .RESTRUCTURED => "RESTRUCTURED"

def AgreementStatus.text : AgreementStatus → String
  | .REQUESTED => "REQUESTED"
  | .APPROVED => "APPROVED"
  | .REJECTED => "REJECTED"
  | .SETTLED => "SETTLED"

def ReceiptVersion.text : ReceiptVersion → String
  | .v1 => "v1"
  | .v4 => "v4"
  | .v5 => "v5"

/-- `reference_type` -/
def PaymentReference.type : PaymentReference → String
  | .contribution _ => "CONTRIBUTION"
  | .loanInstallment _ => "LOAN_INSTALLMENT"
  | .agreementInstallment _ => "AGREEMENT_INSTALLMENT"

/-- `reference_id` -/
def PaymentReference.text : PaymentReference → String
  | .contribution id | .loanInstallment id | .agreementInstallment id => toString id

/-- `obligation_type` -/
def Obligation.type : Obligation → String
  | .contribution _ => "CONTRIBUTION"
  | .loanInstallment _ => "LOAN_INSTALLMENT"
  | .agreementInstallment _ => "AGREEMENT_INSTALLMENT"

def Obligation.contributionId : Obligation → Option Nat
  | .contribution id => some id
  | _ => none

def Obligation.loanInstallmentId : Obligation → Option Nat
  | .loanInstallment id => some id
  | _ => none

def PaymentReversal.reversalCompetence (r : PaymentReversal) : Int :=
  Calendar.monthStart (utcDate r.reversedAt)

/-- The document both texts stand for is the same dictionary. -/
def sameJson (a b : Value) : Bool := dumps a = dumps b

/-- `value.get(key)` -/
def field (v : Value) (key : String) : Value := (get? v key).getD .null

def statusJson (s : ObligationStatus) : Value := .str s.text
def instantJson (t : Int) : Value := .str (Calendar.isoUtc t)
def revisionJson (n : Nat) : Value := .int n

section Settlement

def ledgerSnapshot (db : Db) (paymentId : Nat) : Value :=
  .arr (((db.ledgerEntries.filter (fun e => e.referenceId = toString paymentId)).insertionSort
    (fun a b => a.id ≤ b.id)).map (fun e => .obj [
      ("id", idJson e.id), ("account", .str e.account), ("direction", .str e.direction.text),
      ("amount", moneyJson e.amount.val), ("reference_type", .str e.referenceType.text),
      ("reference_id", .str e.referenceId), ("entry_hash", .str e.entryHash)]))

def paymentJson (p : Payment) : Value :=
  .obj [("id", idJson p.id), ("provider", .str p.provider),
    ("provider_order_id", nullable .str p.providerOrderId),
    ("provider_payment_id", nullable .str p.providerPaymentId),
    ("external_reference", nullable .str p.externalReference),
    ("pix_txid", nullable .str p.pixTxid), ("end_to_end_id", nullable .str p.endToEndId),
    ("reference_type", nullable (.str ·.type) p.reference),
    ("reference_id", nullable (.str ·.text) p.reference)]

def obligationJson (s : PaymentSettlement) : Value :=
  .obj ([("type", .str s.obligation.type),
    ("contribution_id", nullable idJson s.obligation.contributionId),
    ("loan_installment_id", nullable idJson s.obligation.loanInstallmentId),
    ("member_id", idJson s.memberId),
    ("status_before", statusJson s.obligationStatusBefore),
    ("status_after", statusJson s.obligationStatusAfter)] ++
    match s.obligation with
    | .agreementInstallment id => [("agreement_installment_id", idJson id)]
    | _ => [])

def settlementAmountsJson (s : PaymentSettlement) : Value :=
  .obj ([("received", moneyJson s.amounts.amountReceived),
    ("applied", moneyJson s.amounts.amountApplied),
    ("principal", moneyJson s.amounts.principalApplied),
    ("interest", moneyJson s.amounts.interestApplied),
    ("penalty", moneyJson s.amounts.penaltyApplied),
    ("excess", moneyJson s.amounts.excessAmount)] ++
    match s.components with
    | some c => [("normal_price_interest", moneyJson c.normalInterestApplied),
        ("late_interest", moneyJson c.lateInterestApplied),
        ("fixed_penalty", moneyJson c.fixedPenaltyApplied)]
    | none => [])

def loanStateJson (e : LoanEvidence) : Value :=
  .obj [("status_before", .str e.statusBefore.text), ("status_after", .str e.statusAfter.text),
    ("state_revision_before", revisionJson e.stateRevisionBefore),
    ("state_revision_after", revisionJson e.stateRevisionAfter),
    ("paid_at_before", nullable instantJson e.paidAtBefore),
    ("paid_at_after", nullable instantJson e.paidAtAfter)]

def loanInstallmentStateJson (e : LoanEvidence) : Value :=
  .obj [("status_before", statusJson e.installmentStatusBefore),
    ("status_after", statusJson e.installmentStatusAfter),
    ("paid_at_before", nullable instantJson e.installmentPaidAtBefore),
    ("paid_at_after", nullable instantJson e.installmentPaidAtAfter)]

def agreementInstallmentStateJson (e : AgreementEvidence) : Value :=
  .obj [("status_before", statusJson e.installmentStatusBefore),
    ("status_after", statusJson e.installmentStatusAfter),
    ("paid_at_before", nullable instantJson e.installmentPaidAtBefore),
    ("paid_at_after", nullable instantJson e.installmentPaidAtAfter),
    ("paid_amount_before", moneyJson e.paidAmountBefore),
    ("paid_amount_after", moneyJson e.paidAmountAfter),
    ("paid_penalty_amount_before", moneyJson e.paidPenaltyAmountBefore),
    ("paid_penalty_amount_after", moneyJson e.paidPenaltyAmountAfter)]

def collectionAgreementStateJson (e : AgreementEvidence) : Value :=
  .obj [("status_before", .str e.agreementStatusBefore.text),
    ("status_after", .str e.agreementStatusAfter.text),
    ("state_revision_before", revisionJson e.stateRevisionBefore),
    ("state_revision_after", revisionJson e.stateRevisionAfter)]

/-- `_receipt_snapshot` of a settlement. -/
def settlementReceiptSnapshot (p : Payment) (s : PaymentSettlement) (ledger : Value) : Value :=
  .obj ([("receipt_version", .str s.receiptVersion.text),
    ("receipt_number", .str s.receiptNumber),
    ("payment", paymentJson p),
    ("obligation", obligationJson s),
    ("amounts", settlementAmountsJson s),
    ("confirmation", .obj [("source", .str s.confirmationSource),
      ("confirmed_at", instantJson s.confirmedAt),
      ("webhook_event_id", nullable idJson s.webhookEventId)]),
    ("ledger_entries", ledger)] ++
    match s.receiptVersion, s.loanEvidence, s.agreementEvidence with
    | .v4, some e, _ => [("loan_state", loanStateJson e),
        ("loan_installment_state", loanInstallmentStateJson e)]
    | .v5, _, some e => [("agreement_installment_state", agreementInstallmentStateJson e),
        ("collection_agreement_state", collectionAgreementStateJson e)]
    | _, _, _ => [])

end Settlement

section Reversal
variable (r : PaymentReversal) (p : Payment) (s : PaymentSettlement)

def reversalReceiptVersion : String := "v1"

def reversalJson : Value :=
  .obj [("id", idJson r.id), ("reversed_at", instantJson r.reversedAt),
    ("reversal_competence", .str (Calendar.isoDate r.reversalCompetence)),
    ("admin_id", idJson r.adminId), ("reason", .str r.reason)]

def reversalAmountsJson : Value :=
  .obj [("amount_received", moneyJson r.amounts.amountReceived),
    ("amount_applied", moneyJson r.amounts.amountApplied),
    ("principal_applied", moneyJson r.amounts.principalApplied),
    ("interest_applied", moneyJson r.amounts.interestApplied),
    ("penalty_applied", moneyJson r.amounts.penaltyApplied),
    ("excess_amount", moneyJson r.amounts.excessAmount)]

def referencedPaymentJson : Value :=
  .obj [("id", idJson p.id), ("status", .str p.status),
    ("reference_type", nullable (.str ·.type) p.reference),
    ("reference_id", nullable (.str ·.text) p.reference)]

def hashedSettlementJson : Value :=
  .obj [("id", idJson s.id), ("receipt_number", .str s.receiptNumber),
    ("receipt_version", .str s.receiptVersion.text), ("receipt_hash", .str s.receiptHash)]

/-- `_receipt_snapshot` of a reversed contribution; `components` pairs every original with its
compensation, by original id. -/
def contributionReversalSnapshot (c : Contribution) (stateBefore stateAfter : ObligationStatus)
    (components : List (LedgerEntry × LedgerEntry)) : Value :=
  .obj [("receipt_version", .str reversalReceiptVersion),
    ("receipt_number", .str r.receiptNumber),
    ("reversal", reversalJson r),
    ("payment", .obj [("id", idJson p.id), ("status", .str p.status)]),
    ("settlement", .obj [("id", idJson s.id), ("receipt_number", .str s.receiptNumber),
      ("receipt_version", .str s.receiptVersion.text)]),
    ("obligation", .obj [("type", .str s.obligation.type), ("contribution_id", idJson c.id),
      ("original_competence", .str (Calendar.isoDate c.competence)),
      ("state_before", statusJson stateBefore), ("state_after", statusJson stateAfter)]),
    ("amounts", reversalAmountsJson r),
    ("ledger_components", .arr (components.map (fun (original, compensating) => .obj [
      ("original_ledger_entry_id", idJson original.id),
      ("compensating_ledger_entry_id", idJson compensating.id),
      ("account", .str original.account),
      ("amount", moneyJson original.amount.val),
      ("original_direction", .str original.direction.text),
      ("compensating_direction", .str compensating.direction.text)])))]

def agreementReversalSnapshot (e : AgreementEvidence) (agreement : CollectionAgreement)
    (inst : AgreementInstallment) (original compensating : LedgerEntry) : Value :=
  .obj [("receipt_version", .str reversalReceiptVersion),
    ("receipt_number", .str r.receiptNumber),
    ("reversal", reversalJson r),
    ("payment", referencedPaymentJson p),
    ("settlement", hashedSettlementJson s),
    ("obligation", .obj [("type", .str "AGREEMENT_INSTALLMENT"), ("member_id", idJson s.memberId),
      ("agreement_installment_id", idJson inst.id),
      ("collection_agreement_id", idJson agreement.id)]),
    ("agreement", .obj [("id", idJson agreement.id),
      ("status_before", .str e.agreementStatusBefore.text),
      ("status_after", .str e.agreementStatusAfter.text),
      ("status_restored", .str agreement.status.text),
      ("state_revision_before", revisionJson e.stateRevisionBefore),
      ("state_revision_after", revisionJson e.stateRevisionAfter),
      ("state_revision", revisionJson agreement.stateRevision)]),
    ("agreement_installment", .obj [("id", idJson inst.id),
      ("due_date", .str (Calendar.isoDate inst.dueDate)),
      ("status_before", statusJson e.installmentStatusBefore),
      ("status_after", statusJson e.installmentStatusAfter),
      ("status_restored", statusJson inst.status),
      ("paid_at_before", nullable instantJson e.installmentPaidAtBefore),
      ("paid_at_after", nullable instantJson e.installmentPaidAtAfter),
      ("paid_at_restored", nullable instantJson inst.paidAt),
      ("paid_amount_before", moneyJson e.paidAmountBefore),
      ("paid_amount_after", moneyJson e.paidAmountAfter),
      ("paid_amount_restored", moneyJson inst.paidAmount),
      ("paid_penalty_amount_before", moneyJson e.paidPenaltyAmountBefore),
      ("paid_penalty_amount_after", moneyJson e.paidPenaltyAmountAfter),
      ("paid_penalty_amount_restored", moneyJson inst.paidPenaltyAmount)]),
    ("amounts", reversalAmountsJson r),
    ("ledger_component", .obj [("original_ledger_entry_id", idJson original.id),
      ("compensating_ledger_entry_id", idJson compensating.id),
      ("account", .str original.account), ("amount", moneyJson original.amount.val),
      ("original_direction", .str original.direction.text),
      ("compensating_direction", .str compensating.direction.text),
      ("reversal_of_id", nullable idJson compensating.reversalOfId)])]

def loanReversalSnapshot (e : LoanEvidence) (loan : Loan) (inst : LoanInstallment)
    (originalEntry compensatingEntry : Option MemberFinancialEntry)
    (components : List (LedgerEntry × LedgerEntry)) : Value :=
  .obj [("receipt_version", .str reversalReceiptVersion),
    ("receipt_number", .str r.receiptNumber),
    ("reversal", reversalJson r),
    ("payment", referencedPaymentJson p),
    ("settlement", hashedSettlementJson s),
    ("member", .obj [("id", idJson s.memberId)]),
    ("loan", .obj [("id", idJson loan.id), ("status_before", .str e.statusBefore.text),
      ("status_after", .str e.statusAfter.text),
      ("state_revision_before", revisionJson e.stateRevisionBefore),
      ("state_revision_after", revisionJson e.stateRevisionAfter),
      ("status_restored", .str loan.status.text),
      ("state_revision", revisionJson loan.stateRevision),
      ("paid_at_before", nullable instantJson e.paidAtBefore),
      ("paid_at_after", nullable instantJson e.paidAtAfter)]),
    ("loan_installment", .obj [("id", idJson inst.id),
      ("due_date", .str (Calendar.isoDate inst.dueDate)),
      ("status_before", statusJson e.installmentStatusBefore),
      ("status_after", statusJson e.installmentStatusAfter),
      ("paid_at_before", nullable instantJson e.installmentPaidAtBefore),
      ("paid_at_after", nullable instantJson e.installmentPaidAtAfter),
      ("status_restored", statusJson inst.status),
      ("paid_amount_restored", moneyJson inst.paidAmount),
      ("paid_penalty_amount_restored", moneyJson inst.paidPenaltyAmount)]),
    ("amounts", reversalAmountsJson r),
    ("member_financial", .obj [
      ("original_entry_id", nullable (fun (x : MemberFinancialEntry) => idJson x.id) originalEntry),
      ("compensating_entry_id",
        nullable (fun (x : MemberFinancialEntry) => idJson x.id) compensatingEntry)]),
    ("ledger_components", .arr (components.map (fun (original, compensating) => .obj [
      ("original_ledger_entry_id", idJson original.id),
      ("compensating_ledger_entry_id", idJson compensating.id),
      ("reversal_of_id", nullable idJson compensating.reversalOfId),
      ("amount", moneyJson original.amount.val),
      ("original_direction", .str original.direction.text),
      ("compensating_direction", .str compensating.direction.text)])))]

end Reversal

end Caixinha.Model
