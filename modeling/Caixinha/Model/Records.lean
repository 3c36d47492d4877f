import Caixinha.Library.Table
import Caixinha.Model.Values

/-! The rows the money operations read and write, and the database that holds them.
Columns that no modelled operation reads are left out. -/
namespace Caixinha.Model

inductive Direction where
  | CREDIT | DEBIT
  deriving DecidableEq, Repr

def Direction.opposite : Direction → Direction
  | .CREDIT => .DEBIT
  | .DEBIT => .CREDIT

/-- `status` of contributions, loan installments and agreement installments. -/
inductive ObligationStatus where
  | OPEN | PENDING | PARTIAL | OVERDUE | PAID | CANCELLED | AGREED
  deriving DecidableEq, Repr

inductive LoanStatus where
  | REQUESTED | APPROVED | REJECTED | ACTIVE | OVERDUE | IN_COLLECTION | PAID | RESTRUCTURED
  deriving DecidableEq, Repr

inductive AgreementStatus where
  | REQUESTED | APPROVED | REJECTED | SETTLED
  deriving DecidableEq, Repr

inductive AttemptStatus where
  | PENDING | APPROVED | EXPIRED | CANCELLED | FAILED | SUPERSEDED
  deriving DecidableEq, Repr

inductive ReconciliationStatus where
  | PROVIDER_CREATE_UNKNOWN | STALE_EXPIRED | STALE_SUPERSEDED | SNAPSHOT_MISMATCH
  | LEGACY_UNVERIFIED | RECONCILIATION_REQUIRED
  deriving DecidableEq, Repr

inductive EntryType where
  | CONTRIBUTION | CONTRIBUTION_REVERSAL | LOAN_PRINCIPAL_COMMITMENT | LOAN_PRINCIPAL_PAYMENT
  | LOAN_PRINCIPAL_REVERSAL | LOAN_INTEREST_PAYMENT | LOAN_PENALTY_PAYMENT
  | OWN_BALANCE_RENEGOTIATION | OWN_BALANCE_SETTLEMENT | ADJUSTMENT
  deriving DecidableEq, Repr

inductive MemberReferenceType where
  | PAYMENT_SETTLEMENT | PAYMENT_REVERSAL | LOAN_PRINCIPAL_PAYMENT | LOAN_PRINCIPAL_COMMITMENT
  | OWN_BALANCE_SETTLEMENT | OWN_BALANCE_RENEGOTIATION
  deriving DecidableEq, Repr

inductive LedgerReferenceType where
  | CONTRIBUTION_PAYMENT | LOAN_DISBURSEMENT | LOAN_INTEREST_PAYMENT | LOAN_PENALTY_PAYMENT
  | LOAN_INSTALLMENT_PAYMENT | AGREEMENT_INSTALLMENT_PAYMENT | EXPENSE | REVERSAL
  deriving DecidableEq, Repr

inductive LateChargeEventType where
  | FIXED_PENALTY_ASSESSED | LATE_INTEREST_ACCRUED
  | LATE_INTEREST_ADJUSTMENT_INCREASE | LATE_INTEREST_ADJUSTMENT_DECREASE
  deriving DecidableEq, Repr

/-- The settlement receipts the settlement code writes. -/
inductive ReceiptVersion where
  | v1 | v4 | v5
  deriving DecidableEq, Repr

structure User where
  id : Nat
  isActive : Bool
  isAdmin : Bool
  isMaster : Bool
  deriving DecidableEq, Repr

structure Member where
  id : Nat
  deriving DecidableEq, Repr

structure MemberFinancialAccount where
  id : Nat
  memberId : Nat
  deriving DecidableEq, Repr

structure MemberFinancialEntry where
  id : Nat
  accountId : Nat
  entryType : EntryType
  direction : Direction
  amount : PositiveCents
  referenceType : Option MemberReferenceType
  referenceId : Option String
  createdAt : Int
  contributionId : Option Nat := none
  paymentSettlementId : Option Nat := none
  paymentReversalId : Option Nat := none
  deriving DecidableEq, Repr

structure Contribution where
  id : Nat
  memberId : Nat
  competence : Int
  amount : Int
  status : ObligationStatus
  paymentId : Option Nat
  dueDate : Option Int
  paidAmount : Option Int
  paidAt : Option Int
  cancelledAt : Option Int
  cancellationReason : Option String
  cycleId : Option Nat := none
  deriving DecidableEq, Repr

structure Loan where
  id : Nat
  memberId : Nat
  principal : Int
  principalSettledWithOwnBalance : Int
  calculationVersion : Option String
  status : LoanStatus
  disbursedAt : Option Int
  paidAt : Option Int
  stateRevision : Nat
  cycleId : Option Nat := none
  deriving DecidableEq, Repr

/-- The late-charge columns of an installment; they are null together until the first
materialization, and only one late-charge version exists. -/
structure LateChargeProjection where
  fixedPenaltyAmount : Int
  paidFixedPenaltyAmount : Int
  lateInterestAmount : Int
  paidLateInterestAmount : Int
  accruedThroughDate : Option Int
  deriving DecidableEq, Repr

structure LoanInstallment where
  id : Nat
  loanId : Nat
  number : Nat
  dueDate : Int
  principal : Int
  interest : Int
  amount : Int
  paidAmount : Int
  penaltyAmount : Int
  paidPenaltyAmount : Int
  lateCharge : Option LateChargeProjection
  paidAt : Option Int
  status : ObligationStatus
  lastPenaltyDate : Option Int := none
  deriving DecidableEq, Repr

structure LoanLateChargeEvent where
  id : Nat
  loanInstallmentId : Nat
  eventType : LateChargeEventType
  effectiveDate : Int
  amount : Int
  eligiblePrincipal : Option Int
  paymentSettlementId : Option Nat := none
  paymentReversalId : Option Nat := none
  deriving DecidableEq, Repr

structure CollectionAgreement where
  id : Nat
  loanId : Nat
  memberId : Nat
  status : AgreementStatus
  stateRevision : Nat
  installments : Nat := 0
  totalAmount : Int := 0
  decidedAt : Option Int := none
  deriving DecidableEq, Repr

structure AgreementInstallment where
  id : Nat
  agreementId : Nat
  number : Nat
  dueDate : Int
  principal : Int
  penaltyAmount : Int
  amount : Int
  paidAmount : Int
  paidPenaltyAmount : Int
  paidAt : Option Int
  status : ObligationStatus
  deriving DecidableEq, Repr

/-- `reference_type` with `reference_id`, always written as the decimal id of its row. -/
inductive PaymentReference where
  | contribution (id : Nat)
  | loanInstallment (id : Nat)
  | agreementInstallment (id : Nat)
  deriving DecidableEq, Repr

structure Payment where
  id : Nat
  provider : String
  providerOrderId : Option String
  providerPaymentId : Option String
  amount : Int
  status : String
  externalReference : Option String
  pixTxid : Option String
  endToEndId : Option String
  providerStatusDetail : Option String
  confirmedAt : Option Int
  expiresAt : Option Int
  amountReceived : Option Int
  ledgerPostedAt : Option Int
  reference : Option PaymentReference
  attemptStatus : Option AttemptStatus
  calculatedForDate : Option Int
  financialSnapshotJson : Option String
  snapshotHash : Option String
  reconciliationStatus : Option ReconciliationStatus
  deriving DecidableEq, Repr

/-- The obligation a settlement belongs to; exactly one of its three id columns is set. -/
inductive Obligation where
  | contribution (id : Nat)
  | loanInstallment (id : Nat)
  | agreementInstallment (id : Nat)
  deriving DecidableEq, Repr

/-- The money columns settlements and reversals share. -/
structure AppliedAmounts where
  amountReceived : Int
  amountApplied : Int
  principalApplied : Int
  interestApplied : Int
  penaltyApplied : Int
  excessAmount : Int
  deriving DecidableEq, Repr

/-- The components of a settlement with `settlement_component_version` set. -/
structure LateChargeComponents where
  normalInterestApplied : Int
  lateInterestApplied : Int
  fixedPenaltyApplied : Int
  deriving DecidableEq, Repr

structure LoanEvidence where
  statusBefore : LoanStatus
  statusAfter : LoanStatus
  stateRevisionBefore : Nat
  stateRevisionAfter : Nat
  paidAtBefore : Option Int
  paidAtAfter : Option Int
  installmentStatusBefore : ObligationStatus
  installmentStatusAfter : ObligationStatus
  installmentPaidAtBefore : Option Int
  installmentPaidAtAfter : Option Int
  deriving DecidableEq, Repr

structure AgreementEvidence where
  installmentStatusBefore : ObligationStatus
  installmentStatusAfter : ObligationStatus
  installmentPaidAtBefore : Option Int
  installmentPaidAtAfter : Option Int
  paidAmountBefore : Int
  paidAmountAfter : Int
  paidPenaltyAmountBefore : Int
  paidPenaltyAmountAfter : Int
  agreementStatusBefore : AgreementStatus
  agreementStatusAfter : AgreementStatus
  stateRevisionBefore : Nat
  stateRevisionAfter : Nat
  deriving DecidableEq, Repr

structure PaymentSettlement where
  id : Nat
  paymentId : Nat
  memberId : Nat
  obligation : Obligation
  amounts : AppliedAmounts
  components : Option LateChargeComponents
  obligationStatusBefore : ObligationStatus
  obligationStatusAfter : ObligationStatus
  confirmedAt : Int
  confirmationSource : String
  webhookEventId : Option Nat
  receiptNumber : String
  receiptVersion : ReceiptVersion
  receiptSnapshotJson : String
  receiptHash : String
  loanEvidence : Option LoanEvidence
  agreementEvidence : Option AgreementEvidence
  deriving DecidableEq, Repr

/-- `original_date_kind` with the one date column it asks for. -/
inductive OriginalDate where
  | contributionCompetence (competence : Int)
  | loanInstallmentDueDate (dueDate : Int)
  | agreementInstallmentDueDate (dueDate : Int)
  deriving DecidableEq, Repr

structure PaymentReversal where
  id : Nat
  paymentId : Nat
  settlementId : Nat
  adminId : Nat
  reason : String
  reversedAt : Int
  originalDate : OriginalDate
  amounts : AppliedAmounts
  receiptNumber : String
  receiptSnapshotJson : String
  receiptHash : String
  deriving DecidableEq, Repr

structure PaymentReversalComponent where
  id : Nat
  paymentReversalId : Nat
  originalLedgerEntryId : Nat
  compensatingLedgerEntryId : Nat
  deriving DecidableEq, Repr

/-- A ledger row; `financial_date` is set exactly on the rows of hash version 2. -/
structure LedgerEntry where
  id : Nat
  account : String
  direction : Direction
  amount : PositiveCents
  referenceType : LedgerReferenceType
  referenceId : String
  reversalOfId : Option Nat
  previousHash : Option String
  entryHash : String
  createdAt : Int
  financialDate : Option Int := none
  deriving DecidableEq, Repr

structure Expense where
  id : Nat
  amount : Int
  deriving DecidableEq, Repr

theorem defaultMonthlyAmount_pos : (0 : Int) < 15000 := by decide

/-- A cycle; the terms not given are those of the first one. -/
structure Cycle where
  id : Nat
  startDate : Int
  entryDeadline : Int := 20828
  monthlyAmount : PositiveCents := ⟨15000, defaultMonthlyAmount_pos⟩
  months : Nat := 12
  maxQuotas : Nat := 50
  deriving DecidableEq, Repr

/-- A quota of a cycle holds whole units. -/
structure Quota where
  id : Nat
  memberId : Nat
  cycleId : Option Nat
  units : Nat
  active : Bool
  deriving DecidableEq, Repr

/-- `status` of a participation with the one moment its check constraint asks for. -/
inductive ParticipationState where
  | active
  | voluntarilyExited (voluntaryExitAt : Int)
  | blockedDelinquency (blockedAt : Int)
  deriving DecidableEq, Repr

structure CycleParticipation where
  id : Nat
  cycleId : Nat
  memberId : Nat
  state : ParticipationState
  joinedAt : Option Int := none
  blockReason : Option String := none
  deriving DecidableEq, Repr

inductive ContributionChargeEventType where
  | ACCRUAL_SNAPSHOT | BLOCK_FREEZE
  deriving DecidableEq, Repr

structure ContributionChargeEvent where
  id : Nat
  contributionId : Nat
  eventType : ContributionChargeEventType
  accruedThrough : Int
  fixedPenalty : Int
  dailyInterest : Int
  createdAt : Int
  participationId : Nat := 0
  ruleVersion : String := "contribution-late-v1"
  cancelledPrincipal : Int := 0
  deriving DecidableEq, Repr

inductive RealizedGainEventType where
  | INVESTMENT_YIELD_REALIZED | OTHER_REALIZED_GAIN
  deriving DecidableEq, Repr

structure CycleRealizedGainEvent where
  id : Nat
  cycleId : Nat
  eventType : RealizedGainEventType
  amount : PositiveCents
  realizedAt : Int
  reversalOfId : Option Nat := none
  deriving DecidableEq, Repr

structure Db where
  users : List User := []
  members : List Member := []
  accounts : List MemberFinancialAccount := []
  memberEntries : List MemberFinancialEntry := []
  contributions : List Contribution := []
  loans : List Loan := []
  loanInstallments : List LoanInstallment := []
  lateChargeEvents : List LoanLateChargeEvent := []
  agreements : List CollectionAgreement := []
  agreementInstallments : List AgreementInstallment := []
  payments : List Payment := []
  settlements : List PaymentSettlement := []
  reversals : List PaymentReversal := []
  reversalComponents : List PaymentReversalComponent := []
  ledgerEntries : List LedgerEntry := []
  expenses : List Expense := []
  cycles : List Cycle := []
  quotas : List Quota := []
  participations : List CycleParticipation := []
  contributionChargeEvents : List ContributionChargeEvent := []
  realizedGainEvents : List CycleRealizedGainEvent := []
  deriving DecidableEq, Repr

/-- What the code takes from its environment: the digest and the configured date from
which installments fall under late charge v1. -/
structure Env where
  sha256 : String → String
  lateChargeEffectiveDate : Option Int

open Caixinha.Library.Table

namespace Db
variable (db : Db)

def user? (id : Nat) : Option User := lookup User.id db.users id
def member? (id : Nat) : Option Member := lookup Member.id db.members id
def contribution? (id : Nat) : Option Contribution := lookup Contribution.id db.contributions id
def loan? (id : Nat) : Option Loan := lookup Loan.id db.loans id
def installment? (id : Nat) : Option LoanInstallment :=
  lookup LoanInstallment.id db.loanInstallments id
def agreement? (id : Nat) : Option CollectionAgreement :=
  lookup CollectionAgreement.id db.agreements id
def agreementInstallment? (id : Nat) : Option AgreementInstallment :=
  lookup AgreementInstallment.id db.agreementInstallments id
def payment? (id : Nat) : Option Payment := lookup Payment.id db.payments id
def ledgerEntry? (id : Nat) : Option LedgerEntry := lookup LedgerEntry.id db.ledgerEntries id
def cycle? (id : Nat) : Option Cycle := lookup Cycle.id db.cycles id
def settlement? (id : Nat) : Option PaymentSettlement :=
  lookup PaymentSettlement.id db.settlements id
def settlementOfPayment? (paymentId : Nat) : Option PaymentSettlement :=
  db.settlements.find? (fun s => s.paymentId = paymentId)
def reversalOfPayment? (paymentId : Nat) : Option PaymentReversal :=
  db.reversals.find? (fun r => r.paymentId = paymentId)
def reversalOfSettlement? (settlementId : Nat) : Option PaymentReversal :=
  db.reversals.find? (fun r => r.settlementId = settlementId)

def putContribution (c : Contribution) : Db :=
  { db with contributions := replace Contribution.id db.contributions c }
def putLoan (loan : Loan) : Db := { db with loans := replace Loan.id db.loans loan }
def putInstallment (inst : LoanInstallment) : Db :=
  { db with loanInstallments := replace LoanInstallment.id db.loanInstallments inst }
def putAgreement (agreement : CollectionAgreement) : Db :=
  { db with agreements := replace CollectionAgreement.id db.agreements agreement }
def putAgreementInstallment (inst : AgreementInstallment) : Db :=
  { db with agreementInstallments := replace AgreementInstallment.id db.agreementInstallments inst }
def putPayment (payment : Payment) : Db :=
  { db with payments := replace Payment.id db.payments payment }

end Db

end Caixinha.Model
