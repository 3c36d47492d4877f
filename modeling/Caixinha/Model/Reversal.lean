import Caixinha.Model.Settlement

/-! Reversal of a settled payment: the evidence is checked against the present state, every
ledger entry is compensated and the obligation returns to what it was. -/
namespace Caixinha.Model

open Caixinha.Library Table Json

/-- `_validate_admin` -/
def validateAdmin (db : Db) (adminId : Nat) : Tx Unit :=
  refuseIf (¬ (db.user? adminId).any (fun u => u.isActive && u.isAdmin && u.isMaster))
    "Somente Administrador Master pode estornar pagamentos."

/-- `_validate_money`; a settlement that is not of a loan must be principal only. -/
def validateMoney (s : PaymentSettlement) (payment : Payment) (loan : Bool) : Tx AppliedAmounts := do
  let v := s.amounts
  refuseIf (v.amountReceived < 0 ∨ v.amountApplied < 0 ∨ v.principalApplied < 0 ∨
    v.interestApplied < 0 ∨ v.penaltyApplied < 0 ∨ v.excessAmount < 0)
    "Settlement possui valores financeiros negativos."
  refuseIf (v.amountReceived ≠ v.amountApplied + v.excessAmount)
    "Settlement possui equação de recebimento inválida."
  refuseIf (v.amountApplied ≠ v.principalApplied + v.interestApplied + v.penaltyApplied)
    "Settlement possui equação de aplicação inválida."
  refuseIf (s.components.any (fun c => v.interestApplied ≠ c.normalInterestApplied))
    "Settlement possui juros normais incompatíveis."
  refuseIf (s.components.any (fun c =>
    v.penaltyApplied ≠ c.lateInterestApplied + c.fixedPenaltyApplied))
    "Settlement possui encargos de mora incompatíveis."
  refuseIf (v.amountReceived ≠ payment.amountReceived.getD payment.amount)
    "Settlement não corresponde ao valor recebido pelo pagamento."
  refuseIf (¬ loan ∧ (v.interestApplied ≠ 0 ∨ v.penaltyApplied ≠ 0))
    "Contribution não pode possuir juros ou multa aplicados."
  refuseIf (¬ loan ∧ v.principalApplied ≠ v.amountApplied)
    "Settlement de Contribution possui principal incompatível."
  return v

section Rows

def paymentLedgerRows (db : Db) (paymentId : Nat) : List LedgerEntry :=
  db.ledgerEntries.filter (fun e => e.referenceId = toString paymentId)

def hasReversal (db : Db) (row : LedgerEntry) : Bool :=
  db.ledgerEntries.any (fun e => e.reversalOfId = some row.id)

def pendingReceipt (paymentId : Nat) : String := "pending:" ++ toString paymentId

/-- The reversal row before its receipt is written. -/
def reversalRow (env : Env) (db : Db) (payment : Payment) (settlement : PaymentSettlement)
    (adminId : Nat) (reason : String) (reversedAt : Int) (originalDate : OriginalDate)
    (amounts : AppliedAmounts) : PaymentReversal where
  id := nextKey PaymentReversal.id db.reversals
  paymentId := payment.id
  settlementId := settlement.id
  adminId
  reason
  reversedAt
  originalDate
  amounts
  receiptNumber := "PIX-REV-V1-" ++ toString payment.id
  receiptSnapshotJson := pendingReceipt payment.id
  receiptHash := env.sha256 (pendingReceipt payment.id)

/-- Add a reversal under the constraints of its table. -/
def insertReversal (db : Db) (r : PaymentReversal) : Tx Db := do
  let a := r.amounts
  requireConstraint (¬ db.reversals.any (fun x => x.paymentId = r.paymentId))
    "uq_payment_reversals_payment_id"
  requireConstraint (¬ db.reversals.any (fun x => x.settlementId = r.settlementId))
    "uq_payment_reversals_settlement_id"
  requireConstraint (0 ≤ a.amountReceived ∧ 0 ≤ a.amountApplied ∧ 0 ≤ a.principalApplied ∧
    0 ≤ a.interestApplied ∧ 0 ≤ a.penaltyApplied ∧ 0 ≤ a.excessAmount)
    "ck_payment_reversals_nonnegative_amounts"
  requireConstraint (a.amountReceived = a.amountApplied + a.excessAmount)
    "ck_payment_reversals_received_allocation"
  requireConstraint (a.amountApplied = a.principalApplied + a.interestApplied + a.penaltyApplied)
    "ck_payment_reversals_applied_components"
  return { db with reversals := db.reversals ++ [r] }

/-- Replace the pending receipt of a reversal by its snapshot. -/
def sealReversal (env : Env) (db : Db) (r : PaymentReversal) (snapshot : Value) :
    Db × PaymentReversal :=
  let text := dumps snapshot
  let sealed := { r with receiptSnapshotJson := text, receiptHash := env.sha256 text }
  ({ db with reversals := replace PaymentReversal.id db.reversals sealed }, sealed)

/-- The check some branches make of a new compensation. -/
def checkCompensation (original compensating : LedgerEntry) : Option String → Tx Unit
  | none => .ok ()
  | some mismatch =>
    refuseIf (compensating.id = original.id ∨ compensating.reversalOfId ≠ some original.id) mismatch

/-- Post the compensation of one original entry and link the two. -/
def compensate (env : Env) (clock : Int) (reversalId : Nat) (mismatch : Option String) (db : Db)
    (original : LedgerEntry) : Tx (Db × LedgerEntry) := do
  let (db, compensating) ← postEntry env db clock (compensationOf original)
  checkCompensation original compensating mismatch
  let component : PaymentReversalComponent :=
    { id := nextKey PaymentReversalComponent.id db.reversalComponents
      paymentReversalId := reversalId
      originalLedgerEntryId := original.id
      compensatingLedgerEntryId := compensating.id }
  return ({ db with reversalComponents := db.reversalComponents ++ [component] }, compensating)

/-- Compensate every original, each paired with its compensation. -/
def compensateAll (env : Env) (clock : Int) (reversalId : Nat) (mismatch : Option String) (db : Db) :
    List LedgerEntry → Tx (Db × List (LedgerEntry × LedgerEntry))
  | [] => .ok (db, [])
  | original :: originals => do
    let (db, compensating) ← compensate env clock reversalId mismatch db original
    let (db, pairs) ← compensateAll env clock reversalId mismatch db originals
    return (db, (original, compensating) :: pairs)

def byOriginal (pairs : List (LedgerEntry × LedgerEntry)) : List (LedgerEntry × LedgerEntry) :=
  pairs.insertionSort (fun a b => a.1.id ≤ b.1.id)

end Rows

section Contribution

/-- A payment names its contribution, or the contribution points back at it. -/
def checkContributionReference (payment : Payment) (c : Contribution) : Tx Unit :=
  match payment.reference with
  | some (.contribution id) => refuseIf (id ≠ c.id) "Referência de contribuição incompatível."
  | some _ => .error (.valueError "Pagamento não referencia uma contribuição.")
  | none => refuseIf (c.paymentId ≠ some payment.id) "Pagamento não está vinculado à contribuição."

/-- `_validate_contribution_reference` -/
def validateContributionReference (payment : Payment) (settlement : PaymentSettlement)
    (c : Contribution) : Tx Unit := do
  checkContributionReference payment c
  refuseIf (settlement.paymentId ≠ payment.id ∨ settlement.obligation ≠ .contribution c.id)
    "Settlement não corresponde ao pagamento/contribuição."
  refuseIf (settlement.memberId ≠ c.memberId)
    "Settlement não corresponde ao membro da contribuição."
  refuseIf (settlement.receiptVersion ≠ .v1)
    "Settlement incompatível com reversão de Contribution."
  refuseIf settlement.loanEvidence.isSome
    "Settlement de Contribution não pode possuir evidência de Loan."

/-- `_find_original_ledger`: the rows whose reference is the id of the payment. -/
def findOriginalLedger (db : Db) (paymentId : Nat) (amount : Int) : Tx (List LedgerEntry) :=
  let rows := paymentLedgerRows db paymentId
  if amount = 0 then do
    refuseIf (rows ≠ []) "Ledger inesperado para settlement sem valor aplicado."
    return []
  else match rows.filter (fun e => e.referenceType = .CONTRIBUTION_PAYMENT) with
  | [row] => do
    let extras := rows.filter (fun e => e.id ≠ row.id)
    refuseIf (extras.any (fun e => e.reversalOfId = some row.id))
      "Ledger de confirmação já possui reversão."
    refuseIf (extras ≠ []) "Ledger possui componentes inesperados."
    refuseIf (row.account ≠ "CAIXINHA" ∨ row.direction ≠ .CREDIT)
      "Ledger de confirmação incompatível."
    refuseIf (row.amount.val ≠ amount ∨ row.reversalOfId.isSome)
      "Valor ou origem do Ledger de confirmação inválido."
    refuseIf (hasReversal db row) "Ledger de confirmação já possui reversão."
    return rows
  | _ => .error (.valueError "Ledger de confirmação ausente ou duplicado.")

/-- The credits of a contribution less their reversals. -/
def contributionCreditOf (contributionId : Nat) (e : MemberFinancialEntry) : Int :=
  if e.contributionId = some contributionId then
    match e.entryType, e.direction with
    | .CONTRIBUTION, .CREDIT => e.amount.val
    | .CONTRIBUTION_REVERSAL, .DEBIT => -e.amount.val
    | _, _ => 0
  else 0

def activeContributionCredit (db : Db) (accountId contributionId : Nat) : Int :=
  ((db.memberEntries.filter (fun e => e.accountId = accountId)).map
    (contributionCreditOf contributionId)).sum

def contributionReversalDebit (c : Contribution) (reversalId : Nat) (amount : Int) :
    NewMemberEntry where
  entryType := .CONTRIBUTION_REVERSAL
  direction := .DEBIT
  amount := amount
  referenceType := some .PAYMENT_REVERSAL
  referenceId := some (toString reversalId)
  contributionId := some c.id
  paymentReversalId := some reversalId

/-- The patrimonial credit a reversal takes back: all of it, when the contribution stops being
paid. -/
def patrimonialReversal (db : Db) (account : MemberFinancialAccount) (c : Contribution)
    (before after : ObligationStatus) : Tx Int := do
  if ¬ (before = .PAID ∧ after ≠ .PAID) then return 0
  let credit := activeContributionCredit db account.id c.id
  refuseIf (credit ≠ 0 ∧ credit ≠ c.amount) "Crédito patrimonial da Contribution é inconsistente."
  return credit

/-- Debit a positive amount of patrimonial credit. -/
def debitPatrimony (db : Db) (clock : Int) (account : MemberFinancialAccount) (c : Contribution)
    (reversalId : Nat) (amount : Int) : Tx Db := do
  if amount ≤ 0 then return db
  let (db, _) ← addMemberFinancialEntry db clock account
    (contributionReversalDebit c reversalId amount)
  return db

/-- The contribution once `newPaid` is all that remains of its payments. -/
def unpaidContribution (c : Contribution) (newPaid : Int) (afterStatus : ObligationStatus) :
    Contribution :=
  { c with
    paidAmount := some newPaid
    status := if c.cancelledAt.isSome then .CANCELLED else afterStatus
    paidAt := if afterStatus = .PAID then c.paidAt else none }

def reverseContributionPayment (env : Env) (db : Db) (clock : Int) (payment : Payment)
    (settlement : PaymentSettlement) (contributionId adminId : Nat) (reason : String)
    (reversedAt : Int) : Tx (Db × PaymentReversal) := do
  let c ← orRefuse (db.contribution? contributionId) "Contribution não encontrada."
  let (db, account) ← lockMemberFinancialAccount db c.memberId
  validateContributionReference payment settlement c
  let values ← validateMoney settlement payment false
  refuseIf (c.amount < values.amountApplied) "Settlement excede o valor da Contribution."
  let currentPaid := c.paidAmount.getD 0
  refuseIf (currentPaid < values.amountApplied)
    "Contribution não possui valor pago suficiente para o estorno."
  let newPaid := currentPaid - values.amountApplied
  let afterStatus := contributionFinancialStatus c newPaid reversedAt
  let patrimonial ← patrimonialReversal db account c
    (contributionFinancialStatus c currentPaid reversedAt) afterStatus
  let originals ← findOriginalLedger db payment.id values.amountApplied
  let reversal := reversalRow env db payment settlement adminId reason reversedAt
    (.contributionCompetence c.competence) values
  let db ← insertReversal db reversal
  let (db, pairs) ← compensateAll env clock reversal.id
    (some "Compensação de Ledger incompatível com o original.") db originals
  let db := db.putContribution (unpaidContribution c newPaid afterStatus)
  let db ← debitPatrimony db clock account c reversal.id patrimonial
  return sealReversal env db reversal
    (contributionReversalSnapshot reversal payment settlement c c.status afterStatus (byOriginal pairs))

end Contribution

section Agreement

/-- The receipt must be canonical and carry its own digest. -/
def loadReceipt (env : Env) (settlement : PaymentSettlement) (unreadable broken : String) :
    Tx Value := do
  let snapshot ← orRefuse (loads settlement.receiptSnapshotJson) unreadable
  refuseIf (dumps snapshot ≠ settlement.receiptSnapshotJson ∨
    env.sha256 (dumps snapshot) ≠ settlement.receiptHash) broken
  return snapshot

/-- `_validate_agreement_settlement` -/
def validateAgreementSettlement (env : Env) (db : Db) (payment : Payment)
    (settlement : PaymentSettlement) (installmentId : Nat) :
    Tx (AppliedAmounts × AgreementEvidence × CollectionAgreement × AgreementInstallment) := do
  refuseIf (settlement.receiptVersion ≠ .v5) "Reversão de Agreement exige PaymentSettlement v5."
  refuseIf (settlement.paymentId ≠ payment.id)
    "Settlement incompatível com reversão de AgreementInstallment."
  refuseIf (payment.reference ≠ some (.agreementInstallment installmentId))
    "Payment não corresponde ao AgreementInstallment."
  let inst ← orRefuse (db.agreementInstallment? installmentId) "AgreementInstallment não encontrado."
  let agreement ← lockCollectionAgreement db inst.agreementId
  refuseIf (agreement.memberId ≠ settlement.memberId)
    "Settlement não corresponde ao membro do Agreement."
  let snapshot ← loadReceipt env settlement "Snapshot do settlement Agreement inválido."
    "Receipt/hash do settlement Agreement inválido."
  let values ← validateMoney settlement payment false
  refuseIf (values.interestApplied ≠ 0) "Settlement Agreement não pode possuir juros."
  refuseIf (values.amountApplied ≠ values.principalApplied + values.penaltyApplied)
    "Settlement Agreement possui componentes inválidos."
  refuseIf (values.amountReceived ≠ values.amountApplied + values.excessAmount)
    "Settlement Agreement possui excesso inválido."
  let e ← orRefuse settlement.agreementEvidence "Settlement v5 sem evidência completa do Agreement."
  refuseIf (e.agreementStatusBefore ∉ [AgreementStatus.APPROVED, .SETTLED] ∨
    e.agreementStatusAfter ∉ [AgreementStatus.APPROVED, .SETTLED])
    "Settlement v5 possui status de Agreement inválido."
  refuseIf (e.installmentStatusBefore ∉ [ObligationStatus.OPEN, .PARTIAL, .PAID] ∨
    e.installmentStatusAfter ∉ [ObligationStatus.OPEN, .PARTIAL, .PAID])
    "Settlement v5 possui status de parcela inválido."
  refuseIf (e.stateRevisionAfter ≠ e.stateRevisionBefore + 1)
    "Settlement v5 possui revisão de Agreement inválida."
  refuseIf (e.paidAmountBefore < 0 ∨ e.paidAmountAfter < 0 ∨ e.paidPenaltyAmountBefore < 0 ∨
    e.paidPenaltyAmountAfter < 0) "Settlement v5 possui valores absolutos negativos."
  refuseIf (e.paidAmountAfter ≠ e.paidAmountBefore + values.principalApplied)
    "Settlement v5 possui equação de paid_amount inválida."
  refuseIf (e.paidPenaltyAmountAfter ≠ e.paidPenaltyAmountBefore + values.penaltyApplied)
    "Settlement v5 possui equação de paid_penalty_amount inválida."
  let expected := settlementReceiptSnapshot payment settlement (ledgerSnapshot db payment.id)
  refuseIf (¬ sameJson snapshot expected ∨ settlement.receiptSnapshotJson ≠ dumps expected)
    "Snapshot v5 do settlement diverge das colunas."
  let obligation := field snapshot "obligation"
  refuseIf (¬ sameJson (field obligation "type") (.str "AGREEMENT_INSTALLMENT") ∨
    ¬ sameJson (field obligation "agreement_installment_id") (idJson inst.id) ∨
    ¬ sameJson (field obligation "member_id") (idJson settlement.memberId))
    "Referência do Agreement não corresponde ao snapshot."
  let paid := field snapshot "payment"
  refuseIf (¬ sameJson (field paid "id") (idJson payment.id) ∨
    ¬ sameJson (field paid "reference_type") (nullable (.str ·.type) payment.reference) ∨
    ¬ sameJson (field paid "reference_id") (nullable (.str ·.text) payment.reference))
    "Payment não corresponde ao snapshot do settlement."
  refuseIf (¬ sameJson (field snapshot "agreement_installment_state")
      (agreementInstallmentStateJson e) ∨
    ¬ sameJson (field snapshot "collection_agreement_state") (collectionAgreementStateJson e))
    "Evidência operacional do Agreement diverge do snapshot."
  return (values, e, agreement, inst)

/-- The one ledger entry of a settled agreement payment. -/
def findAgreementLedger (db : Db) (paymentId : Nat) (amount : Int) : Tx LedgerEntry :=
  let rows := paymentLedgerRows db paymentId
  match rows.filter (fun e => e.referenceType = .AGREEMENT_INSTALLMENT_PAYMENT ∧
      e.reversalOfId = none) with
  | [original] => do
    let extras := rows.filter (fun e => e.id ≠ original.id)
    refuseIf (extras.any (fun e => e.reversalOfId = some original.id))
      "Ledger Agreement já possui reversão."
    refuseIf (extras ≠ []) "Ledger Agreement possui componentes inesperados."
    refuseIf (original.account ≠ "CAIXINHA" ∨ original.direction ≠ .CREDIT ∨
      original.reversalOfId.isSome ∨ original.amount.val ≠ amount) "Ledger Agreement incompatível."
    refuseIf (hasReversal db original) "Ledger Agreement já possui reversão."
    return original
  | _ => .error (.valueError "Ledger Agreement ausente, duplicado ou com componente extra.")

/-- The installment with the columns it had before the settlement. -/
def restoredAgreementInstallment (inst : AgreementInstallment) (e : AgreementEvidence) :
    AgreementInstallment :=
  { inst with
    paidAmount := e.paidAmountBefore
    paidPenaltyAmount := e.paidPenaltyAmountBefore
    status := e.installmentStatusBefore
    paidAt := e.installmentPaidAtBefore }

/-- The present state must be the one the settlement left. -/
def checkAgreementState (inst : AgreementInstallment) (agreement : CollectionAgreement)
    (values : AppliedAmounts) (e : AgreementEvidence) : Tx Unit := do
  refuseIf (inst.paidAt ≠ e.installmentPaidAtAfter)
    "paid_at atual da parcela diverge do settlement v5."
  refuseIf (inst.status ≠ e.installmentStatusAfter ∨ inst.paidAmount ≠ e.paidAmountAfter ∨
    inst.paidPenaltyAmount ≠ e.paidPenaltyAmountAfter)
    "Estado atual da parcela diverge do settlement v5."
  refuseIf (agreement.status ≠ e.agreementStatusAfter ∨ agreement.stateRevision ≠ e.stateRevisionAfter)
    "Estado atual do Agreement diverge do settlement v5."
  refuseIf (inst.paidAmount - values.principalApplied ≠ e.paidAmountBefore ∨
    inst.paidPenaltyAmount - values.penaltyApplied ≠ e.paidPenaltyAmountBefore)
    "Valores da parcela não permitem restauração exata."

def restoredAgreement (agreement : CollectionAgreement) (e : AgreementEvidence) : CollectionAgreement :=
  touchCollectionAgreement { agreement with status := e.agreementStatusBefore }

/-- The writes of an agreement reversal, `reversal` being its new row. -/
def writeAgreementReversal (env : Env) (db : Db) (clock : Int) (payment : Payment)
    (settlement : PaymentSettlement) (inst : AgreementInstallment) (agreement : CollectionAgreement)
    (e : AgreementEvidence) (original : LedgerEntry) (reversal : PaymentReversal) :
    Tx (Db × PaymentReversal) := do
  let db ← insertReversal db reversal
  let (db, compensating) ← compensate env clock reversal.id
    (some "Compensação de Ledger Agreement incompatível.") db original
  let restored := restoredAgreementInstallment inst e
  let agreementAfter := restoredAgreement agreement e
  refuseIf (agreementAfter.stateRevision ≠ e.stateRevisionAfter + 1)
    "Revision do Agreement não avançou monotonicamente."
  let db := (db.putAgreementInstallment restored).putAgreement agreementAfter
  return sealReversal env db reversal
    (agreementReversalSnapshot reversal payment settlement e agreementAfter restored original
      compensating)

def reverseAgreementPayment (env : Env) (db : Db) (clock : Int) (payment : Payment)
    (settlement : PaymentSettlement) (installmentId adminId : Nat) (reason : String)
    (reversedAt : Int) : Tx (Db × PaymentReversal) := do
  let (values, e, agreement, inst) ←
    validateAgreementSettlement env db payment settlement installmentId
  checkAgreementState inst agreement values e
  let original ← findAgreementLedger db payment.id values.amountApplied
  writeAgreementReversal env db clock payment settlement inst agreement e original
    (reversalRow env db payment settlement adminId reason reversedAt
      (.agreementInstallmentDueDate inst.dueDate) values)

end Agreement

section Loan

/-- `_loan_ledgers` of one kind: exactly one intact row for a positive component, no row for
an empty one. -/
def loanLedger (db : Db) (paymentId : Nat) (kind : LedgerReferenceType) (amount : Int) :
    Tx (List LedgerEntry) :=
  let matching := (paymentLedgerRows db paymentId).filter (fun e => e.referenceType = kind)
  if 0 < amount then
    match matching with
    | [row] => do
      refuseIf (row.account ≠ "CAIXINHA" ∨ row.direction ≠ .CREDIT ∨ row.amount.val ≠ amount ∨
        row.reversalOfId.isSome) "Ledger de componente incompatível."
      refuseIf (hasReversal db row) "Ledger de componente já possui reversão."
      return [row]
    | _ => .error (.valueError "Ledger de componente ausente ou duplicado.")
  else do
    refuseIf (matching ≠ []) "Ledger fictício para componente sem valor aplicado."
    return []

def loanLedgers (db : Db) (paymentId : Nat) (values : AppliedAmounts) : Tx (List LedgerEntry) := do
  let interest ← loanLedger db paymentId .LOAN_INTEREST_PAYMENT values.interestApplied
  let penalty ← loanLedger db paymentId .LOAN_PENALTY_PAYMENT values.penaltyApplied
  return interest ++ penalty

/-- Whether the amounts of a receipt are those of the settlement. -/
def amountsMatch (settlement : PaymentSettlement) (amounts : Value) : Bool :=
  let v := settlement.amounts
  sameJson (field amounts "received") (moneyJson v.amountReceived) &&
  sameJson (field amounts "applied") (moneyJson v.amountApplied) &&
  sameJson (field amounts "principal") (moneyJson v.principalApplied) &&
  sameJson (field amounts "interest") (moneyJson v.interestApplied) &&
  sameJson (field amounts "penalty") (moneyJson v.penaltyApplied) &&
  sameJson (field amounts "excess") (moneyJson v.excessAmount)

def componentsMatch (c : LateChargeComponents) (amounts : Value) : Bool :=
  sameJson (field amounts "normal_price_interest") (moneyJson c.normalInterestApplied) &&
  sameJson (field amounts "late_interest") (moneyJson c.lateInterestApplied) &&
  sameJson (field amounts "fixed_penalty") (moneyJson c.fixedPenaltyApplied)

/-- `_validate_loan_settlement` -/
def validateLoanSettlement (env : Env) (payment : Payment) (settlement : PaymentSettlement)
    (installmentId : Nat) : Tx (AppliedAmounts × LoanEvidence) := do
  refuseIf (settlement.receiptVersion ≠ .v4) "Reversão de Loan exige PaymentSettlement v4."
  refuseIf (settlement.paymentId ≠ payment.id)
    "Settlement incompatível com reversão de LoanInstallment."
  let e ← orRefuse settlement.loanEvidence "Settlement v4 sem evidência completa da parcela."
  let snapshot ← loadReceipt env settlement "Snapshot do settlement inválido."
    "Receipt/hash do settlement inválido."
  let state := field snapshot "loan_installment_state"
  refuseIf (¬ sameJson (field state "status_before") (statusJson e.installmentStatusBefore) ∨
    ¬ sameJson (field state "status_after") (statusJson e.installmentStatusAfter))
    "Evidência operacional da parcela não corresponde ao snapshot."
  refuseIf (¬ sameJson (field state "paid_at_before") (nullable instantJson e.installmentPaidAtBefore) ∨
    ¬ sameJson (field state "paid_at_after") (nullable instantJson e.installmentPaidAtAfter))
    "paid_at operacional da parcela não corresponde ao snapshot."
  refuseIf (¬ sameJson (field snapshot "loan_state") (loanStateJson e))
    "Evidência do Loan não corresponde ao snapshot."
  let values ← validateMoney settlement payment true
  let amounts := field snapshot "amounts"
  refuseIf (¬ amountsMatch settlement amounts) "Valores do settlement não correspondem ao snapshot."
  refuseIf (settlement.components.any (fun c => ¬ componentsMatch c amounts))
    "Componentes versionados não correspondem ao snapshot."
  let paid := field snapshot "payment"
  refuseIf (¬ sameJson (field paid "id") (idJson payment.id) ∨
    ¬ sameJson (field paid "reference_type") (nullable (.str ·.type) payment.reference) ∨
    ¬ sameJson (field paid "reference_id") (nullable (.str ·.text) payment.reference))
    "Identidade do Payment não corresponde ao snapshot."
  let obligation := field snapshot "obligation"
  refuseIf (¬ sameJson (field obligation "type") (.str settlement.obligation.type) ∨
    ¬ sameJson (field obligation "loan_installment_id") (idJson installmentId) ∨
    ¬ sameJson (field obligation "member_id") (idJson settlement.memberId))
    "Referência da obrigação não corresponde ao snapshot."
  refuseIf (e.stateRevisionAfter ≠ e.stateRevisionBefore + 1)
    "Settlement v4 possui revisão do Loan inválida."
  return (values, e)

/-- The principal entry of the payment, which a positive principal must have. -/
def findPrincipalEntry (db : Db) (account : MemberFinancialAccount) (paymentId memberId : Nat)
    (principal : Int) : Tx (Option MemberFinancialEntry) := do
  let candidates := db.memberEntries.filter (fun e => e.accountId = account.id ∧
    e.referenceId = some (toString paymentId) ∧ e.entryType = .LOAN_PRINCIPAL_PAYMENT)
  if 0 < principal then
    match candidates with
    | [entry] =>
      refuseIf (entry.direction ≠ .CREDIT ∨ entry.referenceType ≠ some .LOAN_PRINCIPAL_PAYMENT ∨
        entry.amount.val ≠ principal)
        "MFE original de principal ausente, duplicada ou incompatível."
      refuseIf ((getMemberFinancialPosition db memberId).ownBalance < principal)
        "Saldo próprio insuficiente para estorno integral."
      return some entry
    | _ => .error (.valueError "MFE original de principal ausente, duplicada ou incompatível.")
  else
    refuseIf (candidates ≠ []) "MFE de principal inesperada para settlement sem principal."
    return none

def principalReversalDebit (reversalId : Nat) (amount : Int) : NewMemberEntry where
  entryType := .LOAN_PRINCIPAL_REVERSAL
  direction := .DEBIT
  amount := amount
  referenceType := some .PAYMENT_REVERSAL
  referenceId := some (toString reversalId)
  paymentReversalId := some reversalId

/-- Take back the principal the original entry credited. -/
def debitPrincipal (db : Db) (clock : Int) (account : MemberFinancialAccount)
    (reversalId : Nat) (original : Option MemberFinancialEntry) (amount : Int) :
    Tx (Db × Option MemberFinancialEntry) :=
  match original with
  | none => .ok (db, none)
  | some _ => do
    let (db, entry) ← addMemberFinancialEntry db clock account (principalReversalDebit reversalId amount)
    return (db, some entry)

/-- The projections must still hold the components a settlement paid. -/
def checkProjections (inst : LoanInstallment) : Option LateChargeComponents → Tx Unit
  | none => .ok ()
  | some c => do
    refuseIf (inst.lateCharge.isNone ∧ (c.fixedPenaltyApplied ≠ 0 ∨ c.lateInterestApplied ≠ 0))
      "Projeções versionadas da parcela estão ausentes."
    refuseIf (inst.projection.paidFixedPenaltyAmount < c.fixedPenaltyApplied ∨
      inst.projection.paidLateInterestAmount < c.lateInterestApplied)
      "Projeções versionadas não permitem restauração exata."

/-- The columns of the installment must still hold what the settlement paid. -/
def checkRestorable (inst : LoanInstallment) (values : AppliedAmounts)
    (components : Option LateChargeComponents) : Tx Unit := do
  refuseIf (inst.paidAmount < values.principalApplied + values.interestApplied ∨
    inst.paidPenaltyAmount < values.penaltyApplied)
    "Parcela não possui valores pagos suficientes para restauração."
  checkProjections inst components

/-- The installment less what the settlement paid, with the status it had. -/
def restoredInstallment (inst : LoanInstallment) (values : AppliedAmounts)
    (components : Option LateChargeComponents) (e : LoanEvidence) : LoanInstallment :=
  { inst with
    paidAmount := inst.paidAmount - (values.principalApplied + values.interestApplied)
    paidPenaltyAmount := inst.paidPenaltyAmount - values.penaltyApplied
    lateCharge := match components with
      | none => inst.lateCharge
      | some c => inst.lateCharge.map (fun p => { p with
          paidFixedPenaltyAmount := p.paidFixedPenaltyAmount - c.fixedPenaltyApplied
          paidLateInterestAmount := p.paidLateInterestAmount - c.lateInterestApplied })
    status := e.installmentStatusBefore
    paidAt := e.installmentPaidAtBefore }

def restoredLoan (loan : Loan) (e : LoanEvidence) : Loan :=
  touchLoan { loan with status := e.statusBefore, paidAt := e.paidAtBefore }

/-- The late-interest correction of the reversal of a settlement with components. -/
def adjustAfterReversal (db : Db) (settlement : PaymentSettlement) (reversal : PaymentReversal)
    (installmentId : Nat) : Tx Db :=
  match settlement.components with
  | none => .ok db
  | some _ => do
    let (db, _) ← materializeReversalLateInterestAdjustment db settlement reversal
    let inst ← lockInstallment db installmentId
    flushInstallment db inst.withPenaltyTotal

/-- The rows a loan reversal works on, checked against the settlement. -/
structure LoanReversalPlan where
  inst : LoanInstallment
  loan : Loan
  original : Option MemberFinancialEntry
  originals : List LedgerEntry

def planLoanReversal (db : Db) (account : MemberFinancialAccount) (payment : Payment)
    (settlement : PaymentSettlement) (installmentId : Nat) (values : AppliedAmounts)
    (e : LoanEvidence) : Tx LoanReversalPlan := do
  let inst ← orRefuse (db.installment? installmentId) "Payment não corresponde à LoanInstallment."
  refuseIf (payment.reference ≠ some (.loanInstallment inst.id))
    "Payment não corresponde à LoanInstallment."
  let loan ← orRefuse (db.loan? inst.loanId) "Empréstimo não encontrado."
  refuseIf (loan.memberId ≠ settlement.memberId ∨ loan.status ≠ e.statusAfter ∨
    loan.stateRevision ≠ e.stateRevisionAfter) "Estado atual do Loan diverge do settlement v4."
  refuseIf (loan.paidAt ≠ e.paidAtAfter) "paid_at atual do Loan diverge do settlement v4."
  refuseIf (inst.status ≠ e.installmentStatusAfter ∨ inst.paidAt ≠ e.installmentPaidAtAfter)
    "Estado atual da parcela diverge do settlement v4."
  let original ← findPrincipalEntry db account payment.id settlement.memberId values.principalApplied
  let originals ← loanLedgers db payment.id values
  checkRestorable inst values settlement.components
  return { inst, loan, original, originals }

/-- The writes of a loan reversal, `reversal` being its new row. -/
def writeLoanReversal (env : Env) (db : Db) (clock : Int) (account : MemberFinancialAccount)
    (payment : Payment) (settlement : PaymentSettlement) (plan : LoanReversalPlan)
    (e : LoanEvidence) (reversal : PaymentReversal) : Tx (Db × PaymentReversal) := do
  let values := reversal.amounts
  let db ← insertReversal db reversal
  let (db, compensating) ←
    debitPrincipal db clock account reversal.id plan.original values.principalApplied
  let (db, pairs) ← compensateAll env clock reversal.id none db plan.originals
  let db ← flushInstallment db (restoredInstallment plan.inst values settlement.components e)
  let loanAfter := restoredLoan plan.loan e
  let db := db.putLoan loanAfter
  let db ← adjustAfterReversal db settlement reversal plan.inst.id
  let restored ← lockInstallment db plan.inst.id
  return sealReversal env db reversal
    (loanReversalSnapshot reversal payment settlement e loanAfter restored plan.original compensating
      (byOriginal pairs))

def reverseLoanPayment (env : Env) (db : Db) (clock : Int) (payment : Payment)
    (settlement : PaymentSettlement) (installmentId adminId : Nat) (reason : String)
    (reversedAt : Int) : Tx (Db × PaymentReversal) := do
  let (values, e) ← validateLoanSettlement env payment settlement installmentId
  let (db, account) ← lockMemberFinancialAccount db settlement.memberId
  let plan ← planLoanReversal db account payment settlement installmentId values e
  writeLoanReversal env db clock account payment settlement plan e
    (reversalRow env db payment settlement adminId reason reversedAt
      (.loanInstallmentDueDate plan.inst.dueDate) values)

end Loan

/-- `reverse_payment`; a reversed payment is answered with the reversal it has. -/
def reversePayment (env : Env) (db : Db) (clock : Int) (paymentId adminId : Nat) (reason : String)
    (now : Option Timestamp) : Tx (Db × PaymentReversal) := do
  refuseIf (shortReason reason) "Informe um motivo de reversão com pelo menos 5 caracteres."
  refuseIf (now.any (fun t => ¬ t.aware)) "now precisa ser timezone-aware"
  let reversedAt := (now.map (·.instant)).getD clock
  let payment ← orRefuse (db.payment? paymentId) "Pagamento não encontrado."
  match db.reversalOfPayment? payment.id with
  | some existing => return (db, existing)
  | none =>
    refuseIf (payment.status ≠ "approved") "Somente pagamentos aprovados podem ser estornados."
    validateAdmin db adminId
    let settlement ← orRefuse (db.settlementOfPayment? payment.id)
      "PaymentSettlement obrigatório não encontrado."
    match settlement.obligation with
    | .loanInstallment id =>
      reverseLoanPayment env db clock payment settlement id adminId (strip reason) reversedAt
    | .agreementInstallment id =>
      reverseAgreementPayment env db clock payment settlement id adminId (strip reason) reversedAt
    | .contribution id =>
      reverseContributionPayment env db clock payment settlement id adminId (strip reason) reversedAt

end Caixinha.Model
