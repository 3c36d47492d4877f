import Caixinha.Model.Receipts
import Caixinha.Library.Fallible

/-! Whether a reversal completely undoes its payment: its receipt, the receipt of the
settlement, the obligation and every compensating entry are compared with each other. -/
namespace Caixinha.Model

open Caixinha.Library Table Json

/-- `(True, "")`, or the detail that comes with `False`. -/
abbrev Finding := Except String

def findingIf (p : Prop) [Decidable p] (detail : String) : Finding Unit :=
  if p then .error detail else .ok ()

def orFinding {α : Type} (found : Option α) (detail : String) : Finding α :=
  match found with
  | some a => .ok a
  | none => .error detail

/-- `value.get(key) == expected` -/
def holds (v : Value) (key : String) (expected : Value) : Bool := sameJson (field v key) expected

/-- A field that, where it is present, must be as expected. -/
def holdsIfPresent (v : Value) (key : String) (expected : Value) : Bool :=
  (get? v key).all (fun x => sameJson x expected)

def isoDateJson (day : Int) : Value := .str (Calendar.isoDate day)

section Receipts
variable (env : Env) (r : PaymentReversal) (p : Payment) (s : PaymentSettlement)

/-- `_settlement_valid` -/
def settlementValid : Finding Unit := do
  findingIf (s.paymentId ≠ p.id) "settlement não referencia o Payment"
  let snapshot ← orFinding (loads s.receiptSnapshotJson) "receipt do settlement ilegível"
  findingIf (dumps snapshot ≠ s.receiptSnapshotJson ∨ env.sha256 (dumps snapshot) ≠ s.receiptHash)
    "receipt/hash do settlement inválido"
  findingIf (¬ holds (field snapshot "payment") "id" (idJson p.id))
    "Payment ausente ou incompatível no settlement"

def reversalMetadataHolds (snapshot : Value) : Bool :=
  let metadata := field snapshot "reversal"
  holds metadata "id" (idJson r.id) && holds metadata "admin_id" (idJson r.adminId) &&
    holds metadata "reason" (.str r.reason)

/-- `_receipt_valid` of a reversal whose `receipt_version` is `version`. -/
def receiptValid (version : String) : Finding Value := do
  let snapshot ← orFinding (loads r.receiptSnapshotJson) "receipt do reversal ilegível"
  findingIf (r.receiptSnapshotJson ≠ dumps snapshot) "receipt do reversal não é canônico"
  findingIf (env.sha256 (dumps snapshot) ≠ r.receiptHash) "hash do reversal inválido"
  findingIf (¬ holds snapshot "receipt_version" (.str version) ∨
    ¬ holds snapshot "receipt_number" (.str r.receiptNumber))
    "identidade do receipt do reversal incompatível"
  findingIf (¬ reversalMetadataHolds r snapshot) "metadados do reversal incompatíveis"
  return snapshot

/-- `_assert_common_snapshot`; `version` is the `receipt_version` of the settlement. -/
def assertCommonSnapshot (version : String) (snapshot : Value) : Finding Unit := do
  let payment := field snapshot "payment"
  findingIf (¬ holds payment "id" (idJson p.id) ∨ ¬ holds payment "status" (.str p.status))
    "Payment do receipt do reversal incompatível"
  findingIf (¬ holdsIfPresent payment "reference_type" (nullable (.str ·.type) p.reference))
    "reference_type do Payment incompatível"
  findingIf (¬ holdsIfPresent payment "reference_id" (nullable (.str ·.text) p.reference))
    "reference_id do Payment incompatível"
  let settlement := field snapshot "settlement"
  findingIf (¬ holds settlement "id" (idJson s.id))
    "Settlement do receipt do reversal incompatível"
  findingIf (¬ holdsIfPresent settlement "receipt_number" (.str s.receiptNumber))
    "receipt_number do Settlement incompatível"
  findingIf (¬ holdsIfPresent settlement "receipt_version" (.str version))
    "receipt_version do Settlement incompatível"
  findingIf (¬ holdsIfPresent settlement "receipt_hash" (.str s.receiptHash))
    "receipt_hash do Settlement incompatível"
  findingIf (¬ holds (field snapshot "reversal") "reversed_at" (instantJson r.reversedAt))
    "reversed_at do receipt incompatível"
  findingIf (¬ holds (field snapshot "reversal") "reversal_competence"
    (isoDateJson r.reversalCompetence)) "reversal_competence do receipt incompatível"
  findingIf (¬ reversalMetadataHolds r snapshot) "metadados do reversal incompatíveis"
  findingIf (¬ holds snapshot "amounts" (reversalAmountsJson r))
    "valores do receipt do reversal incompatíveis"
  findingIf (r.amounts ≠ s.amounts) "valores do reversal divergem do Settlement"

end Receipts

section Components
variable (db : Db) (r : PaymentReversal)

def componentsOf : List PaymentReversalComponent :=
  db.reversalComponents.filter (fun c => c.paymentReversalId = r.id)

/-- One original entry with its only compensation. -/
def compensationHolds (original : LedgerEntry) : Finding Unit := do
  let component ← orFinding
    ((componentsOf db r).find? (fun c => c.originalLedgerEntryId = original.id))
    "component do Ledger original ausente"
  let compensating ← orFinding
    ((db.ledgerEntry? component.compensatingLedgerEntryId).filter (fun e => e.id ≠ original.id))
    "Ledger compensatório ausente ou igual ao original"
  findingIf ((db.ledgerEntries.filter (fun e => e.reversalOfId = some original.id)).map (·.id) ≠
    [compensating.id]) "Ledger compensatório ausente, duplicado ou incompatível"
  findingIf (compensating.account ≠ original.account ∨
    compensating.direction = original.direction) "Ledger compensatório incompatível"
  findingIf (compensating.amount ≠ original.amount) "valor do Ledger compensatório incompatível"
  findingIf (compensating.referenceType ≠ .REVERSAL ∨
    compensating.referenceId ≠ toString original.id)
    "referência do Ledger compensatório incompatível"
  findingIf (compensating.reversalOfId ≠ some original.id) "reversal_of_id incompatível"
  findingIf (
    (db.reversalComponents.filter (fun c => c.originalLedgerEntryId = original.id)).length ≠ 1 ∨
    (db.reversalComponents.filter
      (fun c => c.compensatingLedgerEntryId = compensating.id)).length ≠ 1)
    "vínculo do componente não é único"

/-- `_component_chain` -/
def componentChain (expected : List LedgerEntry) : Finding Unit := do
  let components := componentsOf db r
  findingIf (components.length ≠ expected.length)
    "componentes do reversal ausentes ou duplicados"
  findingIf (¬ (components.map (·.originalLedgerEntryId)).Nodup) "componentes do reversal duplicados"
  expected.forM (compensationHolds db r)

/-- `_payment_ledger_set_is_exact` -/
def paymentLedgerSetIsExact (p : Payment) (expected : List LedgerEntry) : Finding Unit :=
  let ids := expected.map (·.id)
  findingIf ((db.ledgerEntries.filter (fun e => e.referenceId = toString p.id)).any
    (fun row => row.id ∉ ids ∧ ¬ row.reversalOfId.any (· ∈ ids)))
    "Ledger payment-linked extra ou incompatível"

/-- The two ids a component of the receipt lists. -/
def listedPair (item : Value) : String × String :=
  (dumps (field item "original_ledger_entry_id"), dumps (field item "compensating_ledger_entry_id"))

def expectedPairs (expected : List LedgerEntry) : List (String × String) :=
  expected.flatMap (fun row =>
    ((componentsOf db r).filter (fun c => c.originalLedgerEntryId = row.id)).map (fun c =>
      (dumps (idJson row.id), dumps (idJson c.compensatingLedgerEntryId))))

/-- `_receipt_components_match` -/
def receiptComponentsMatch (snapshot : Value) (expected : List LedgerEntry) : Finding Unit :=
  let pairs := expectedPairs db r expected
  match field snapshot "ledger_components", field snapshot "ledger_component" with
  | .null, .obj single => do
    findingIf (expected.length ≠ 1) "componentes ausentes no receipt do reversal"
    findingIf (pairs.head? ≠ some (listedPair (.obj single)))
      "component do receipt do reversal incompatível"
  | .null, _ => .error "componentes ausentes no receipt do reversal"
  | .arr listed, _ =>
    findingIf (¬ (listed.map listedPair ⊆ pairs ∧ pairs ⊆ listed.map listedPair))
      "componentes do receipt do reversal incompatíveis"
  | _, _ => .error "componentes do receipt do reversal incompatíveis"

/-- The rows a component of the payment must have left in the ledger. -/
def originalLedgerRows (type : LedgerReferenceType) (p : Payment) : List LedgerEntry :=
  db.ledgerEntries.filter (fun e => e.referenceType = type ∧ e.referenceId = toString p.id ∧
    e.reversalOfId = none)

def isCreditOf (amount : Int) (e : LedgerEntry) : Bool :=
  e.account = "CAIXINHA" ∧ e.direction = .CREDIT ∧ e.amount.val = amount

end Components

section Obligations
variable (db : Db) (p : Payment) (s : PaymentSettlement) (r : PaymentReversal) (snapshot : Value)

/-- `_validate_contribution` -/
def validateContribution (contributionId : Nat) : Finding Unit := do
  findingIf (s.receiptVersion ≠ .v1) "settlement Contribution possui versão incompatível"
  let c ← orFinding ((db.contribution? contributionId).filter (fun c => s.memberId = c.memberId))
    "Contribution do settlement inexistente ou incompatível"
  findingIf (r.originalDate ≠ .contributionCompetence c.competence)
    "competência original da Contribution incompatível"
  let obligation := field snapshot "obligation"
  findingIf (¬ holds obligation "type" (.str "CONTRIBUTION") ∨
    ¬ holds obligation "contribution_id" (idJson c.id))
    "obrigação do receipt Contribution incompatível"
  findingIf (¬ holds obligation "original_competence" (isoDateJson c.competence))
    "competência original da Contribution incompatível"
  findingIf (holds obligation "state_before" .null ∨ holds obligation "state_after" .null)
    "estado da Contribution ausente no receipt"
  let original ← match originalLedgerRows db .CONTRIBUTION_PAYMENT p with
    | [row] => .ok row
    | _ => .error "Ledger original Contribution ausente ou duplicado"
  findingIf (¬ isCreditOf s.amounts.amountApplied original)
    "Ledger original Contribution incompatível"
  paymentLedgerSetIsExact db p [original]
  findingIf (¬ holds (field snapshot "amounts") "amount_applied" (moneyJson s.amounts.amountApplied))
    "valor do receipt Contribution incompatível"
  componentChain db r [original]
  receiptComponentsMatch db r snapshot [original]

/-- The ledger row of one component of a loan payment, where it is positive. -/
def loanComponentRow (type : LedgerReferenceType) (amount : Int) : Finding (List LedgerEntry) :=
  let rows := originalLedgerRows db type p
  if 0 < amount then
    match rows with
    | [row] => do
      findingIf (¬ isCreditOf amount row)
        s!"Ledger original Loan {type.text} ausente ou incompatível"
      return [row]
    | _ => .error s!"Ledger original Loan {type.text} ausente ou incompatível"
  else do
    findingIf (rows ≠ []) s!"Ledger Loan inesperado para {type.text}"
    return []

def belongsTo (memberId : Nat) (e : MemberFinancialEntry) : Bool :=
  db.accounts.any (fun a => a.id = e.accountId ∧ a.memberId = memberId)

def loanStateHolds (loan : Loan) : Bool :=
  let state := field snapshot "loan"
  let e := s.loanEvidence
  holds state "id" (idJson loan.id) &&
    holds state "status_before" (nullable (.str ·.statusBefore.text) e) &&
    holds state "status_after" (nullable (.str ·.statusAfter.text) e) &&
    holds state "state_revision_before" (nullable (revisionJson ·.stateRevisionBefore) e) &&
    holds state "state_revision_after" (nullable (revisionJson ·.stateRevisionAfter) e) &&
    holds state "paid_at_before" (nullable instantJson (e.bind (·.paidAtBefore))) &&
    holds state "paid_at_after" (nullable instantJson (e.bind (·.paidAtAfter)))

def loanInstallmentStateHolds : Bool :=
  let state := field snapshot "loan_installment"
  let e := s.loanEvidence
  holds state "status_before" (nullable (statusJson ·.installmentStatusBefore) e) &&
    holds state "status_after" (nullable (statusJson ·.installmentStatusAfter) e) &&
    holds state "paid_at_before" (nullable instantJson (e.bind (·.installmentPaidAtBefore))) &&
    holds state "paid_at_after" (nullable instantJson (e.bind (·.installmentPaidAtAfter)))

/-- The patrimonial entries of the principal and of its reversal. -/
def principalEntriesHold : Finding Unit := do
  let principal := s.amounts.principalApplied
  if 0 < principal then
    let entries := db.memberEntries.filter (fun e => e.entryType = .LOAN_PRINCIPAL_PAYMENT ∧
      e.referenceType = some .LOAN_PRINCIPAL_PAYMENT ∧ e.referenceId = some (toString p.id) ∧
      belongsTo db s.memberId e)
    findingIf (entries.length ≠ 1 ∨
      entries.any (fun e => e.amount.val ≠ principal ∨ e.direction ≠ .CREDIT))
      "MFE original de principal Loan ausente ou incompatível"
    let compensations := db.memberEntries.filter (fun e => e.entryType = .LOAN_PRINCIPAL_REVERSAL ∧
      e.direction = .DEBIT ∧ e.referenceType = some .PAYMENT_REVERSAL ∧
      e.referenceId = some (toString r.id) ∧ e.paymentReversalId = some r.id ∧
      belongsTo db s.memberId e)
    findingIf (compensations.length ≠ 1 ∨ compensations.any (fun e => e.amount.val ≠ principal))
      "MFE compensatória de principal Loan ausente ou incompatível"
  else
    findingIf (db.memberEntries.any (fun e => e.entryType = .LOAN_PRINCIPAL_REVERSAL ∧
      e.paymentReversalId = some r.id)) "MFE compensatória inesperada para principal zero"
    let member := field snapshot "member_financial"
    findingIf (¬ holds member "original_entry_id" .null ∨
      ¬ holds member "compensating_entry_id" .null) "MFE indevida para principal zero"

/-- `_validate_loan` -/
def validateLoan (installmentId : Nat) : Finding Unit := do
  findingIf (s.receiptVersion ≠ .v4) "settlement Loan possui versão incompatível"
  let inst ← orFinding (db.installment? installmentId) "LoanInstallment do settlement inexistente"
  findingIf (r.originalDate ≠ .loanInstallmentDueDate inst.dueDate)
    "due_date original do Loan incompatível"
  let loan ← orFinding (db.loan? inst.loanId) "Loan do settlement inexistente"
  let obligation := field snapshot "loan_installment"
  findingIf (¬ holds obligation "id" (idJson inst.id) ∨
    ¬ holds obligation "due_date" (isoDateJson inst.dueDate))
    "LoanInstallment do receipt incompatível"
  let interest ← loanComponentRow db p .LOAN_INTEREST_PAYMENT s.amounts.interestApplied
  let penalty ← loanComponentRow db p .LOAN_PENALTY_PAYMENT s.amounts.penaltyApplied
  let expected := interest ++ penalty
  paymentLedgerSetIsExact db p expected
  findingIf (¬ loanStateHolds s snapshot loan) "estado do Loan no receipt incompatível"
  findingIf (¬ loanInstallmentStateHolds s snapshot)
    "estado da LoanInstallment no receipt incompatível"
  principalEntriesHold db p s r snapshot
  componentChain db r expected
  receiptComponentsMatch db r snapshot expected

def agreementStateHolds (agreement : CollectionAgreement) (inst : AgreementInstallment) :
    Finding Unit := do
  let state := field snapshot "agreement"
  let e := s.agreementEvidence
  findingIf (¬ holds state "id" (idJson agreement.id) ∨
    ¬ holds state "status_before" (nullable (.str ·.agreementStatusBefore.text) e) ∨
    ¬ holds state "status_after" (nullable (.str ·.agreementStatusAfter.text) e))
    "estado do Agreement no receipt incompatível"
  let row := field snapshot "agreement_installment"
  findingIf (¬ holds row "id" (idJson inst.id) ∨
    ¬ holds row "due_date" (isoDateJson inst.dueDate) ∨
    ¬ holds row "status_before" (nullable (statusJson ·.installmentStatusBefore) e) ∨
    ¬ holds row "status_after" (nullable (statusJson ·.installmentStatusAfter) e))
    "estado da AgreementInstallment no receipt incompatível"

/-- `_validate_agreement` -/
def validateAgreement (installmentId : Nat) : Finding Unit := do
  findingIf (s.receiptVersion ≠ .v5) "settlement Agreement possui versão incompatível"
  let inst ← orFinding (db.agreementInstallment? installmentId)
    "obrigação Agreement inexistente ou incompatível"
  let agreement ← orFinding
    ((db.agreement? inst.agreementId).filter (fun a => s.memberId = a.memberId))
    "obrigação Agreement inexistente ou incompatível"
  findingIf (r.originalDate ≠ .agreementInstallmentDueDate inst.dueDate)
    "due_date original do Agreement incompatível"
  findingIf (¬ holds snapshot "obligation" (.obj [("type", .str "AGREEMENT_INSTALLMENT"),
    ("member_id", idJson s.memberId), ("agreement_installment_id", idJson inst.id),
    ("collection_agreement_id", idJson agreement.id)]))
    "obrigação do receipt Agreement incompatível"
  let original ← match originalLedgerRows db .AGREEMENT_INSTALLMENT_PAYMENT p with
    | [row] => .ok row
    | _ => .error "Ledger original Agreement ausente ou incompatível"
  findingIf (¬ isCreditOf s.amounts.amountApplied original)
    "Ledger original Agreement ausente ou incompatível"
  paymentLedgerSetIsExact db p [original]
  agreementStateHolds s snapshot agreement inst
  componentChain db r [original]
  receiptComponentsMatch db r snapshot [original]

def validateObligation : Finding Unit :=
  match s.obligation with
  | .contribution id => validateContribution db p s r snapshot id
  | .loanInstallment id => validateLoan db p s r snapshot id
  | .agreementInstallment id => validateAgreement db p s r snapshot id

end Obligations

/-- `validate_reversal_effect` -/
def validateReversalEffect (env : Env) (db : Db) (r : PaymentReversal) : Finding Unit := do
  let p ← orFinding (db.payment? r.paymentId) "Payment/Settlement original inexistente"
  let s ← orFinding (db.settlement? r.settlementId) "Payment/Settlement original inexistente"
  findingIf (s.paymentId ≠ p.id) "PaymentSettlement não referencia o Payment"
  settlementValid env p s
  let snapshot ← receiptValid env r reversalReceiptVersion
  assertCommonSnapshot r p s s.receiptVersion.text snapshot
  findingIf (p.status ≠ "approved") "Payment não está approved"
  validateObligation db p s r snapshot

def reversalVerified (env : Env) (db : Db) (r : PaymentReversal) : Bool :=
  (validateReversalEffect env db r).isOk

end Caixinha.Model
