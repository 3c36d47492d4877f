import Caixinha.Model.LedgerChain
import Caixinha.Model.ReversalEvidence

/-! The temporal receipts, `v6` of a settlement and `v2` of a reversal: how the code rebuilds
them from the rows they bind, and what it accepts of a stored one. -/
namespace Caixinha.Model

open Caixinha.Library Table Json

/-- `receipt_version` and `financial_date` of a settlement or a reversal, as the table holds
them whoever wrote the row. -/
structure ReceiptColumns where
  version : String
  financialDate : Option Int
  deriving DecidableEq, Repr

/-- The database with the receipt columns of its settlements and reversals, by the id of their
row; they stand in the place of the version that the writers of the typed rows know. -/
structure ReceiptBooks where
  db : Db
  settlementColumns : Nat → ReceiptColumns
  reversalColumns : Nat → ReceiptColumns
  settlementsKeyed : Keyed PaymentSettlement.id db.settlements

def EntryType.text : EntryType → String
  | .CONTRIBUTION => "CONTRIBUTION"
  | .CONTRIBUTION_REVERSAL => "CONTRIBUTION_REVERSAL"
  | .LOAN_PRINCIPAL_COMMITMENT => "LOAN_PRINCIPAL_COMMITMENT"
  | .LOAN_PRINCIPAL_PAYMENT => "LOAN_PRINCIPAL_PAYMENT"
  | .LOAN_PRINCIPAL_REVERSAL => "LOAN_PRINCIPAL_REVERSAL"
  | .LOAN_INTEREST_PAYMENT => "LOAN_INTEREST_PAYMENT"
  | .LOAN_PENALTY_PAYMENT => "LOAN_PENALTY_PAYMENT"
  | .OWN_BALANCE_RENEGOTIATION => "OWN_BALANCE_RENEGOTIATION"
  | .OWN_BALANCE_SETTLEMENT => "OWN_BALANCE_SETTLEMENT"
  | .ADJUSTMENT => "ADJUSTMENT"

def MemberReferenceType.text : MemberReferenceType → String
  | .PAYMENT_SETTLEMENT => "PAYMENT_SETTLEMENT"
  | .PAYMENT_REVERSAL => "PAYMENT_REVERSAL"
  | .LOAN_PRINCIPAL_PAYMENT => "LOAN_PRINCIPAL_PAYMENT"
  | .LOAN_PRINCIPAL_COMMITMENT => "LOAN_PRINCIPAL_COMMITMENT"
  | .OWN_BALANCE_SETTLEMENT => "OWN_BALANCE_SETTLEMENT"
  | .OWN_BALANCE_RENEGOTIATION => "OWN_BALANCE_RENEGOTIATION"

def settlementTemporalVersion : String := "v6"
def reversalTemporalVersion : String := "v2"

section Chain
variable (env : Env)

/-- The rows follow each other in the chain, each with the digest of its own columns. -/
def chainHolds : Option String → List LedgerEntry → Bool
  | _, [] => true
  | previous, entry :: rest =>
    decide (entry.previousHash = previous) &&
      decide (entry.entryHash = expectedEntryHash env entry entry.previousHash) &&
      chainHolds (some entry.entryHash) rest

def ledgerById (rows : List LedgerEntry) : List LedgerEntry :=
  rows.insertionSort (fun a b => a.id ≤ b.id)

/-- `verify_ledger_chain(db)["status"] == "PASS"` -/
def ledgerChainPasses (db : Db) : Bool := chainHolds env none (ledgerById db.ledgerEntries)

end Chain

section Evidence

/-- `_ledger_evidence` -/
def ledgerEvidence (row : LedgerEntry) : Value :=
  .obj [("id", idJson row.id), ("account", .str row.account),
    ("direction", .str row.direction.text), ("amount", moneyJson row.amount.val),
    ("reference_type", .str row.referenceType.text), ("reference_id", .str row.referenceId),
    ("reversal_of_id", nullable idJson row.reversalOfId),
    ("previous_hash", nullable .str row.previousHash), ("entry_hash", .str row.entryHash),
    ("hash_version", nullable (fun _ => .int 2) row.financialDate),
    ("financial_date", nullable isoDateJson row.financialDate)]

/-- `_mfe_evidence` -/
def mfeEvidence (db : Db) (row : MemberFinancialEntry) : Value :=
  let account := lookup MemberFinancialAccount.id db.accounts row.accountId
  .obj [("id", idJson row.id), ("account_id", idJson row.accountId),
    ("member_id", nullable (fun (a : MemberFinancialAccount) => idJson a.memberId) account),
    ("entry_type", .str row.entryType.text), ("direction", .str row.direction.text),
    ("amount", moneyJson row.amount.val),
    ("reference_type", nullable (.str ·.text) row.referenceType),
    ("reference_id", nullable .str row.referenceId),
    ("contribution_id", nullable idJson row.contributionId),
    ("payment_settlement_id", nullable idJson row.paymentSettlementId),
    ("payment_reversal_id", nullable idJson row.paymentReversalId)]

def mfesById (rows : List MemberFinancialEntry) : List MemberFinancialEntry :=
  rows.insertionSort (fun a b => a.id ≤ b.id)

end Evidence

section Settlement
variable (books : ReceiptBooks) (p : Payment) (s : PaymentSettlement)

/-- The patrimonial entry of the one contribution the settlement paid. -/
def contributionMfeHolds (c : Contribution) (row : MemberFinancialEntry) : Bool :=
  row.entryType = .CONTRIBUTION ∧ row.direction = .CREDIT ∧ row.amount.val = c.amount ∧
    row.referenceType = some .PAYMENT_SETTLEMENT ∧ row.referenceId = some (toString s.id) ∧
    row.contributionId = some c.id ∧ belongsTo books.db s.memberId row

/-- `_settlement_mfes` -/
def settlementMfes : Finding (List MemberFinancialEntry) :=
  match s.obligation with
  | .loanInstallment _ => do
    let rows := mfesById (books.db.memberEntries.filter (fun e =>
      e.entryType = .LOAN_PRINCIPAL_PAYMENT ∧ e.referenceType = some .LOAN_PRINCIPAL_PAYMENT ∧
      e.referenceId = some (toString p.id) ∧ belongsTo books.db s.memberId e))
    let expected := s.amounts.principalApplied
    if 0 < expected then
      findingIf (rows.length ≠ 1 ∨ rows.any (fun e => e.direction ≠ .CREDIT ∨ e.amount.val ≠ expected))
        "MFE de principal Loan ausente, duplicado ou incompatível"
    else
      findingIf (rows ≠ []) "MFE inesperado para principal Loan zero"
    return rows
  | .contribution id => do
    let rows := mfesById (books.db.memberEntries.filter (fun e => e.paymentSettlementId = some s.id))
    if s.obligationStatusAfter = .PAID ∧ s.obligationStatusBefore ≠ .PAID then
      let c ← orFinding (books.db.contribution? id)
        "MFE de Contribution ausente, duplicado ou incompatível"
      findingIf (rows.length ≠ 1 ∨ rows.any (fun e => ¬ contributionMfeHolds books s c e))
        "MFE de Contribution ausente, duplicado ou incompatível"
    else
      findingIf (rows ≠ []) "MFE inesperado para Contribution sem transição patrimonial"
    return rows
  | .agreementInstallment _ => .ok []

/-- The ledger components a settlement of its obligation can have. -/
def ledgerComponents : List (LedgerReferenceType × Int) :=
  match s.obligation with
  | .contribution _ => [(.CONTRIBUTION_PAYMENT, s.amounts.amountApplied)]
  | .loanInstallment _ => [(.LOAN_INTEREST_PAYMENT, s.amounts.interestApplied),
      (.LOAN_PENALTY_PAYMENT, s.amounts.penaltyApplied)]
  | .agreementInstallment _ => [(.AGREEMENT_INSTALLMENT_PAYMENT, s.amounts.amountApplied)]

def expectedComponents : List (LedgerReferenceType × Int) :=
  (ledgerComponents s).filter (fun component => 0 < component.2)

/-- The one selected row of a component. -/
def componentRowHolds (rows : List LedgerEntry) (component : LedgerReferenceType × Int) :
    Finding Unit := do
  let row ← orFinding (rows.find? (fun e => e.referenceType = component.1))
    "tipos de Ledger do settlement incompatíveis"
  findingIf (¬ isCreditOf component.2 row ∨ row.reversalOfId.isSome)
    "Ledger do settlement incompatível"
  findingIf (row.financialDate.isSome ∧
    row.financialDate ≠ (books.settlementColumns s.id).financialDate)
    "financial_date do Ledger V2 diverge do settlement"

/-- `_assert_settlement_ledger` -/
def assertSettlementLedger : Finding (List LedgerEntry) := do
  let expected := expectedComponents s
  let kinds := expected.map Prod.fst
  let rows := ledgerById (books.db.ledgerEntries.filter (fun e =>
    e.referenceId = toString p.id ∧ e.referenceType ∈ kinds))
  findingIf (rows.length ≠ expected.length)
    "conjunto de Ledger do settlement ausente, duplicado ou inesperado"
  findingIf (¬ (rows.map LedgerEntry.referenceType).Nodup ∨
      ¬ kinds ⊆ rows.map LedgerEntry.referenceType)
    "tipos de Ledger do settlement incompatíveis"
  expected.forM (componentRowHolds books s rows)
  return rows

/-- `_SETTLEMENT_LEGACY_VERSION` -/
def Obligation.legacyVersion : Obligation → ReceiptVersion
  | .contribution _ => .v1
  | .loanInstallment _ => .v4
  | .agreementInstallment _ => .v5

def settlementComponentVersion : String := "late_charge_components_v1"

def settlementComponentsJson : Value :=
  .obj [("version", nullable (fun (_ : LateChargeComponents) => .str settlementComponentVersion)
      s.components),
    ("normal_interest", nullable (moneyJson ·.normalInterestApplied) s.components),
    ("late_interest", nullable (moneyJson ·.lateInterestApplied) s.components),
    ("fixed_penalty", nullable (moneyJson ·.fixedPenaltyApplied) s.components)]

/-- What the receipt binds of the obligation itself. -/
def obligationEvidence : Finding Value :=
  match s.obligation with
  | .contribution id => do
    let c ← orFinding ((books.db.contribution? id).filter (fun c => c.memberId = s.memberId))
      "Contribution do settlement ausente ou incompatível"
    return .obj [("id", idJson c.id), ("member_id", idJson c.memberId), ("amount", moneyJson c.amount),
      ("competence", isoDateJson c.competence), ("due_date", nullable isoDateJson c.dueDate)]
  | .loanInstallment id => do
    let inst ← orFinding (books.db.installment? id) "LoanInstallment do settlement ausente"
    return .obj [("id", idJson inst.id), ("loan_id", idJson inst.loanId),
      ("due_date", isoDateJson inst.dueDate), ("amount", moneyJson inst.amount)]
  | .agreementInstallment id => do
    let inst ← orFinding (books.db.agreementInstallment? id) "AgreementInstallment do settlement ausente"
    return .obj [("id", idJson inst.id), ("agreement_id", idJson inst.agreementId),
      ("due_date", isoDateJson inst.dueDate), ("principal", moneyJson inst.principal),
      ("penalty_amount", moneyJson inst.penaltyAmount)]

def settlementV6Number : String := "PIX-V6-" ++ String.ofList (Calendar.pad 12 p.id)

/-- The ledger rows as the legacy receipt lists them. -/
def legacyLedgerJson (rows : List LedgerEntry) : Value :=
  .arr (rows.map (fun e => .obj [
    ("id", idJson e.id), ("account", .str e.account), ("direction", .str e.direction.text),
    ("amount", moneyJson e.amount.val), ("reference_type", .str e.referenceType.text),
    ("reference_id", .str e.referenceId), ("entry_hash", .str e.entryHash)]))

/-- `d[key] = value`, one after the other. -/
def updated (document : Value) (fields : List (String × Value)) : Value :=
  match document with
  | .obj old => .obj (fields.foldl (fun acc f => setField acc f.1 f.2) old)
  | other => other

/-- `build_settlement_v6_snapshot` -/
def buildSettlementV6Snapshot (env : Env) : Finding Value := do
  let columns := books.settlementColumns s.id
  findingIf (columns.version ≠ settlementTemporalVersion) "construção temporal exige receipt v6"
  let financialDate ← orFinding columns.financialDate "financial_date deve ser DATE"
  findingIf (financialDate ≠ financialCivilDate s.confirmedAt)
    "financial_date diverge de confirmed_at em America/Belem"
  findingIf (s.paymentId ≠ p.id) "PaymentSettlement não referencia o Payment"
  let rows ← assertSettlementLedger books p s
  let legacyShape := { s with receiptVersion := s.obligation.legacyVersion }
  let legacy := settlementReceiptSnapshot p legacyShape (legacyLedgerJson rows)
  let mfes ← settlementMfes books p s
  findingIf (¬ ledgerChainPasses env books.db) "cadeia de Ledger inválida"
  let evidence ← obligationEvidence books s
  return updated legacy [("receipt_version", .str settlementTemporalVersion),
    ("receipt_number", .str (settlementV6Number p)),
    ("settlement", .obj [("id", idJson s.id), ("financial_date", isoDateJson financialDate)]),
    ("financial_date", isoDateJson financialDate),
    ("settlement_components", settlementComponentsJson s),
    ("obligation_evidence", evidence),
    ("ledger_entries", .arr (rows.map ledgerEvidence)),
    ("member_financial_entries", .arr (mfes.map (mfeEvidence books.db)))]

/-- `verify_settlement_v6` -/
def verifySettlementV6 (env : Env) : Finding Unit := do
  let columns := books.settlementColumns s.id
  findingIf (columns.version ≠ settlementTemporalVersion) "settlement não é receipt v6"
  findingIf (columns.financialDate = none) "settlement v6 sem financial_date"
  let stored ← orFinding (loads s.receiptSnapshotJson) "receipt v6 inválido"
  findingIf (dumps stored ≠ s.receiptSnapshotJson) "receipt v6 não é canônico"
  findingIf (env.sha256 (dumps stored) ≠ s.receiptHash) "hash do receipt v6 inválido"
  let expected ← buildSettlementV6Snapshot books p s env
  findingIf (¬ sameJson stored expected ∨ s.receiptNumber ≠ settlementV6Number p)
    "evidência temporal do settlement diverge do estado persistido"

end Settlement

section Reversal
variable (env : Env) (books : ReceiptBooks) (r : PaymentReversal)

def componentsByOriginal : List PaymentReversalComponent :=
  (componentsOf books.db r).insertionSort (fun a b => a.originalLedgerEntryId ≤ b.originalLedgerEntryId)

/-- Both ledger rows of a component. -/
def componentRows (financialDate : Int) (component : PaymentReversalComponent) :
    Finding (List LedgerEntry) := do
  let original ← orFinding (books.db.ledgerEntry? component.originalLedgerEntryId)
    "componente de Ledger da reversão incompleto"
  let compensating ← orFinding (books.db.ledgerEntry? component.compensatingLedgerEntryId)
    "componente de Ledger da reversão incompleto"
  findingIf (compensating.financialDate.isSome ∧ compensating.financialDate ≠ some financialDate)
    "financial_date do Ledger compensatório diverge da reversão"
  return [original, compensating]

/-- The patrimonial entries a reversal receipt binds. -/
def reversalMfes (p : Payment) (s : PaymentSettlement) : List MemberFinancialEntry :=
  match s.obligation with
  | .loanInstallment _ => mfesById (books.db.memberEntries.filter (fun e =>
      (e.referenceType = some .LOAN_PRINCIPAL_PAYMENT ∨ e.referenceType = some .PAYMENT_REVERSAL) ∧
      (e.referenceId = some (toString p.id) ∨ e.paymentReversalId = some r.id)))
  | .contribution _ => mfesById (books.db.memberEntries.filter (fun e =>
      e.paymentSettlementId = some s.id ∨ e.paymentReversalId = some r.id))
  | .agreementInstallment _ => []

def reversalV2Number (p : Payment) : String := "PIX-REV-V2-" ++ toString p.id

/-- `build_reversal_v2_snapshot` -/
def buildReversalV2Snapshot (p : Payment) (s : PaymentSettlement) (legacyEvidence : Value) :
    Finding Value := do
  let columns := books.reversalColumns r.id
  findingIf (columns.version ≠ reversalTemporalVersion) "construção temporal exige receipt v2"
  let financialDate ← orFinding columns.financialDate "financial_date deve ser DATE"
  findingIf (financialDate ≠ financialCivilDate r.reversedAt)
    "financial_date diverge de reversed_at em America/Belem"
  findingIf (¬ holds legacyEvidence "receipt_version" (.str reversalReceiptVersion))
    "evidência base da reversão deve ser v1"
  findingIf (r.paymentId ≠ p.id ∨ r.settlementId ≠ s.id)
    "identidade Payment/Settlement da reversão incompatível"
  let components := componentsByOriginal books r
  let ledgerRows := (← components.mapM (componentRows books financialDate)).flatten
  findingIf (¬ ledgerChainPasses env books.db) "cadeia de Ledger inválida"
  return .obj [("receipt_version", .str reversalTemporalVersion),
    ("receipt_number", .str (reversalV2Number p)),
    ("financial_date", isoDateJson financialDate),
    ("reversal", .obj [("id", idJson r.id), ("payment_id", idJson p.id), ("settlement_id", idJson s.id),
      ("reversed_at", instantJson r.reversedAt), ("admin_id", idJson r.adminId),
      ("reason", .str r.reason), ("reversal_competence", isoDateJson r.reversalCompetence)]),
    ("settlement", .obj [("id", idJson s.id), ("receipt_number", .str s.receiptNumber),
      ("receipt_version", .str (books.settlementColumns s.id).version),
      ("receipt_hash", .str s.receiptHash)]),
    ("amounts", reversalAmountsJson r),
    ("legacy_obligation_evidence", legacyEvidence),
    ("ledger_components", .arr (components.map (fun c => .obj [("id", idJson c.id),
      ("original_ledger_entry_id", idJson c.originalLedgerEntryId),
      ("compensating_ledger_entry_id", idJson c.compensatingLedgerEntryId)]))),
    ("ledger_entries", .arr ((ledgerById ledgerRows.dedup).map ledgerEvidence)),
    ("member_financial_entries", .arr ((reversalMfes books r p s).map (mfeEvidence books.db)))]

/-- `verify_reversal_v2` -/
def verifyReversalV2 : Finding Unit := do
  let columns := books.reversalColumns r.id
  findingIf (columns.version ≠ reversalTemporalVersion) "reversal não é receipt v2"
  let snapshot ← orFinding (loads r.receiptSnapshotJson) "receipt v2 inválido"
  findingIf (dumps snapshot ≠ r.receiptSnapshotJson ∨ env.sha256 (dumps snapshot) ≠ r.receiptHash)
    "canonical JSON/hash da reversão inválido"
  let p ← orFinding (books.db.payment? r.paymentId)
    "Payment/Settlement da reversão inexistente ou incompatível"
  let s ← orFinding ((books.db.settlement? r.settlementId).filter (fun s => s.paymentId = p.id))
    "Payment/Settlement da reversão inexistente ou incompatível"
  let expected ← buildReversalV2Snapshot env books r p s (field snapshot "legacy_obligation_evidence")
  findingIf (¬ sameJson snapshot expected ∨ columns.financialDate = none)
    "evidência temporal da reversão diverge do estado persistido"
  findingIf (¬ holds snapshot "receipt_number" (.str r.receiptNumber))
    "receipt_number da reversão incompatível"

end Reversal

end Caixinha.Model
