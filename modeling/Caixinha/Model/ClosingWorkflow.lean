import Caixinha.Library.JsonParser
import Caixinha.Model.CycleClosing

/-! The annual closing as a process: reviews over the current evidence, the Master's approval and
the official snapshot. A call reads the closing first and claims it later, by status and revision. -/
namespace Caixinha.Model.ClosingWorkflow

open Caixinha.Library Table Json Decimal CycleClosing

inductive ClosingStatus where
  | ASSESSING | READY_FOR_REVIEW | MASTER_APPROVED | CLOSED | PAYING | LIQUIDATED
  deriving DecidableEq, Repr

structure CycleAnnualClosing where
  id : Nat
  cycleId : Nat
  status : ClosingStatus
  stateRevision : Nat
  approvedAt : Option Int
  approvedBy : Option Nat
  approvedReviewId : Option Nat
  closedAt : Option Int
  closedBy : Option Nat
  deriving DecidableEq, Repr

structure CycleAnnualClosingCashEvidence where
  id : Nat
  closingId : Nat
  cycleId : Nat
  fileId : Nat
  storageReference : String
  fileSha256 : String
  declaredCashBalance : Int
  observedAt : Int
  closingCutoffAt : Int
  attestedBy : Nat
  deriving DecidableEq, Repr

structure WorkflowExecutionEvidenceFile where
  id : Nat
  storageKey : String
  sha256 : String
  revokedAt : Option Int
  deriving DecidableEq, Repr

/-- The money a review compares. -/
structure ReconciliationFigures where
  ledgerCashBalance : Int
  actualCashBalance : Int
  reconciliationDifference : Int
  participantPayoutLiability : Int
  administrationFee : Int
  requiredLiquidity : Int
  liquiditySurplus : Int
  deriving DecidableEq, Repr

structure CycleAnnualClosingReview where
  id : Nat
  closingId : Nat
  cycleId : Nat
  cashEvidenceId : Nat
  reviewVersion : Nat
  processRevision : Nat
  closingCutoffAt : Int
  calculationVersion : String
  calculationHash : String
  figures : ReconciliationFigures
  cashEvidenceReference : String
  cashEvidenceHash : String
  reconciliationPayload : String
  reconciliationHash : String
  reviewHash : String
  createdBy : Nat
  deriving DecidableEq, Repr

structure SnapshotTotals where
  grossRealizedResult : Int
  administrationFeeRate : Number
  administrationFee : Int
  distributableResult : Int
  totalEligibleContributions : Int
  deriving DecidableEq, Repr

structure CycleAnnualClosingSnapshot where
  id : Nat
  closingId : Nat
  cycleId : Nat
  snapshotVersion : String
  closingCutoffAt : Int
  calculationVersion : String
  canonicalPayload : String
  payloadHash : String
  totals : SnapshotTotals
  createdBy : Nat
  deriving DecidableEq, Repr

structure ClosingDb where
  users : List User := []
  closings : List CycleAnnualClosing := []
  cashEvidence : List CycleAnnualClosingCashEvidence := []
  files : List WorkflowExecutionEvidenceFile := []
  reviews : List CycleAnnualClosingReview := []
  snapshots : List CycleAnnualClosingSnapshot := []
  deriving DecidableEq, Repr

/-- What the closing takes from the rest of the program at the moment of a call: the preview of a
cycle at a cutoff, the CAIXINHA cash and its trace at a cutoff, and the digest of a stored file as it
verifies now. -/
structure FinancialSources where
  preview : Nat → Int → Tx ClosingResult
  ledgerCash : Int → Tx (Int × List Value)
  verifiedSha256 : Nat → Nat → Tx (Option String)

/-- The digest, and the two readers of a stored snapshot. -/
structure SnapshotRules where
  sha256 : String → String
  validateEngineResult : Value → Tx Unit
  verifySnapshot : CycleAnnualClosingSnapshot → Tx Unit

def snapshotVersion : String := "cycle_annual_closing_snapshot_v1"

namespace ClosingDb
variable (db : ClosingDb)

def closing? (id : Nat) : Option CycleAnnualClosing := lookup CycleAnnualClosing.id db.closings id
def review? (id : Nat) : Option CycleAnnualClosingReview :=
  lookup CycleAnnualClosingReview.id db.reviews id

def reviewsOf (closingId : Nat) : List CycleAnnualClosingReview :=
  db.reviews.filter (fun r => r.closingId = closingId)

/-- `_latest_review`: the one of the highest version. -/
def latestReview? (closingId : Nat) : Option CycleAnnualClosingReview :=
  (db.reviewsOf closingId).foldl (fun last r => match last with
    | none => some r
    | some l => if l.reviewVersion < r.reviewVersion then some r else some l) none

def putClosing (c : CycleAnnualClosing) : ClosingDb :=
  { db with closings := replace CycleAnnualClosing.id db.closings c }

end ClosingDb

/-- `_actor` -/
def actor (db : ClosingDb) (actorId : Nat) (master : Bool) : Tx User := do
  let user ← orRefuse (lookup User.id db.users actorId) "active closing actor not found"
  refuseIf (¬ user.isActive) "active closing actor not found"
  refuseIf (master ∧ (¬ user.isAdmin ∨ ¬ user.isMaster))
    "only the active Master administrator may approve an annual closing"
  return user

def isLowerHex (c : Char) : Bool := ('0' ≤ c && c ≤ '9') || ('a' ≤ c && c ≤ 'f')

/-- `^[0-9a-f]{64}$` -/
def isSha256 (text : String) : Bool := text.length = 64 && text.toList.all isLowerHex

/-- `_validate_cash_evidence` -/
def validateCashEvidence (db : ClosingDb) (sources : FinancialSources)
    (evidenceId closingId cycleId : Nat) (cutoff : Int) : Tx CycleAnnualClosingCashEvidence := do
  let evidence ← orRefuse (lookup CycleAnnualClosingCashEvidence.id db.cashEvidence evidenceId)
    "cash evidence does not belong to this annual closing"
  refuseIf (evidence.closingId ≠ closingId ∨ evidence.cycleId ≠ cycleId)
    "cash evidence does not belong to this annual closing"
  refuseIf (evidence.observedAt ≠ cutoff ∨ evidence.closingCutoffAt ≠ cutoff)
    "cash observation does not match the closing cutoff"
  let master ← actor db evidence.attestedBy true
  let file ← orRefuse (lookup WorkflowExecutionEvidenceFile.id db.files evidence.fileId)
    "cash evidence file link is stale or revoked"
  refuseIf (file.revokedAt.isSome ∨ file.storageKey ≠ evidence.storageReference ∨
    file.sha256 ≠ evidence.fileSha256) "cash evidence file link is stale or revoked"
  let observed ← sources.verifiedSha256 file.id master.id
  refuseIf (observed ≠ some evidence.fileSha256) "cash evidence file integrity verification failed"
  return evidence

/-- What `_evidence` returns: the preview, the reconciled figures and their document. -/
structure Reconciled where
  result : ClosingResult
  figures : ReconciliationFigures
  raw : String
  hash : String

def reconciliationJson (cash : CycleAnnualClosingCashEvidence) (cycleId : Nat) (cutoff : Int)
    (calculationHash : String) (f : ReconciliationFigures) (ledgerTrace : List Value) : Value :=
  .obj [("schema", .str "cycle_annual_reconciliation_v1"), ("cycle_id", idJson cycleId),
    ("cutoff", .str (Calendar.isoZulu cutoff)), ("calculation_hash", .str calculationHash),
    ("ledger_cash_balance", moneyJson f.ledgerCashBalance),
    ("actual_cash_balance", moneyJson f.actualCashBalance),
    ("reconciliation_difference", moneyJson f.reconciliationDifference),
    ("participant_payout_liability", moneyJson f.participantPayoutLiability),
    ("administration_fee", moneyJson f.administrationFee),
    ("required_liquidity", moneyJson f.requiredLiquidity),
    ("liquidity_surplus", moneyJson f.liquiditySurplus),
    ("cash_evidence_reference", .str (strip cash.storageReference)),
    ("cash_evidence_hash", .str cash.fileSha256), ("cash_evidence_id", idJson cash.id),
    ("cash_evidence_file_sha256", .str cash.fileSha256),
    ("cash_evidence_observed_at", .str (Calendar.isoZulu cash.observedAt)),
    ("cash_evidence_attested_by", idJson cash.attestedBy),
    ("cash_evidence_file_id", idJson cash.fileId), ("ledger_entries", .arr ledgerTrace)]

/-- `_evidence` -/
def reconcile (sha256 : String → String) (sources : FinancialSources)
    (cash : CycleAnnualClosingCashEvidence) (cycleId : Nat) (cutoff : Int) : Tx Reconciled := do
  let actual ← requantize 28 cash.declaredCashBalance
  refuseIf (actual < 0) "actual_cash_balance must be nonnegative"
  refuseIf (strip cash.storageReference = "") "cash_evidence_reference is required"
  refuseIf (¬ isSha256 cash.fileSha256) "cash_evidence_hash must be lowercase SHA-256"
  let result ← sources.preview cycleId cutoff
  refuseIf (result.memory.sourceGaps ≠ []) "annual closing preview has blocking source gaps"
  let (ledgerBalance, ledgerTrace) ← sources.ledgerCash cutoff
  let difference ← requantize 28 (roundToDigits 28 (actual - ledgerBalance))
  refuseIf (difference ≠ 0) "annual closing cash reconciliation differs from zero"
  let nets ← result.memory.participants.mapM (fun p => requantize 28 p.projectedNet)
  let payout ← requantize 28 (sumToDigits 28 0 nets)
  let fee ← requantize 28 result.memory.administrationFee
  let required ← requantize 28 (roundToDigits 28 (payout + fee))
  let surplus ← requantize 28 (roundToDigits 28 (actual - required))
  refuseIf (surplus < 0) "annual closing has insufficient reconciled liquidity"
  let figures : ReconciliationFigures :=
    { ledgerCashBalance := ledgerBalance, actualCashBalance := actual
      reconciliationDifference := difference, participantPayoutLiability := payout
      administrationFee := fee, requiredLiquidity := required, liquiditySurplus := surplus }
  let raw := dumps (reconciliationJson cash cycleId cutoff result.calculationHash figures ledgerTrace)
  return { result, figures, raw, hash := sha256 raw }

/-- `_review_memory` -/
def reviewMemory (r : CycleAnnualClosingReview) : Value :=
  .obj [("schema", .str "cycle_annual_closing_review_v1"), ("closing_id", idJson r.closingId),
    ("cycle_id", idJson r.cycleId), ("review_version", idJson r.reviewVersion),
    ("process_revision", idJson r.processRevision),
    ("cutoff", .str (Calendar.isoZulu r.closingCutoffAt)),
    ("calculation_version", .str r.calculationVersion), ("calculation_hash", .str r.calculationHash),
    ("ledger_cash_balance", moneyJson r.figures.ledgerCashBalance),
    ("actual_cash_balance", moneyJson r.figures.actualCashBalance),
    ("reconciliation_difference", moneyJson r.figures.reconciliationDifference),
    ("participant_payout_liability", moneyJson r.figures.participantPayoutLiability),
    ("administration_fee", moneyJson r.figures.administrationFee),
    ("required_liquidity", moneyJson r.figures.requiredLiquidity),
    ("liquidity_surplus", moneyJson r.figures.liquiditySurplus),
    ("cash_evidence_reference", .str r.cashEvidenceReference),
    ("cash_evidence_hash", .str r.cashEvidenceHash), ("cash_evidence_id", idJson r.cashEvidenceId),
    ("cash_evidence_file_sha256", .str r.cashEvidenceHash),
    ("reconciliation_hash", .str r.reconciliationHash)]

def reviewDigest (sha256 : String → String) (r : CycleAnnualClosingReview) : String :=
  sha256 (dumps (reviewMemory r))

/-- `_lock_closing_financial_sources`: the row as it is now, in the status and revision asked for. -/
def lockClosing (db : ClosingDb) (closingId : Nat) (status : ClosingStatus) (revision : Nat) :
    Tx CycleAnnualClosing :=
  orRefuse (db.closings.find? fun c => c.id = closingId ∧ c.status = status ∧
    c.stateRevision = revision) "stale annual closing state revision"

def insertReview (db : ClosingDb) (r : CycleAnnualClosingReview) : Tx ClosingDb := do
  requireConstraint (∀ x ∈ db.reviewsOf r.closingId, x.reviewVersion ≠ r.reviewVersion)
    "uq_cycle_annual_reviews_version"
  requireConstraint (∀ x ∈ db.reviewsOf r.closingId, x.reviewHash ≠ r.reviewHash)
    "uq_cycle_annual_reviews_hash"
  requireConstraint (r.figures.requiredLiquidity =
    r.figures.participantPayoutLiability + r.figures.administrationFee)
    "ck_cycle_annual_reviews_liquidity_equation"
  return { db with reviews := db.reviews ++ [r] }

/-- The review that prepares revision `processRevision`, before it is hashed. -/
def unhashedReview (db : ClosingDb) (closing : CycleAnnualClosing)
    (cash : CycleAnnualClosingCashEvidence) (evidence : Reconciled) (latest : Option CycleAnnualClosingReview)
    (cutoff : Int) (actorId : Nat) : CycleAnnualClosingReview where
  id := nextKey CycleAnnualClosingReview.id db.reviews
  closingId := closing.id
  cycleId := closing.cycleId
  cashEvidenceId := cash.id
  reviewVersion := (latest.map (fun r => r.reviewVersion + 1)).getD 1
  processRevision := closing.stateRevision + 1
  closingCutoffAt := cutoff
  calculationVersion := calculationVersion
  calculationHash := evidence.result.calculationHash
  figures := evidence.figures
  cashEvidenceReference := cash.storageReference
  cashEvidenceHash := cash.fileSha256
  reconciliationPayload := evidence.raw
  reconciliationHash := evidence.hash
  reviewHash := ""
  createdBy := actorId

/-- Whether the latest review already says what a new one would. -/
def sameReview (r : CycleAnnualClosingReview) (closing : CycleAnnualClosing)
    (cash : CycleAnnualClosingCashEvidence) (evidence : Reconciled) (cutoff : Int) : Prop :=
  r.processRevision = closing.stateRevision ∧ r.reconciliationHash = evidence.hash ∧
    r.calculationHash = evidence.result.calculationHash ∧ r.closingCutoffAt = cutoff ∧
    r.cashEvidenceHash = cash.fileSha256 ∧ r.cashEvidenceId = cash.id

instance (r : CycleAnnualClosingReview) (closing : CycleAnnualClosing)
    (cash : CycleAnnualClosingCashEvidence) (evidence : Reconciled) (cutoff : Int) :
    Decidable (sameReview r closing cash evidence cutoff) := inferInstanceAs (Decidable (_ ∧ _))

/-- `prepare_cycle_closing_review`; `seen` is the row the caller read. -/
def prepareCycleClosingReview (sha256 : String → String) (sources : FinancialSources) (db : ClosingDb)
    (seen : Option CycleAnnualClosing) (expectedStateRevision : Int) (closingCutoffAt : Timestamp)
    (cashEvidenceId actorId : Nat) : Tx (ClosingDb × CycleAnnualClosingReview) := do
  let _ ← actor db actorId false
  let cutoff ← utc closingCutoffAt
  let closing ← orRefuse seen "annual closing process not found"
  refuseIf (closing.stateRevision ≠ expectedStateRevision) "stale annual closing state revision"
  refuseIf (closing.status ≠ .ASSESSING ∧ closing.status ≠ .READY_FOR_REVIEW)
    "annual closing cannot enter review from current status"
  refuseIf closing.approvedReviewId.isSome "approved annual closing cannot be reviewed again"
  let row ← lockClosing db closing.id closing.status closing.stateRevision
  let cash ← validateCashEvidence db sources cashEvidenceId closing.id closing.cycleId cutoff
  let evidence ← reconcile sha256 sources cash closing.cycleId cutoff
  let latest := db.latestReview? closing.id
  refuseIf (closing.status = .READY_FOR_REVIEW ∧ latest.isNone)
    "ready annual closing has no financial review"
  match latest.filter (fun r => closing.status = .READY_FOR_REVIEW ∧
      sameReview r closing cash evidence cutoff) with
  | some r => return (db, r)
  | none =>
    let unhashed := unhashedReview db closing cash evidence latest cutoff actorId
    let review := { unhashed with reviewHash := reviewDigest sha256 unhashed }
    let db := db.putClosing
      { row with status := .READY_FOR_REVIEW, stateRevision := closing.stateRevision + 1 }
    let db ← insertReview db review
    return (db, review)

/-- The refusals that revalidation reports as a stale review; the others pass through. -/
def asStale {α : Type} : Tx α → Tx α
  | .error (.valueError _) | .error (.typeError _) | .error (.closingContractGap _ _) =>
    .error (.valueError "annual closing review evidence is stale")
  | x => x

/-- `revalidate_cycle_closing_review` -/
def revalidateCycleClosingReview (sha256 : String → String) (sources : FinancialSources)
    (db : ClosingDb) (review : CycleAnnualClosingReview) : Tx ClosingResult := do
  refuseIf (reviewDigest sha256 review ≠ review.reviewHash) "annual closing review hash mismatch"
  let (cash, evidence) ← asStale do
    let cash ← validateCashEvidence db sources review.cashEvidenceId review.closingId review.cycleId
      review.closingCutoffAt
    let evidence ← reconcile sha256 sources cash review.cycleId review.closingCutoffAt
    return (cash, evidence)
  refuseIf (calculationVersion ≠ review.calculationVersion ∨
      evidence.result.calculationHash ≠ review.calculationHash ∨
      evidence.hash ≠ review.reconciliationHash ∨ evidence.raw ≠ review.reconciliationPayload ∨
      evidence.figures ≠ review.figures ∨
      review.cashEvidenceReference ≠ strip cash.storageReference ∨
      review.cashEvidenceHash ≠ cash.fileSha256)
    "annual closing review no longer matches current evidence"
  return evidence.result

/-- `approve_cycle_closing_review` -/
def approveCycleClosingReview (sha256 : String → String) (sources : FinancialSources) (db : ClosingDb)
    (clock : Int) (seen : Option CycleAnnualClosing) (reviewId : Nat) (expectedStateRevision : Int)
    (actorId : Nat) : Tx ClosingDb := do
  let _ ← actor db actorId true
  let closing ← orRefuse seen "annual closing process not found"
  refuseIf (closing.stateRevision ≠ expectedStateRevision ∨ closing.status ≠ .READY_FOR_REVIEW)
    "stale or invalid annual closing approval"
  let row ← lockClosing db closing.id .READY_FOR_REVIEW closing.stateRevision
  let review ← orRefuse (db.review? reviewId) "annual closing review is not current"
  let latest ← orRefuse (db.latestReview? closing.id) "annual closing review is not current"
  refuseIf (review.id ≠ latest.id ∨ review.closingId ≠ closing.id ∨ review.cycleId ≠ closing.cycleId ∨
    review.processRevision ≠ closing.stateRevision) "annual closing review is not current"
  let _ ← revalidateCycleClosingReview sha256 sources db review
  refuseIf row.approvedReviewId.isSome "annual closing approval was claimed concurrently"
  return db.putClosing
    { row with status := .MASTER_APPROVED, stateRevision := closing.stateRevision + 1
               approvedAt := some clock, approvedBy := some actorId
               approvedReviewId := some review.id }

/-- `_validate_result_totals` of an engine result. -/
def validateResultTotals (memory : ClosingMemory) (cycleId : Nat) : Tx SnapshotTotals := do
  refuseIf (memory.cycleId ≠ cycleId) "engine result Cycle does not match closing process"
  let gross ← requantize 28 memory.grossRealizedResult
  let fee ← requantize 28 memory.administrationFee
  let distributable ← requantize 28 memory.distributableResult
  let base ← requantize 28 memory.totalEligibleContributions
  let expectedFee ← CycleClosing.administrationFee gross
  let expectedDistributable ← requantize 28 (roundToDigits 28 (gross - fee))
  refuseIf (gross < 0 ∨ fee < 0 ∨ distributable < 0 ∨ base < 0 ∨ fee ≠ expectedFee ∨
    distributable ≠ expectedDistributable) "engine result totals are internally inconsistent"
  return { grossRealizedResult := gross, administrationFeeRate, administrationFee := fee
           distributableResult := distributable, totalEligibleContributions := base }

/-- The result dictionary as the engine returns it. -/
def resultJson (result : ClosingResult) : Value :=
  .obj (result.memory.fields ++ [("calculation_hash", .str result.calculationHash)])

/-- `canonical_snapshot_payload` -/
def canonicalSnapshotPayload (rules : SnapshotRules) (document : Value) : Tx String := do
  rules.validateEngineResult document
  return dumps document

/-- `_parse_canonical_payload` -/
def parseCanonicalPayload (rules : SnapshotRules) (raw : String) : Tx Value := do
  let payload ← orRefuse (loads raw) "snapshot payload is not canonical JSON"
  let text ← canonicalSnapshotPayload rules payload
  refuseIf (text ≠ raw) "snapshot payload is not canonical JSON"
  return payload

def insertSnapshot (db : ClosingDb) (s : CycleAnnualClosingSnapshot) : Tx ClosingDb := do
  requireConstraint (∀ x ∈ db.snapshots, x.closingId ≠ s.closingId) "uq_cycle_annual_snapshots_closing"
  requireConstraint (∀ x ∈ db.snapshots, x.cycleId ≠ s.cycleId) "uq_cycle_annual_snapshots_cycle"
  requireConstraint (∀ x ∈ db.snapshots, x.payloadHash ≠ s.payloadHash)
    "uq_cycle_annual_snapshots_hash"
  requireConstraint (s.totals.grossRealizedResult =
    s.totals.administrationFee + s.totals.distributableResult)
    "ck_cycle_annual_snapshots_result_equation"
  return { db with snapshots := db.snapshots ++ [s] }

/-- A cutoff the caller gives has to be the review's. -/
def checkAskedCutoff (asked : Option Timestamp) (cutoff : Int) (message : String) : Tx Unit :=
  match asked with
  | none => .ok ()
  | some moment => do
    let given ← utc moment
    refuseIf (given ≠ cutoff) message

/-- A call on a closing that is closed already returns its snapshot, or conflicts. -/
def replaySnapshot (rules : SnapshotRules) (db : ClosingDb) (closing : CycleAnnualClosing)
    (closingCutoffAt : Option Timestamp) (closedBy : Option Nat) (expectedStateRevision : Option Int) :
    Tx CycleAnnualClosingSnapshot := do
  refuseIf (expectedStateRevision ≠ some (closing.stateRevision : Int))
    "stale annual closing state revision"
  let conflict := "closed annual closing does not match requested snapshot"
  let existing ← orRefuse (db.snapshots.find? fun s => s.closingId = closing.id) conflict
  let review ← orRefuse (closing.approvedReviewId.bind db.review?) conflict
  refuseIf (review.closingId ≠ closing.id ∨ review.cycleId ≠ closing.cycleId ∨
    (db.latestReview? closing.id).map CycleAnnualClosingReview.id ≠ some review.id ∨
    review.processRevision + 2 ≠ closing.stateRevision ∨ closing.approvedAt.isNone ∨
    closing.approvedBy.isNone ∨ closing.closedAt.isNone ∨ closing.closedBy ≠ some existing.createdBy ∨
    closedBy.any (fun id => closing.closedBy ≠ some id)) conflict
  checkAskedCutoff closingCutoffAt review.closingCutoffAt conflict
  refuseIf (existing.cycleId ≠ closing.cycleId ∨ existing.closingCutoffAt ≠ review.closingCutoffAt)
    conflict
  rules.verifySnapshot existing
  let memory ← parseCanonicalPayload rules existing.canonicalPayload
  refuseIf (existing.calculationVersion ≠ review.calculationVersion ∨
    (get? memory "calculation_version").bind asText? ≠ some review.calculationVersion ∨
    (get? memory "calculation_hash").bind asText? ≠ some review.calculationHash) conflict
  return existing

/-- `persist_approved_cycle_closing_snapshot`. What it reads before the lock cannot have changed
when the lock succeeds, since every writer raises the revision. -/
def persistApprovedCycleClosingSnapshot (rules : SnapshotRules) (sources : FinancialSources)
    (db : ClosingDb) (clock : Int) (seen : Option CycleAnnualClosing)
    (closingCutoffAt : Option Timestamp) (closedBy : Option Nat) (expectedStateRevision : Option Int) :
    Tx (ClosingDb × CycleAnnualClosingSnapshot) := do
  let closing ← orRefuse seen "annual closing process not found"
  if closing.status = .CLOSED ∧ closing.approvedReviewId.isSome then
    let existing ← replaySnapshot rules db closing closingCutoffAt closedBy expectedStateRevision
    return (db, existing)
  refuseIf (closing.status ≠ .MASTER_APPROVED)
    "annual closing must be approved by Master before snapshot persistence"
  refuseIf (expectedStateRevision ≠ some (closing.stateRevision : Int))
    "stale annual closing state revision"
  let review ← orRefuse (closing.approvedReviewId.bind db.review?)
    "annual closing has no valid approved review"
  refuseIf (review.closingId ≠ closing.id ∨ review.cycleId ≠ closing.cycleId)
    "annual closing has no valid approved review"
  refuseIf closing.approvedAt.isNone "annual closing has no audited Master approval"
  let approvedBy ← orRefuse closing.approvedBy "annual closing has no audited Master approval"
  let _ ← actor db approvedBy true
  refuseIf ((db.latestReview? closing.id).map CycleAnnualClosingReview.id ≠ some review.id ∨
    review.processRevision + 1 ≠ closing.stateRevision) "approved annual closing review is not current"
  let cutoff := review.closingCutoffAt
  checkAskedCutoff closingCutoffAt cutoff
    "snapshot cutoff differs from approved annual closing review"
  let actorId := closedBy.getD approvedBy
  let _ ← actor db actorId false
  refuseIf (db.snapshots.any fun s => s.cycleId = closing.cycleId)
    "official snapshot already exists for Cycle"
  let row ← lockClosing db closing.id .MASTER_APPROVED closing.stateRevision
  let result ← revalidateCycleClosingReview rules.sha256 sources db review
  let totals ← validateResultTotals result.memory closing.cycleId
  let payload ← canonicalSnapshotPayload rules (resultJson result)
  let snapshot : CycleAnnualClosingSnapshot :=
    { id := nextKey CycleAnnualClosingSnapshot.id db.snapshots, closingId := closing.id
      cycleId := closing.cycleId, snapshotVersion, closingCutoffAt := cutoff, calculationVersion
      canonicalPayload := payload, payloadHash := rules.sha256 payload, totals, createdBy := actorId }
  refuseIf (row.approvedReviewId ≠ some review.id) "annual closing snapshot was claimed concurrently"
  let db := db.putClosing
    { row with status := .CLOSED, stateRevision := closing.stateRevision + 1
               closedAt := some clock, closedBy := some actorId }
  let db ← insertSnapshot db snapshot
  return (db, snapshot)

inductive ClosingCall where
  | prepare (closingId : Nat) (expectedStateRevision : Int) (closingCutoffAt : Timestamp)
    (cashEvidenceId actorId : Nat)
  | approve (closingId reviewId : Nat) (expectedStateRevision : Int) (actorId : Nat)
  | persist (closingId : Nat) (closingCutoffAt : Option Timestamp) (closedBy : Option Nat)
    (expectedStateRevision : Option Int)
  deriving DecidableEq, Repr

def ClosingCall.closingId : ClosingCall → Nat
  | .prepare id _ _ _ _ => id
  | .approve id _ _ _ => id
  | .persist id _ _ _ => id

/-- A call that has read its closing and goes on from the database as it is now. -/
def finishCall (rules : SnapshotRules) (sources : FinancialSources) (db : ClosingDb) (clock : Int)
    (seen : Option CycleAnnualClosing) : ClosingCall → Tx ClosingDb
  | .prepare _ expected cutoff cashId actorId =>
    Prod.fst <$> prepareCycleClosingReview rules.sha256 sources db seen expected cutoff cashId actorId
  | .approve _ reviewId expected actorId =>
    approveCycleClosingReview rules.sha256 sources db clock seen reviewId expected actorId
  | .persist _ cutoff closedBy expected =>
    Prod.fst <$> persistApprovedCycleClosingSnapshot rules sources db clock seen cutoff closedBy expected

/-- The database, what the closing reads around it, and the calls under way with the row each read. -/
structure ClosingSystem where
  db : ClosingDb
  sources : FinancialSources
  underWay : List (ClosingCall × Option CycleAnnualClosing)

/-- Calls begin and finish in any order, and everything else may change in between. -/
inductive ClosingStep (rules : SnapshotRules) : ClosingSystem → ClosingSystem → Prop where
  | begin (s : ClosingSystem) (call : ClosingCall) :
    ClosingStep rules s
      { s with underWay := s.underWay ++ [(call, s.db.closing? call.closingId)] }
  | finish (s : ClosingSystem) (before after : List (ClosingCall × Option CycleAnnualClosing))
    (call : ClosingCall) (seen : Option CycleAnnualClosing) (clock : Int) (db : ClosingDb)
    (listed : s.underWay = before ++ (call, seen) :: after)
    (done : finishCall rules s.sources s.db clock seen call = .ok db) :
    ClosingStep rules s { s with db, underWay := before ++ after }
  | refuse (s : ClosingSystem) (before after : List (ClosingCall × Option CycleAnnualClosing))
    (call : ClosingCall) (seen : Option CycleAnnualClosing) (clock : Int) (error : Error)
    (listed : s.underWay = before ++ (call, seen) :: after)
    (refused : finishCall rules s.sources s.db clock seen call = .error error) :
    ClosingStep rules s { s with underWay := before ++ after }
  | change (s : ClosingSystem) (sources : FinancialSources) (users : List User)
    (cashEvidence : List CycleAnnualClosingCashEvidence)
    (files : List WorkflowExecutionEvidenceFile) :
    ClosingStep rules s { s with sources, db := { s.db with users, cashEvidence, files } }

end Caixinha.Model.ClosingWorkflow
