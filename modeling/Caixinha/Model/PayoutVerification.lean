import Caixinha.Library.Calendar
import Caixinha.Library.Json
import Caixinha.Model.PayoutDestinations

/-! Ownership checks of a destination: attempts, the evidence of what the provider answered, and
the decision whether a delivery is new, repeated or in conflict. -/
namespace Caixinha.Model
open Caixinha.Library.Calendar Caixinha.Library.Json Caixinha.Library.Table

section Contract

inductive VerificationOutcome where
  | CONFIRMED | NOT_CONFIRMED | RETRYABLE | AMBIGUOUS | INVALID_RESPONSE
  deriving DecidableEq, Repr

def VerificationOutcome.text : VerificationOutcome → String
  | .CONFIRMED => "CONFIRMED"
  | .NOT_CONFIRMED => "NOT_CONFIRMED"
  | .RETRYABLE => "RETRYABLE"
  | .AMBIGUOUS => "AMBIGUOUS"
  | .INVALID_RESPONSE => "INVALID_RESPONSE"

/-- `PENDING` without an outcome or `FINAL` with one (`ck_pdve_state_outcome`). -/
inductive VerificationResultState where
  | pending
  | final (outcome : VerificationOutcome)
  deriving DecidableEq, Repr

def VerificationResultState.isFinal : VerificationResultState → Bool
  | .pending => false
  | .final _ => true

def VerificationResultState.text (s : VerificationResultState) : String := if s.isFinal then "FINAL" else "PENDING"

def VerificationResultState.outcome : VerificationResultState → Option VerificationOutcome
  | .pending => none
  | .final outcome => some outcome

inductive DestinationFreshness where
  | CURRENT | STALE | REVOKED | NOT_UNVERIFIED
  deriving DecidableEq, Repr

def DestinationFreshness.text : DestinationFreshness → String
  | .CURRENT => "CURRENT"
  | .STALE => "STALE"
  | .REVOKED => "REVOKED"
  | .NOT_UNVERIFIED => "NOT_UNVERIFIED"

def isBlank (text : String) : Bool := strip text = ""

/-- What an adapter hands over. -/
structure VerificationResult where
  attemptId : String
  state : VerificationResultState
  providerName : String
  receivedAt : Timestamp
  providerRequestId : Option String := none
  providerResponseId : Option String := none
  providerEventId : Option String := none
  providerTimestamp : Option Timestamp := none
  reasonCode : Option String := none
  evidenceDigest : Option String := none
  deriving DecidableEq, Repr

def requireNonblank (text name : String) : PayoutTx Unit :=
  raiseWhen (isBlank text) (.contractError (name ++ " must be a non-empty string."))

def requireAware (value : Timestamp) (name : String) : PayoutTx Unit :=
  raiseWhen (value.aware = false) (.contractError (name ++ " must be timezone-aware."))

/-- A check that an absent value passes. -/
def whenGiven {α : Type} (value : Option α) (check : α → PayoutTx Unit) : PayoutTx Unit :=
  match value with
  | none => .ok ()
  | some a => check a

def isSha256Digest (digest : String) : Bool :=
  digest.toList.take 7 = "sha256:".toList ∧ digest.toList.length = 71 ∧
    (digest.toList.drop 7).all (fun c => isDigit c ∨ ('a' ≤ c ∧ c ≤ 'f'))

/-- `__post_init__`; the fields that go together are one value here. -/
def VerificationResult.contract (r : VerificationResult) : PayoutTx Unit := do
  requireNonblank r.attemptId "attempt_id"
  requireNonblank r.providerName "provider_name"
  requireAware r.receivedAt "received_at"
  whenGiven r.providerRequestId (fun id => requireNonblank id "provider_request_id")
  whenGiven r.providerResponseId (fun id => requireNonblank id "provider_response_id")
  whenGiven r.providerEventId (fun id => requireNonblank id "provider_event_id")
  whenGiven r.providerTimestamp (fun time => requireAware time "provider_timestamp")
  whenGiven r.reasonCode (fun code => requireNonblank code "reason_code")
  whenGiven r.evidenceDigest (fun digest => raiseWhen (¬ isSha256Digest digest)
    (.contractError "evidence_digest must use sha256:<64 lowercase hex>."))

inductive AttemptState where
  | REQUESTED | PENDING | FINAL
  deriving DecidableEq, Repr

/-- `state IN ('REQUESTED', 'PENDING')` -/
def AttemptState.isActive : AttemptState → Bool
  | .FINAL => false
  | _ => true

structure VerificationAttempt where
  id : Nat
  attemptId : String
  idempotencyKey : String
  destinationId : Nat
  destinationVersion : Nat
  keyType : KeyType
  providerName : String
  state : AttemptState
  requestedAt : Int
  requestedBy : Option Nat
  createdAt : Int
  deriving DecidableEq, Repr

def requirePositive (id : Nat) (name : String) : PayoutTx Unit :=
  raiseWhen (id = 0) (.contractError (name ++ " must be a positive integer."))

/-- The contract of the domain value an attempt is read as. -/
def VerificationAttempt.contract (a : VerificationAttempt) : PayoutTx Unit := do
  requireNonblank a.attemptId "attempt_id"
  requireNonblank a.idempotencyKey "idempotency_key"
  requirePositive a.destinationId "destination_id"
  requirePositive a.destinationVersion "destination_version"

def evaluateDestinationFreshness (a : VerificationAttempt) (currentId currentVersion : Nat)
    (currentStatus : Lifecycle) : PayoutTx DestinationFreshness := do
  requirePositive currentId "current_destination_id"
  requirePositive currentVersion "current_destination_version"
  return if a.destinationId ≠ currentId ∨ a.destinationVersion ≠ currentVersion then .STALE
    else match currentStatus with
      | .revoked _ _ => .REVOKED
      | .verified _ => .NOT_UNVERIFIED
      | .unverified => .CURRENT

end Contract

section Evidence

inductive CheckedStatus where
  | AUTHENTIC | INVALID | UNVERIFIABLE
  deriving DecidableEq, Repr

def CheckedStatus.text : CheckedStatus → String
  | .AUTHENTIC => "AUTHENTIC"
  | .INVALID => "INVALID"
  | .UNVERIFIABLE => "UNVERIFIABLE"

/-- A check names its method and its time (`ck_pdve_authenticity_fields`). -/
inductive Authenticity where
  | notChecked
  | checked (status : CheckedStatus) (method : String) (checkedAt : Int)
  deriving DecidableEq, Repr

def Authenticity.status : Authenticity → String
  | .notChecked => "NOT_CHECKED"
  | .checked status _ _ => status.text

def Authenticity.method : Authenticity → Option String
  | .notChecked => none
  | .checked _ method _ => some method

def Authenticity.checkedAt : Authenticity → Option Int
  | .notChecked => none
  | .checked _ _ instant => some instant

structure VerificationEvidence where
  id : Nat
  verificationAttemptId : Nat
  sequence : Nat
  resultState : VerificationResultState
  reasonCode : Option String
  providerRequestId : Option String
  providerResponseId : Option String
  providerEventId : Option String
  providerTimestamp : Option Int
  receivedAt : Int
  authenticity : Authenticity
  freshness : DestinationFreshness
  evidenceDigest : String
  createdAt : Int
  deriving DecidableEq, Repr

/-- `_timestamp`: six digits of fraction, always. -/
def timestampText (instant : Int) : String :=
  let rest := (instant % 86400000000).toNat
  let seconds := rest / 1000000
  String.ofList (dateChars (instant / 86400000000) ++ 'T' :: pad 2 (seconds / 3600) ++
    ':' :: pad 2 (seconds / 60 % 60) ++ ':' :: pad 2 (seconds % 60) ++
    '.' :: pad 6 (rest % 1000000) ++ ['Z'])

example : timestampText 1767225600000000 = "2026-01-01T00:00:00.000000Z" := by decide +kernel

def optText (text : Option String) : Value := nullable .str text

def optTime (instant : Option Int) : Value := nullable (fun t => .str (timestampText t)) instant

/-- What a stored row and a delivery have in common: the provider's answer, the time it came in
and how it was checked. -/
structure Answer where
  state : VerificationResultState
  reasonCode : Option String
  requestId : Option String
  responseId : Option String
  eventId : Option String
  providerTimestamp : Option Int
  receivedAt : Int
  authenticity : Authenticity
  deriving DecidableEq, Repr

def VerificationResult.answer (r : VerificationResult) (authenticity : Authenticity) : Answer where
  state := r.state
  reasonCode := r.reasonCode
  requestId := r.providerRequestId
  responseId := r.providerResponseId
  eventId := r.providerEventId
  providerTimestamp := r.providerTimestamp.map Timestamp.instant
  receivedAt := r.receivedAt.instant
  authenticity := authenticity

def VerificationEvidence.answer (e : VerificationEvidence) : Answer where
  state := e.resultState
  reasonCode := e.reasonCode
  requestId := e.providerRequestId
  responseId := e.providerResponseId
  eventId := e.providerEventId
  providerTimestamp := e.providerTimestamp
  receivedAt := e.receivedAt
  authenticity := e.authenticity

variable (env : PayoutEnv) (attempt : VerificationAttempt) (providerName : String) (answer : Answer)

def canonicalEvidencePayload (freshness : DestinationFreshness) : Value :=
  .obj [("attempt_id", .str attempt.attemptId),
    ("authenticity_checked_at", optTime answer.authenticity.checkedAt),
    ("authenticity_method", optText answer.authenticity.method),
    ("authenticity_status", .str answer.authenticity.status),
    ("destination_id", .int attempt.destinationId),
    ("destination_version", .int attempt.destinationVersion),
    ("freshness", .str freshness.text),
    ("outcome", optText (answer.state.outcome.map VerificationOutcome.text)),
    ("provider_event_id", optText answer.eventId),
    ("provider_name", .str providerName),
    ("provider_request_id", optText answer.requestId),
    ("provider_response_id", optText answer.responseId),
    ("provider_timestamp", optTime answer.providerTimestamp),
    ("received_at", .str (timestampText answer.receivedAt)),
    ("reason_code", optText answer.reasonCode),
    ("result_state", .str answer.state.text),
    ("schema_version", .str "payout_verification_evidence_v1")]

def computeEvidenceDigest (freshness : DestinationFreshness) : String :=
  "sha256:" ++ env.sha256 (dumps (canonicalEvidencePayload attempt providerName answer freshness))

/-- The identity of one logical delivery: neither the local times nor the freshness count. -/
def deliveryIdentityPayload : Value :=
  .obj [("attempt_id", .str attempt.attemptId),
    ("authenticity_method", optText answer.authenticity.method),
    ("authenticity_status", .str answer.authenticity.status),
    ("destination_id", .int attempt.destinationId),
    ("destination_version", .int attempt.destinationVersion),
    ("outcome", optText (answer.state.outcome.map VerificationOutcome.text)),
    ("provider_event_id", optText answer.eventId),
    ("provider_name", .str providerName),
    ("provider_request_id", optText answer.requestId),
    ("provider_response_id", optText answer.responseId),
    ("provider_timestamp", optTime answer.providerTimestamp),
    ("reason_code", optText answer.reasonCode),
    ("result_state", .str answer.state.text),
    ("schema_version", .str "payout_verification_delivery_v1")]

/-- `_result_delivery_fingerprint` and `_evidence_delivery_fingerprint` -/
def deliveryFingerprint : String :=
  env.sha256 (dumps (deliveryIdentityPayload attempt providerName answer))

/-- `_evidence_matches` -/
def evidenceMatches (e : VerificationEvidence) (freshness : DestinationFreshness) (digest : String) : Bool :=
  let stored := e.answer
  e.verificationAttemptId = attempt.id ∧ stored.state = answer.state ∧
    stored.reasonCode = answer.reasonCode ∧ stored.requestId = answer.requestId ∧
    stored.responseId = answer.responseId ∧ stored.eventId = answer.eventId ∧
    stored.providerTimestamp.map timestampText = answer.providerTimestamp.map timestampText ∧
    timestampText stored.receivedAt = timestampText answer.receivedAt ∧
    stored.authenticity.status = answer.authenticity.status ∧
    stored.authenticity.method = answer.authenticity.method ∧
    stored.authenticity.checkedAt.map timestampText =
      answer.authenticity.checkedAt.map timestampText ∧
    e.freshness = freshness ∧ e.evidenceDigest = digest

/-- `_shares_provider_correlation`: the event ids where both are known, then the response ids,
then the request ids. -/
def sharesProviderCorrelation (stored result : Answer) : Bool :=
  if result.eventId.isSome ∧ stored.eventId.isSome then
    if result.eventId = stored.eventId then true
    else if result.responseId.isSome ∧ stored.responseId.isSome then
      result.responseId = stored.responseId
    else false
  else if result.responseId.isSome ∧ stored.responseId.isSome then
    result.responseId = stored.responseId
  else if result.requestId.isSome ∧ stored.requestId.isSome then
    result.requestId = stored.requestId
  else false

end Evidence

/-- Everything the two services write. -/
structure PayoutBook where
  payees : Payees
  attempts : List VerificationAttempt
  evidence : List VerificationEvidence
  deriving DecidableEq, Repr

section Attempts
variable (book : PayoutBook)

def PayoutBook.destination? (id : Nat) : Option PayoutDestination :=
  lookup PayoutDestination.id book.payees.destinations id

def PayoutBook.evidenceOf (attemptId : Nat) : List VerificationEvidence :=
  book.evidence.filter (fun e => e.verificationAttemptId = attemptId)

def PayoutBook.setAttempt (attempt : VerificationAttempt) : PayoutBook :=
  { book with attempts := replace VerificationAttempt.id book.attempts attempt }

def attemptByIdempotency (idempotencyKey : String) : Option VerificationAttempt :=
  book.attempts.find? (fun a => a.idempotencyKey = idempotencyKey)

def activeAttempts (destinationId : Nat) : List VerificationAttempt :=
  book.attempts.filter (fun a => a.destinationId = destinationId ∧ a.state.isActive)

/-- `_active_destination` -/
def activeDestination (memberId : Nat) : PayoutTx (Option PayoutDestination) :=
  oneOrNone (activeDestinations book.payees.destinations memberId)
    (.verificationIntegrity "Member has inconsistent active destinations.")

def compatibleExistingStart (attempt : VerificationAttempt) (destinationId : Nat)
    (providerName : String) : PayoutTx VerificationAttempt :=
  let compatible := (book.destination? destinationId).any fun d =>
    attempt.destinationId = destinationId ∧ attempt.providerName = providerName ∧
      attempt.destinationVersion = d.version ∧ attempt.keyType = d.keyType
  if compatible then .ok attempt
  else .error (.verificationConflict "Idempotency key conflicts with an existing attempt.")

def requireText (text : String) (maximum : Nat) (name : String) : PayoutTx Unit :=
  raiseWhen (isBlank text ∨ maximum < text.length) (.verificationConflict (name ++ " is invalid."))

def positiveId (id : Nat) (name : String) : PayoutTx Unit :=
  raiseWhen (id = 0) (.verificationConflict (name ++ " is invalid."))

def awareUtc (value : Timestamp) (name : String) : PayoutTx Int :=
  if value.aware then .ok value.instant
  else .error (.verificationConflict (name ++ " must be timezone-aware."))

/-- What a caller asks `start_verification_attempt` for, with the token drawn for it. -/
structure StartRequest where
  destinationId : Nat
  idempotencyKey : String
  providerName : String
  requestedBy : Option Nat
  requestedAt : Option Timestamp
  token : String
  now : Int
  deriving DecidableEq, Repr

def newVerificationAttempt (request : StartRequest) (locator : PayoutDestination) (requestedAt : Int) :
    VerificationAttempt where
  id := nextKey VerificationAttempt.id book.attempts
  attemptId := request.token
  idempotencyKey := request.idempotencyKey
  destinationId := request.destinationId
  destinationVersion := locator.version
  keyType := locator.keyType
  providerName := request.providerName
  state := .REQUESTED
  requestedAt := requestedAt
  requestedBy := request.requestedBy
  createdAt := request.now

/-- The checks on a fresh start, under the member's lock. -/
def createAttempt (request : StartRequest) (requestedAt : Int) :
    PayoutTx (PayoutBook × VerificationAttempt) := do
  let locator ← orRaise (book.destination? request.destinationId)
    (.verificationNotFound "Payout destination was not found.")
  let _ ← lockMember book.payees locator.memberId
    (.verificationNotFound "Payout destination member was not found.")
  let active ← activeDestination book locator.memberId
  let current ← orRaise (active.filter (fun d => d.id = request.destinationId))
    (.verificationConflict "Payout destination is not the active version.")
  raiseWhen (current.version ≠ locator.version ∨ current.keyType ≠ locator.keyType ∨
      current.status ≠ .unverified)
    (.verificationConflict "Payout destination is not eligible for a new attempt.")
  whenGiven request.requestedBy (fun actor =>
    raiseWhen (lookup User.id book.payees.users actor = none)
      (.verificationNotFound "Requesting actor was not found."))
  let running ← oneOrNone (activeAttempts book request.destinationId) .multipleResultsFound
  raiseWhen (running ≠ none)
    (.verificationConflict "Payout destination already has an active attempt.")
  -- the identifier is the only thing left that the table can refuse
  raiseWhen (isBlank request.token ∨ request.token ∈ book.attempts.map VerificationAttempt.attemptId)
    (.verificationIntegrity "Verification attempt could not be persisted.")
  let row := newVerificationAttempt book request locator requestedAt
  return ({ book with attempts := book.attempts ++ [row] }, row)

/-- Start or idempotently reuse an attempt. -/
def startVerificationAttempt (request : StartRequest) :
    PayoutTx (PayoutBook × VerificationAttempt) := do
  positiveId request.destinationId "destination_id"
  requireText request.idempotencyKey 150 "idempotency_key"
  requireText request.providerName 80 "provider_name"
  whenGiven request.requestedBy (fun actor => positiveId actor "requested_by")
  let requestedAt ← awareUtc (request.requestedAt.getD { instant := request.now }) "requested_at"
  match attemptByIdempotency book request.idempotencyKey with
  | some existing => do
    let attempt ← compatibleExistingStart book existing request.destinationId request.providerName
    return (book, attempt)
  | none => createAttempt book request requestedAt

end Attempts

section Deliveries

/-- One call of `record_verification_result`. -/
structure ProviderDelivery where
  result : VerificationResult
  authenticityStatus : String
  authenticityMethod : Option String := none
  authenticityCheckedAt : Option Timestamp := none
  deriving DecidableEq, Repr

def validateAuthenticity (status : String) (method : Option String) (checkedAt : Option Timestamp) :
    PayoutTx Authenticity :=
  if status = "NOT_CHECKED" then
    if method = none ∧ checkedAt = none then .ok .notChecked
    else .error (.verificationConflict "Authenticity metadata is invalid.")
  else do
    let checked ← orRaise
      ([CheckedStatus.AUTHENTIC, .INVALID, .UNVERIFIABLE].find? (fun s => s.text = status))
      (.verificationConflict "Authenticity status is invalid.")
    let name ← orRaise method (.verificationConflict "authenticity_method is invalid.")
    requireText name 80 "authenticity_method"
    let time ← orRaise checkedAt (.verificationConflict "Authenticity metadata is invalid.")
    let instant ← awareUtc time "authenticity_checked_at"
    return .checked checked name instant

/-- `_SAFE_REASON_CODE` -/
def isSafeReasonCode (code : String) : Bool :=
  1 ≤ code.length ∧ code.length ≤ 100 ∧
    code.toList.all (fun c => isDigit c ∨ ('a' ≤ c ∧ c ≤ 'z') ∨ ('A' ≤ c ∧ c ≤ 'Z') ∨
      c ∈ ['_', '.', ':', '-'])

/-- The checks that need no stored row: the contract of the result, then the service's own. -/
def readDelivery (delivery : ProviderDelivery) : PayoutTx Authenticity := do
  let result := delivery.result
  result.contract
  whenGiven result.providerRequestId (fun id => requireText id 255 "provider_request_id")
  whenGiven result.providerResponseId (fun id => requireText id 255 "provider_response_id")
  whenGiven result.providerEventId (fun id => requireText id 255 "provider_event_id")
  let authenticity ← validateAuthenticity delivery.authenticityStatus delivery.authenticityMethod
    delivery.authenticityCheckedAt
  whenGiven result.reasonCode (fun code => raiseWhen (¬ isSafeReasonCode code)
    (.verificationConflict "Verification reason code is invalid."))
  return authenticity

variable (env : PayoutEnv) (book : PayoutBook)

/-- The attempt a result names, with its destination, under the member's lock. -/
def locateAttempt (result : VerificationResult) :
    PayoutTx (VerificationAttempt × PayoutDestination) := do
  let attempt ← orRaise (book.attempts.find? (fun a => a.attemptId = result.attemptId))
    (.verificationNotFound "Verification attempt was not found.")
  let destination ← orRaise (book.destination? attempt.destinationId)
    (.verificationIntegrity "Verification destination binding is invalid.")
  let _ ← lockMember book.payees destination.memberId
    (.verificationNotFound "Payout destination member was not found.")
  raiseWhen (attempt.destinationVersion ≠ destination.version ∨ attempt.keyType ≠ destination.keyType)
    (.verificationIntegrity "Verification destination binding is invalid.")
  raiseWhen (result.providerName ≠ attempt.providerName)
    (.verificationConflict "Provider does not match the verification attempt.")
  return (attempt, destination)

def storedAttemptEvidence (attempt : VerificationAttempt) : List VerificationEvidence :=
  (book.evidenceOf attempt.id).mergeSort (fun a b => a.sequence ≤ b.sequence)

/-- The loop over the stored rows; `conflicting` remembers a shared correlation. -/
def scanDeliveries (attempt : VerificationAttempt) (incoming : String) (answer : Answer) :
    List VerificationEvidence → Bool → PayoutTx (Option VerificationEvidence)
  | [], conflicting =>
    if conflicting then
      .error (.verificationConflict "Provider delivery correlation conflicts with stored evidence.")
    else .ok none
  | stored :: rest, conflicting =>
    if deliveryFingerprint env attempt attempt.providerName stored.answer = incoming then
      .ok (some stored)
    else scanDeliveries attempt incoming answer rest
      (conflicting || sharesProviderCorrelation stored.answer answer)

def findDeliveryReplay (attempt : VerificationAttempt) (providerName : String) (answer : Answer) :
    PayoutTx (Option VerificationEvidence) :=
  scanDeliveries env attempt (deliveryFingerprint env attempt providerName answer) answer
    (storedAttemptEvidence book attempt) false

def freshnessForAttempt (attempt : VerificationAttempt) (destination : PayoutDestination) :
    PayoutTx DestinationFreshness := do
  let current ← activeDestination book destination.memberId
  attempt.contract
  match current with
  | some d => evaluateDestinationFreshness attempt d.id d.version d.status
  | none =>
    if destination.revoked then
      evaluateDestinationFreshness attempt attempt.destinationId attempt.destinationVersion
        destination.status
    else .error (.verificationIntegrity "Destination state is inconsistent.")

def advanceAttempt (attempt : VerificationAttempt) (state : VerificationResultState) : PayoutTx PayoutBook :=
  match state with
  | .pending =>
    match attempt.state with
    | .REQUESTED => .ok (book.setAttempt { attempt with state := .PENDING })
    | .PENDING => .ok book
    | .FINAL => .error (.verificationConflict "Verification attempt is already final.")
  | .final _ =>
    match attempt.state with
    | .FINAL => .ok book
    | _ => .ok (book.setAttempt { attempt with state := .FINAL })

/-- A final attempt stays as it is; another follows the result. -/
def advanceUnlessFinal (attempt : VerificationAttempt) (state : VerificationResultState) : PayoutTx PayoutBook :=
  if attempt.state = .FINAL then .ok book else advanceAttempt book attempt state

def nextSequence (attempt : VerificationAttempt) : Nat :=
  ((book.evidenceOf attempt.id).map VerificationEvidence.sequence).foldr max 0 + 1

def newEvidence (attempt : VerificationAttempt) (answer : Answer) (freshness : DestinationFreshness)
    (digest : String) (now : Int) : VerificationEvidence where
  id := nextKey VerificationEvidence.id book.evidence
  verificationAttemptId := attempt.id
  sequence := nextSequence book attempt
  resultState := answer.state
  reasonCode := answer.reasonCode
  providerRequestId := answer.requestId
  providerResponseId := answer.responseId
  providerEventId := answer.eventId
  providerTimestamp := answer.providerTimestamp
  receivedAt := answer.receivedAt
  authenticity := answer.authenticity
  freshness := freshness
  evidenceDigest := digest
  createdAt := now

/-- Add the evidence and move the attempt, both or neither; the unique indexes of the table are
the last guard. -/
def insertEvidence (attempt : VerificationAttempt) (row : VerificationEvidence) :
    PayoutTx (PayoutBook × VerificationEvidence) := do
  raiseWhen (∃ e ∈ book.evidenceOf attempt.id, e.sequence = row.sequence ∨
      e.evidenceDigest = row.evidenceDigest ∨ (e.resultState.isFinal ∧ row.resultState.isFinal))
    (.verificationConflict "Verification result conflicts with stored state.")
  let advanced ← advanceAttempt { book with evidence := book.evidence ++ [row] } attempt
    row.resultState
  return (advanced, row)

/-- A delivery that repeats no stored one. -/
def recordNewDelivery (attempt : VerificationAttempt) (destination : PayoutDestination)
    (result : VerificationResult) (authenticity : Authenticity) (now : Int) :
    PayoutTx (PayoutBook × VerificationEvidence) := do
  raiseWhen (attempt.state = .FINAL) (.verificationConflict "Verification attempt is already final.")
  let freshness ← freshnessForAttempt book attempt destination
  let answer := result.answer authenticity
  let digest := computeEvidenceDigest env attempt result.providerName answer freshness
  raiseWhen (result.evidenceDigest.any (· ≠ digest))
    (.verificationConflict "Evidence digest does not match the sanitized result.")
  match (book.evidenceOf attempt.id).find? (fun e => e.evidenceDigest = digest) with
  | some existing => do
    raiseWhen (¬ evidenceMatches attempt answer existing freshness digest)
      (.verificationIntegrity "Stored evidence conflicts with its digest.")
    let advanced ← advanceUnlessFinal book attempt result.state
    return (advanced, existing)
  | none => do
    let finals ← oneOrNone ((book.evidenceOf attempt.id).filter (fun e => e.resultState.isFinal))
      .multipleResultsFound
    raiseWhen (finals ≠ none)
      (.verificationConflict "Verification attempt already has final evidence.")
    insertEvidence book attempt (newEvidence book attempt answer freshness digest now)

/-- Persist a result and the matching transition of its attempt. A redelivery is looked for
before the freshness is computed again. -/
def recordVerificationResult (delivery : ProviderDelivery) (now : Int) :
    PayoutTx (PayoutBook × VerificationEvidence) := do
  let authenticity ← readDelivery delivery
  let result := delivery.result
  let (attempt, destination) ← locateAttempt book result
  let replay ← findDeliveryReplay env book attempt result.providerName (result.answer authenticity)
  match replay with
  | some stored => do
    raiseWhen (result.evidenceDigest.any (· ≠ stored.evidenceDigest))
      (.verificationConflict "Evidence digest does not match stored evidence.")
    let advanced ← advanceUnlessFinal book attempt result.state
    return (advanced, stored)
  | none => recordNewDelivery env book attempt destination result authenticity now

end Deliveries

section Calls

inductive PayoutCall where
  | create (memberId : Nat) (keyType value : String) (actorId : Nat) (now : Int)
  | replace (memberId : Nat) (keyType value : String) (actorId : Nat) (now : Int)
  | revoke (destinationId actorId : Nat) (now : Int)
  | start (request : StartRequest)
  | record (delivery : ProviderDelivery) (now : Int)
  deriving DecidableEq, Repr

variable (env : PayoutEnv)

def attemptPayout (book : PayoutBook) : PayoutCall → PayoutTx PayoutBook
  | .create memberId keyType value actorId now => do
    let (payees, _) ← createUnverifiedDestination env book.payees memberId keyType value actorId now
    return { book with payees }
  | .replace memberId keyType value actorId now => do
    let (payees, _) ← replaceDestination env book.payees memberId keyType value actorId now
    return { book with payees }
  | .revoke destinationId actorId now => do
    let (payees, _) ← revokeDestination book.payees destinationId actorId now
    return { book with payees }
  | .start request => do
    let (book, _) ← startVerificationAttempt book request
    return book
  | .record delivery now => do
    let (book, _) ← recordVerificationResult env book delivery now
    return book

/-- One call in its own transaction; the member's lock puts the calls in a row. -/
def callPayout (book : PayoutBook) (call : PayoutCall) : PayoutBook :=
  match attemptPayout env book call with
  | .ok book => book
  | .error _ => book

def runPayout (book : PayoutBook) (calls : List PayoutCall) : PayoutBook :=
  calls.foldl (callPayout env) book

/-- People without destinations. -/
def PayoutBook.opened (members : List Member) (users : List User) : PayoutBook where
  payees := { members, users, destinations := [] }
  attempts := []
  evidence := []

end Calls

end Caixinha.Model
