import Caixinha.Model.Ledger
import Mathlib.Data.List.Sort

/-! The ledger table as it is stored, whoever wrote it, and the verifier of its hash chain.
Here every column is what the database holds: free texts, a version and a date that may not fit
each other, a hash that may be missing. -/
namespace Caixinha.Model

open Caixinha.Library Table Json

abbrev CivilDay := {day : Int // Calendar.DayInRange day}
abbrev Instant := {t : Int // Calendar.InstantInRange t}

structure StoredEntry where
  id : Nat
  account : String
  direction : String
  amount : Int
  referenceType : String
  referenceId : String
  reversalOfId : Option Nat
  previousHash : Option String
  entryHash : Option String
  createdAt : Instant
  financialDate : Option CivilDay
  hashVersion : Option Int

inductive ChainFault where
  | previous_hash_mismatch | unsupported_hash_version | invalid_hash_version_shape
  | entry_hash_mismatch
  deriving DecidableEq, Repr

namespace StoredEntry

/-- `_hash_payload` -/
def hashPayload (entry : StoredEntry) (previousHash : Option String) : Value :=
  .obj [("account", .str entry.account), ("direction", .str entry.direction),
    ("amount", moneyJson entry.amount), ("reference_type", .str entry.referenceType),
    ("reference_id", .str entry.referenceId), ("reversal_of_id", nullable idJson entry.reversalOfId),
    ("created_at", .str (Calendar.isoUtc entry.createdAt.val)),
    ("previous_hash", nullable .str previousHash)]

/-- `_hash_payload_v2` -/
def hashPayloadV2 (entry : StoredEntry) (day : CivilDay) (previousHash : Option String) : Value :=
  .obj [("account", .str entry.account), ("direction", .str entry.direction),
    ("amount", moneyJson entry.amount), ("reference_type", .str entry.referenceType),
    ("reference_id", .str entry.referenceId), ("reversal_of_id", nullable idJson entry.reversalOfId),
    ("created_at", .str (Calendar.isoUtc entry.createdAt.val)),
    ("previous_hash", nullable .str previousHash), ("hash_version", .int 2),
    ("financial_date", .str (Calendar.isoDate day.val))]

/-- The payload that `_expected_entry_hash` selects, or the fault of the row's shape. -/
def expectedPayload (entry : StoredEntry) (previousHash : Option String) : Except ChainFault Value :=
  match entry.hashVersion, entry.financialDate with
  | none, none => .ok (entry.hashPayload previousHash)
  | some 2, some day => .ok (entry.hashPayloadV2 day previousHash)
  | some 2, none => .error .invalid_hash_version_shape
  | none, some _ => .error .invalid_hash_version_shape
  | some _, _ => .error .unsupported_hash_version

def expectedHash (sha256 : String → String) (entry : StoredEntry) (previousHash : Option String) :
    Except ChainFault String :=
  (fun payload => sha256 (dumpsAscii payload)) <$> entry.expectedPayload previousHash

end StoredEntry

inductive ChainStatus where
  | PASS | FAIL
  deriving DecidableEq, Repr

structure ChainReport where
  status : ChainStatus
  entries : Nat
  errors : List (Nat × ChainFault)
  deriving DecidableEq, Repr

/-- What is wrong with one row after a row carrying `previous`. -/
def rowFaults (sha256 : String → String) (previous : Option String) (entry : StoredEntry) :
    List ChainFault :=
  (if entry.previousHash ≠ previous then [.previous_hash_mismatch] else []) ++
    match entry.expectedHash sha256 entry.previousHash with
    | .error fault => [fault]
    | .ok expected => if entry.entryHash ≠ some expected then [.entry_hash_mismatch] else []

def chainErrors (sha256 : String → String) : Option String → List StoredEntry → List (Nat × ChainFault)
  | _, [] => []
  | previous, entry :: rest =>
    (rowFaults sha256 previous entry).map (fun fault => (entry.id, fault)) ++
      chainErrors sha256 entry.entryHash rest

/-- `order_by(LedgerEntry.id.asc())` -/
def inIdOrder (rows : List StoredEntry) : List StoredEntry :=
  rows.insertionSort (fun a b => a.id ≤ b.id)

/-- `verify_ledger_chain` -/
def verifyLedgerChain (sha256 : String → String) (rows : List StoredEntry) : ChainReport :=
  let errors := chainErrors sha256 none (inIdOrder rows)
  { status := if errors = [] then .PASS else .FAIL, entries := rows.length, errors }

/-- The arguments of `post_entry`, and of `post_entry_v2` where a financial date is given. -/
structure EntryRequest where
  account : String
  direction : String
  amount : Decimal.Number
  referenceType : String
  referenceId : String
  reversalOfId : Option Nat := none
  financialDate : Option CivilDay := none

def checkStoredReversal (rows : List StoredEntry) (amount : Int) : Option Nat → Tx Unit
  | none => .ok ()
  | some id => do
    let original ← orRefuse (lookup StoredEntry.id rows id) "Lançamento original não encontrado"
    refuseIf original.reversalOfId.isSome "Não é permitido reverter uma reversão"
    refuseIf (rows.any (fun e => e.reversalOfId = some id)) "Lançamento já possui reversão"
    refuseIf (amount ≠ original.amount) "A reversão deve ter o mesmo valor do lançamento original"

/-- The row as it is before it is hashed. -/
def EntryRequest.unsigned (request : EntryRequest) (rows : List StoredEntry) (clock : Instant)
    (amount : Int) : StoredEntry where
  id := nextKey StoredEntry.id rows
  account := request.account
  direction := request.direction
  amount
  referenceType := request.referenceType
  referenceId := request.referenceId
  reversalOfId := request.reversalOfId
  previousHash := (inIdOrder rows).getLast?.bind StoredEntry.entryHash
  entryHash := none
  createdAt := clock
  financialDate := request.financialDate
  hashVersion := request.financialDate.map (fun _ => 2)

/-- The digest the writers store: the second version where the row has a financial date. -/
def StoredEntry.signature (sha256 : String → String) (entry : StoredEntry) : String :=
  match entry.financialDate with
  | none => sha256 (dumpsAscii (entry.hashPayload entry.previousHash))
  | some day => sha256 (dumpsAscii (entry.hashPayloadV2 day entry.previousHash))

/-- `post_entry` and `post_entry_v2` on the stored rows. -/
def postStored (sha256 : String → String) (rows : List StoredEntry) (clock : Instant)
    (request : EntryRequest) : Tx (List StoredEntry) :=
  match Decimal.quantizeCents 28 request.amount with
  | none => .error .invalidOperation
  | some amount => do
    refuseIf (amount ≤ 0) "amount deve ser positivo"
    refuseIf (request.direction ∉ ["DEBIT", "CREDIT"]) "direction inválida"
    checkStoredReversal rows amount request.reversalOfId
    let entry := request.unsigned rows clock amount
    return rows ++ [{ entry with entryHash := some (entry.signature sha256) }]

/-- `reverse_entry`; `settled` holds the reference ids that read as the id of a payment with a
settlement. -/
def reverseStored (sha256 : String → String) (rows : List StoredEntry) (clock : Instant)
    (settled : List String) (original : StoredEntry) (reason : String) : Tx (List StoredEntry) := do
  refuseIf (shortReason reason) "Informe um motivo de reversão com pelo menos 5 caracteres"
  refuseIf (original.referenceType ∈ paymentComponentTypes.map LedgerReferenceType.text ∧
      original.referenceId ∈ settled)
    "Componente de pagamento deve ser revertido pelo PaymentReversal integral."
  postStored sha256 rows clock
    { account := original.account
      direction := if original.direction = "DEBIT" then "CREDIT" else "DEBIT"
      amount := ⟨original.amount, -2⟩
      referenceType := "REVERSAL"
      referenceId := toString original.id
      reversalOfId := some original.id }

/-- A call of a writer of the ledger at an instant of the clock. -/
inductive LedgerCall where
  | post (clock : Instant) (request : EntryRequest)
  | reverse (clock : Instant) (settled : List String) (entryId : Nat) (reason : String)

def callLedger (sha256 : String → String) (rows : List StoredEntry) : LedgerCall → Tx (List StoredEntry)
  | .post clock request => postStored sha256 rows clock request
  | .reverse clock settled entryId reason => do
    let original ← orRefuse (lookup StoredEntry.id rows entryId) "Lançamento não encontrado."
    reverseStored sha256 rows clock settled original reason

/-- The ledger after a sequence of calls; one that fails is rolled back. -/
def buildLedger (sha256 : String → String) (rows : List StoredEntry) (calls : List LedgerCall) :
    List StoredEntry :=
  calls.foldl (fun rows call => match callLedger sha256 rows call with
    | .ok rows => rows
    | .error _ => rows) rows

/-- The stored form of a row of the typed ledger. -/
def LedgerEntry.stored (entry : LedgerEntry) (created : Calendar.InstantInRange entry.createdAt)
    (dated : ∀ day ∈ entry.financialDate, Calendar.DayInRange day) : StoredEntry where
  id := entry.id
  account := entry.account
  direction := entry.direction.text
  amount := entry.amount.val
  referenceType := entry.referenceType.text
  referenceId := entry.referenceId
  reversalOfId := entry.reversalOfId
  previousHash := entry.previousHash
  entryHash := some entry.entryHash
  createdAt := ⟨entry.createdAt, created⟩
  financialDate := entry.financialDate.attach.map fun day => ⟨day.val, dated day.val day.property⟩
  hashVersion := entry.financialDate.map fun _ => 2

/-- The verifier expects of a stored row the digest that the writer of the typed row computed. -/
theorem LedgerEntry.stored_expectedHash (env : Env) (entry : LedgerEntry)
    (created : Calendar.InstantInRange entry.createdAt)
    (dated : ∀ day ∈ entry.financialDate, Calendar.DayInRange day) (previousHash : Option String) :
    (entry.stored created dated).expectedHash env.sha256 previousHash =
      .ok (expectedEntryHash env entry previousHash) := by
  obtain ⟨id, account, direction, amount, type, reference, reversal, previous, hash, clock, day⟩ := entry
  cases day with
  | none => rfl
  | some day => rfl

end Caixinha.Model
