import Caixinha.Library.Calendar
import Caixinha.Library.Decimal
import Caixinha.Library.Json
import Caixinha.Model.Records

/-! The hash-chained ledger: posting, compensating entries and the cash it shows. -/
namespace Caixinha.Model

open Caixinha.Library Table Json

def Direction.text : Direction → String
  | .CREDIT => "CREDIT"
  | .DEBIT => "DEBIT"

def LedgerReferenceType.text : LedgerReferenceType → String
  | .CONTRIBUTION_PAYMENT => "CONTRIBUTION_PAYMENT"
  | .LOAN_DISBURSEMENT => "LOAN_DISBURSEMENT"
  | .LOAN_INTEREST_PAYMENT => "LOAN_INTEREST_PAYMENT"
  | .LOAN_PENALTY_PAYMENT => "LOAN_PENALTY_PAYMENT"
  | .LOAN_INSTALLMENT_PAYMENT => "LOAN_INSTALLMENT_PAYMENT"
  | .AGREEMENT_INSTALLMENT_PAYMENT => "AGREEMENT_INSTALLMENT_PAYMENT"
  | .EXPENSE => "EXPENSE"
  | .REVERSAL => "REVERSAL"

def idJson (id : Nat) : Value := .int id
def moneyJson (cents : Int) : Value := .str (Decimal.centsText cents)

/-- `_hash_payload`; the second version adds the civil date and its own number. -/
def hashPayload (entry : LedgerEntry) (previousHash : Option String) : Value :=
  .obj ([("account", .str entry.account), ("direction", .str entry.direction.text),
    ("amount", moneyJson entry.amount.val), ("reference_type", .str entry.referenceType.text),
    ("reference_id", .str entry.referenceId), ("reversal_of_id", nullable idJson entry.reversalOfId),
    ("created_at", .str (Calendar.isoUtc entry.createdAt)),
    ("previous_hash", nullable .str previousHash)] ++
    match entry.financialDate with
    | none => []
    | some day => [("hash_version", .int 2), ("financial_date", .str (Calendar.isoDate day))])

def expectedEntryHash (env : Env) (entry : LedgerEntry) (previousHash : Option String) : String :=
  env.sha256 (dumpsAscii (hashPayload entry previousHash))

/-- The row of the highest id, as `order_by(LedgerEntry.id.desc()).first()` finds it. -/
def Db.lastLedgerEntry? (db : Db) : Option LedgerEntry :=
  db.ledgerEntries.foldl (fun last e => match last with
    | none => some e
    | some l => if l.id < e.id then some e else some l) none

structure NewLedgerEntry where
  account : String
  direction : Direction
  amount : Int
  referenceType : LedgerReferenceType
  referenceId : String
  reversalOfId : Option Nat := none
  financialDate : Option Int := none

/-- What must hold of the entry a compensation points to. -/
def checkReversalOf (db : Db) (new : NewLedgerEntry) : Tx Unit :=
  match new.reversalOfId with
  | none => .ok ()
  | some id => do
    let original ← orRefuse (db.ledgerEntry? id) "Lançamento original não encontrado"
    refuseIf original.reversalOfId.isSome "Não é permitido reverter uma reversão"
    refuseIf (db.ledgerEntries.any (fun e => e.reversalOfId = some id)) "Lançamento já possui reversão"
    refuseIf (new.amount ≠ original.amount.val)
      "A reversão deve ter o mesmo valor do lançamento original"

/-- `post_entry`, and `post_entry_v2` where a financial date is given. -/
def postEntry (env : Env) (db : Db) (clock : Int) (new : NewLedgerEntry) : Tx (Db × LedgerEntry) :=
  if h : 0 < new.amount then do
    checkReversalOf db new
    let previousHash := db.lastLedgerEntry?.map (·.entryHash)
    let unsigned : LedgerEntry :=
      { id := nextKey LedgerEntry.id db.ledgerEntries
        account := new.account
        direction := new.direction
        amount := ⟨new.amount, h⟩
        referenceType := new.referenceType
        referenceId := new.referenceId
        reversalOfId := new.reversalOfId
        previousHash
        entryHash := ""
        createdAt := clock
        financialDate := new.financialDate }
    let entry := { unsigned with entryHash := expectedEntryHash env unsigned previousHash }
    return ({ db with ledgerEntries := db.ledgerEntries ++ [entry] }, entry)
  else .error (.valueError "amount deve ser positivo")

/-- The entry that undoes `original`. -/
def compensationOf (original : LedgerEntry) : NewLedgerEntry where
  account := original.account
  direction := original.direction.opposite
  amount := original.amount.val
  referenceType := .REVERSAL
  referenceId := toString original.id
  reversalOfId := some original.id

def paymentComponentTypes : List LedgerReferenceType :=
  [.LOAN_INTEREST_PAYMENT, .LOAN_PENALTY_PAYMENT, .LOAN_INSTALLMENT_PAYMENT,
    .AGREEMENT_INSTALLMENT_PAYMENT]

/-- `len(reason.strip()) < 5` -/
def shortReason (reason : String) : Prop := (strip reason).length < 5

instance (reason : String) : Decidable (shortReason reason) := inferInstanceAs (Decidable (_ < _))

/-- The entries of loan and agreement payments are not reversed alone. -/
def reverseEntry (env : Env) (db : Db) (clock : Int) (original : LedgerEntry) (reason : String) :
    Tx (Db × LedgerEntry) := do
  refuseIf (shortReason reason) "Informe um motivo de reversão com pelo menos 5 caracteres"
  refuseIf (original.referenceType ∈ paymentComponentTypes ∧
      db.settlements.any (fun s => toString s.paymentId = original.referenceId))
    "Componente de pagamento deve ser revertido pelo PaymentReversal integral."
  postEntry env db clock (compensationOf original)

def Direction.sign : Direction → Int
  | .CREDIT => 1
  | .DEBIT => -1

/-- What an entry adds to the balance of its account. -/
def LedgerEntry.signed (entry : LedgerEntry) : Int := entry.direction.sign * entry.amount.val

def accountBalance (account : String) (entries : List LedgerEntry) : Int :=
  ((entries.filter (fun e => e.account = account)).map LedgerEntry.signed).sum

def Db.caixinhaBalance (db : Db) : Int := accountBalance "CAIXINHA" db.ledgerEntries

/-- What a successful posting wrote: one new row at the end of the ledger. -/
theorem postEntry_eq_ok {env : Env} {db db' : Db} {clock : Int} {new : NewLedgerEntry}
    {entry : LedgerEntry} (h : postEntry env db clock new = .ok (db', entry)) :
    db' = { db with ledgerEntries := db.ledgerEntries ++ [entry] } ∧
      entry.id = nextKey LedgerEntry.id db.ledgerEntries ∧ entry.account = new.account ∧
      entry.direction = new.direction ∧ entry.amount.val = new.amount ∧
      entry.referenceType = new.referenceType ∧ entry.referenceId = new.referenceId ∧
      entry.reversalOfId = new.reversalOfId ∧ checkReversalOf db new = .ok () := by
  unfold postEntry at h
  split at h
  · simp only [Fallible.bind_eq_ok, Fallible.pure_eq_ok, Prod.mk.injEq] at h
    obtain ⟨_, hcheck, rfl, rfl⟩ := h
    exact ⟨rfl, rfl, rfl, rfl, rfl, rfl, rfl, rfl, hcheck⟩
  · cases h

end Caixinha.Model
