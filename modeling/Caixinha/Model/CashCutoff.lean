import Caixinha.Model.LedgerChain

/-! The cash that the stored ledger proves at a cutoff, with the trace of its entries. -/
namespace Caixinha.Model

open Caixinha.Library Table

/-- `CASH_REFERENCE_TYPES` -/
def cashReferenceTypes : List String :=
  ["CONTRIBUTION_PAYMENT", "EXPENSE", "LOAN_DISBURSEMENT", "LOAN_INSTALLMENT_PAYMENT",
    "LOAN_INTEREST_PAYMENT", "LOAN_PENALTY_PAYMENT", "AGREEMENT_INSTALLMENT_PAYMENT", "REVERSAL"]

structure CashTrace where
  id : Nat
  account : String
  direction : String
  amount : String
  referenceType : String
  referenceId : String
  reversalOfId : Option Nat
  createdAt : String
  entryHash : Option String
  deriving DecidableEq, Repr

def StoredEntry.trace (row : StoredEntry) : CashTrace where
  id := row.id
  account := row.account
  direction := row.direction
  amount := Decimal.centsText row.amount
  referenceType := row.referenceType
  referenceId := row.referenceId
  reversalOfId := row.reversalOfId
  createdAt := Calendar.isoZulu row.createdAt.val
  entryHash := row.entryHash

section Cutoff
variable (sha256 : String → String) (rows : List StoredEntry) (cutoff : Int)

/-- The rows up to the last one at or before the cutoff. -/
def coveredRows : List StoredEntry :=
  match ((inIdOrder rows).filter (fun row => row.createdAt.val ≤ cutoff)).getLast? with
  | none => []
  | some last => (inIdOrder rows).filter (fun row => row.id ≤ last.id)

/-- Whether a row names the hash before it and carries the hash expected of it. -/
def provesHash (previousHash : Option String) (row : StoredEntry) : Bool :=
  match row.expectedHash sha256 previousHash with
  | .error _ => false
  | .ok expected => row.previousHash = previousHash ∧ row.entryHash = some expected

def checkChain : Option String → Nat → List StoredEntry → Tx Unit
  | _, _, [] => .ok ()
  | previousHash, previousId, row :: rest => do
    refuseIf (row.id ≤ previousId ∨ row.entryHash = none ∨ row.entryHash = some "")
      "ledger chain sequence or hash is missing"
    refuseIf (¬ provesHash sha256 previousHash row) "ledger integrity cannot prove annual cash position"
    checkChain row.entryHash row.id rest

/-- What the loop over the entries has gathered. -/
structure CashPosition where
  reversalIds : List Nat
  balance : Int
  trace : List CashTrace
  deriving DecidableEq, Repr

/-- What must hold of the original of a reversal. -/
def checkCashReversal (covered : List StoredEntry) (position : CashPosition) (row : StoredEntry) :
    Option Nat → Tx (List Nat)
  | none => do
    refuseIf (row.referenceType = "REVERSAL") s!"ledger reversal {row.id} has no original entry"
    return position.reversalIds
  | some originalId => do
    refuseIf (row.referenceType ≠ "REVERSAL") s!"ledger reversal {row.id} has an invalid reference type"
    let original ← orRefuse (lookup StoredEntry.id covered originalId)
      s!"ledger reversal {row.id} cannot prove cash position"
    refuseIf (original.reversalOfId.isSome ∨ original.id ∈ position.reversalIds ∨
        row.createdAt.val < original.createdAt.val ∨ original.account ≠ row.account ∨
        original.direction = row.direction ∨ original.amount ≠ row.amount)
      s!"ledger reversal {row.id} cannot prove cash position"
    return position.reversalIds ++ [original.id]

/-- One entry of the loop; the columns keep every sum within the precision of the amounts. -/
def cashStep (covered : List StoredEntry) (position : CashPosition) (row : StoredEntry) :
    Tx CashPosition := do
  refuseIf (row.amount ≤ 0 ∨ row.direction ∉ ["CREDIT", "DEBIT"] ∨ row.account = "")
    s!"ledger entry {row.id} cannot prove cash position"
  refuseIf (row.referenceType ∈ cashReferenceTypes ∧ row.account ≠ "CAIXINHA")
    s!"cash movement {row.id} is posted outside CAIXINHA"
  let reversalIds ← checkCashReversal covered position row row.reversalOfId
  return { reversalIds
           balance :=
             if row.account = "CAIXINHA" then
               if row.direction = "CREDIT" then position.balance + row.amount
               else position.balance - row.amount
             else position.balance
           trace := position.trace ++ [row.trace] }

/-- `_ledger_cash_at_cutoff` -/
def ledgerCashAtCutoff : Tx (Int × List CashTrace) := do
  let covered := coveredRows rows cutoff
  refuseIf (covered.any (fun row => cutoff < row.createdAt.val))
    "ledger ordering cannot establish an unambiguous cutoff prefix"
  checkChain sha256 none 0 covered
  let position ← (covered.filter (fun row => row.createdAt.val ≤ cutoff)).foldlM (cashStep covered)
    { reversalIds := [], balance := 0, trace := [] }
  return (position.balance, position.trace)

end Cutoff

end Caixinha.Model
