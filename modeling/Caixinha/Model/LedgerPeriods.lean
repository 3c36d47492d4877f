import Caixinha.Library.HalfOpen
import Caixinha.Model.LedgerChain

/-! The ledger rows of a financial period: V1 rows by the instant they were posted, V2 rows by
their civil date. -/
namespace Caixinha.Model

open Caixinha.Library HalfOpen

/-- The bounds and the filters of a call. -/
structure LedgerPeriod where
  start : Int
  stop : Int
  financialStart : Int
  financialEndExclusive : Int
  direction : Option String := none
  referenceTypes : Option (List String) := none
  excludeIds : List Nat := []
  deriving DecidableEq, Repr

namespace LedgerPeriod
variable (q : LedgerPeriod)

/-- The row passes the filters the caller chose. -/
def asks (row : StoredEntry) : Bool :=
  q.direction.all (fun d => row.direction = d) &&
    q.referenceTypes.all (fun types => decide (row.referenceType ∈ types)) &&
    decide (row.id ∉ q.excludeIds)

/-- The row stands in the period, on the axis of its hash version. -/
def places (row : StoredEntry) : Tx Bool :=
  match row.hashVersion, row.financialDate with
  | none, none => .ok (decide (Within (some q.start) (some q.stop) row.createdAt.val))
  | none, some _ => .error (.valueError "Ledger V1 has financial_date")
  | some 2, some day =>
    .ok (decide (Within (some q.financialStart) (some q.financialEndExclusive) day.val))
  | some 2, none => .error (.valueError "Ledger V2 has no financial_date")
  | some _, _ => .error (.valueError "unknown Ledger hash version")

def select (selected : List StoredEntry) (row : StoredEntry) : Tx (List StoredEntry) :=
  if q.asks row then do
    if ← q.places row then return selected ++ [row] else return selected
  else .ok selected

end LedgerPeriod

/-- `ledger_entries_for_financial_period` -/
def ledgerEntriesForFinancialPeriod (sha256 : String → String) (rows : List StoredEntry)
    (q : LedgerPeriod) : Tx (List StoredEntry) := do
  refuseIf (q.financialEndExclusive ≤ q.financialStart) "ledger financial bounds must be increasing"
  refuseIf (q.direction.any (fun d => decide (d ∉ ["DEBIT", "CREDIT"]))) "direction invalid"
  refuseIf (rows.any (fun row => row.hashVersion.isSome || row.financialDate.isSome) ∧
    (verifyLedgerChain sha256 rows).status ≠ .PASS) "invalid ledger chain"
  (inIdOrder rows).foldlM q.select []

end Caixinha.Model
