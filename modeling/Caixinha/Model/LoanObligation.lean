import Caixinha.Model.LateCharge

/-! What a loan installment and a whole loan owe on a financial date. -/
namespace Caixinha.Model

open Caixinha.Library Table

/-- Dated on or before `onDate` and not reversed by then. -/
def activeOn (db : Db) (onDate : Int) (s : PaymentSettlement) : Bool :=
  s.financialDate ≤ onDate ∧ ¬ (db.reversalOfSettlement? s.id).any (·.financialDate ≤ onDate)

def activeSettlements (db : Db) (installmentId : Nat) (onDate : Int) : List PaymentSettlement :=
  (installmentSettlements db installmentId).filter (activeOn db onDate)

def PaymentSettlement.principalApplied (s : PaymentSettlement) : Int := s.amounts.principalApplied

/-- The interest of a settlement that pays normal installment interest. -/
def PaymentSettlement.normalInterest (s : PaymentSettlement) : Int :=
  match s.components with
  | some c => c.normalInterestApplied
  | none => s.amounts.interestApplied

def PaymentSettlement.fixedPenalty (s : PaymentSettlement) : Int :=
  (s.components.map (·.fixedPenaltyApplied)).getD 0

def PaymentSettlement.lateInterest (s : PaymentSettlement) : Int :=
  (s.components.map (·.lateInterestApplied)).getD 0

def total (amount : PaymentSettlement → Int) (settlements : List PaymentSettlement) : Int :=
  (settlements.map amount).sum

structure LoanInstallmentObligation where
  principalDue : Int
  normalPriceInterestDue : Int
  fixedPenaltyDue : Int
  lateInterestDue : Int
  totalDue : Int
  deriving DecidableEq, Repr

def nothingDue : LoanInstallmentObligation where
  principalDue := 0
  normalPriceInterestDue := 0
  fixedPenaltyDue := 0
  lateInterestDue := 0
  totalDue := 0

def fixedPenaltyAssessed (db : Db) (installmentId : Nat) (onDate : Int) : Int :=
  (((installmentEvents db installmentId).filter (fun e =>
    e.eventType = .FIXED_PENALTY_ASSESSED ∧ e.effectiveDate ≤ onDate)).map (·.amount)).sum

/-- The four authoritative components due on a financial date. -/
def loanInstallmentObligation (db : Db) (inst : LoanInstallment) (onDate : Int) :
    Tx LoanInstallmentObligation := do
  if onDate < inst.dueDate then return nothingDue
  let settlements := activeSettlements db inst.id onDate
  let lateInterest ← lateInterestMaterialized db inst.id (some onDate)
  let principalDue := max 0 (inst.principal - total (·.principalApplied) settlements)
  let normalDue := max 0 (inst.interest - total (·.normalInterest) settlements)
  let fixedDue := max 0 (fixedPenaltyAssessed db inst.id onDate - total (·.fixedPenalty) settlements)
  let lateDue := max 0 (lateInterest - total (·.lateInterest) settlements)
  return { principalDue, normalPriceInterestDue := normalDue, fixedPenaltyDue := fixedDue
           lateInterestDue := lateDue, totalDue := principalDue + normalDue + fixedDue + lateDue }

structure LoanPayoffQuote where
  financialDate : Int
  principalDue : Int
  normalPriceInterestDue : Int
  fixedPenaltyDue : Int
  lateInterestDue : Int
  totalDue : Int
  deriving DecidableEq, Repr

def loanInstallmentsOf (db : Db) (loanId : Nat) : List LoanInstallment :=
  (db.loanInstallments.filter (fun i => i.loanId = loanId)).insertionSort
    (fun a b => a.number ≤ b.number)

def ownBalanceTypes : List (Option MemberReferenceType) :=
  [some .OWN_BALANCE_SETTLEMENT, some .OWN_BALANCE_RENEGOTIATION]

instance : LawfulBEq (Option MemberReferenceType) := Option.instLawfulBEq _

/-- The debits by which a member's own balance reduced the principal of a loan. -/
def ownBalanceEntries (db : Db) (loanId : Nat) : List MemberFinancialEntry :=
  db.memberEntries.filter (fun e => e.referenceType ∈ ownBalanceTypes ∧
    e.referenceId = some (toString loanId) ∧
    (e.entryType = .OWN_BALANCE_SETTLEMENT ∨ e.entryType = .OWN_BALANCE_RENEGOTIATION) ∧
    e.direction = .DEBIT)

def entryTotal (entries : List MemberFinancialEntry) : Int :=
  (entries.map (·.amount.val)).sum

/-- What one installment adds to the quote besides principal. -/
def installmentCharges (db : Db) (onDate : Int) (inst : LoanInstallment) : Tx (Int × Int × Int) := do
  let settlements := activeSettlements db inst.id onDate
  let normalDue := if inst.dueDate ≤ onDate
    then max 0 (inst.interest - total (·.normalInterest) settlements) else 0
  let fixedDue := max 0 (fixedPenaltyAssessed db inst.id onDate - total (·.fixedPenalty) settlements)
  let lateInterest ← lateInterestMaterialized db inst.id (some onDate)
  return (normalDue, fixedDue, max 0 (lateInterest - total (·.lateInterest) settlements))

/-- A payoff quote without materializing charges. -/
def loanPayoffQuote (db : Db) (loan : Loan) (onDate : Int) : Tx LoanPayoffQuote := do
  let installments := loanInstallmentsOf db loan.id
  refuseIf installments.isEmpty "Empréstimo não possui parcelas."
  let principalPaid :=
    (installments.map (fun i => total (·.principalApplied) (activeSettlements db i.id onDate))).sum
  let entries := ownBalanceEntries db loan.id
  refuseIf (entryTotal entries ≠ loan.principalSettledWithOwnBalance)
    "Projeção de principal liquidado com saldo próprio é inconsistente."
  let ownBalanceThroughDate := entryTotal (entries.filter
    (fun e => financialCivilDate e.createdAt ≤ onDate))
  let principalDue := max 0 (loan.principal - principalPaid - ownBalanceThroughDate)
  let charges ← installments.mapM (installmentCharges db onDate)
  let normalDue := (charges.map (·.1)).sum
  let fixedDue := (charges.map (·.2.1)).sum
  let lateDue := (charges.map (·.2.2)).sum
  return { financialDate := onDate, principalDue, normalPriceInterestDue := normalDue
           fixedPenaltyDue := fixedDue, lateInterestDue := lateDue
           totalDue := principalDue + normalDue + fixedDue + lateDue }

end Caixinha.Model
