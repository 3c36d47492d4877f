import Caixinha.Model.LoanObligation
import Caixinha.Model.MemberFinancial
import Caixinha.Model.Settlement

/-! The two operations that pay the principal of a loan with the member's own balance. -/
namespace Caixinha.Model

open Caixinha.Library Table

def priceCalculationVersion : String := "price_amortization_v1"

def payableStatuses : List LoanStatus := [.ACTIVE, .OVERDUE, .IN_COLLECTION]

/-- What an own-balance operation answers. -/
structure OwnBalanceResult where
  amount : Int
  remainingPrincipal : Int
  idempotent : Bool
  deriving DecidableEq, Repr

/-- The first entry of a kind an own-balance operation left for a loan. -/
def ownBalanceEntry? (db : Db) (entryType : EntryType) (referenceType : MemberReferenceType)
    (loanId : Nat) : Option MemberFinancialEntry :=
  db.memberEntries.find? (fun e => e.entryType = entryType ∧ e.referenceType = some referenceType ∧
    e.referenceId = some (toString loanId))

def ownBalanceDebit (entryType : EntryType) (referenceType : MemberReferenceType) (loanId : Nat)
    (amount : Int) : NewMemberEntry where
  entryType := entryType
  direction := .DEBIT
  amount := amount
  referenceType := some referenceType
  referenceId := some (toString loanId)

/-- The principal that own balance has not paid, whatever else has. -/
def Loan.remainingOfOwnBalance (loan : Loan) : Int :=
  loan.principal - loan.principalSettledWithOwnBalance

def penaltyOpen (installments : List LoanInstallment) : Int :=
  (installments.map (fun i => max 0 (i.penaltyAmount - i.paidPenaltyAmount))).sum

/-- `settle_loan_with_own_balance` -/
def settleLoanWithOwnBalance (db : Db) (clock : Int) (loanId : Nat) (financialAt : Option Timestamp) :
    Tx (Db × OwnBalanceResult) := do
  refuseIf (financialAt.any (fun t => ¬ t.aware)) "financial_at precisa ser timezone-aware."
  let payoffAt := (financialAt.map (·.instant)).getD clock
  let loan ← orRefuse (db.loan? loanId) "Empréstimo não encontrado."
  let (db, account) ← lockMemberFinancialAccount db loan.memberId
  match ownBalanceEntry? db .OWN_BALANCE_SETTLEMENT .OWN_BALANCE_SETTLEMENT loan.id with
  | some existing =>
    return (db, { amount := existing.amount.val, remainingPrincipal := 0, idempotent := true })
  | none =>
    refuseIf (loan.status ∉ payableStatuses)
      s!"Empréstimo não pode ser liquidado no status {loan.status.text}."
    let installments := loanInstallmentsOf db loan.id
    refuseIf installments.isEmpty "Empréstimo não possui parcelas."
    refuseIf (0 < penaltyOpen installments)
      "Existem encargos vencidos. Liquidação com saldo próprio deve tratar esses encargos separadamente."
    let quote ← loanPayoffQuote db loan (financialCivilDate payoffAt)
    refuseIf (loan.calculationVersion = some priceCalculationVersion ∧
      (0 < quote.normalPriceInterestDue ∨ 0 < quote.fixedPenaltyDue ∨ 0 < quote.lateInterestDue))
      "BUSINESS_DECISION_REQUIRED: quitação com saldo próprio não possui regra aprovada para juros Price, multa fixa ou mora."
    let principalOpen := quote.principalDue
    refuseIf (principalOpen ≤ 0) "Não existe principal em aberto para liquidar."
    refuseIf ((getMemberFinancialPosition db loan.memberId).availableBalance < principalOpen)
      "Saldo próprio disponível insuficiente para liquidação."
    let (db, _) ← addMemberFinancialEntry db clock account
      (ownBalanceDebit .OWN_BALANCE_SETTLEMENT .OWN_BALANCE_SETTLEMENT loan.id principalOpen)
    let paidInstallments := db.loanInstallments.map (fun i =>
      if i.loanId = loan.id then { i with status := .PAID, paidAt := some payoffAt } else i)
    let paidLoan := touchLoan { loan with
      principalSettledWithOwnBalance := loan.principalSettledWithOwnBalance + principalOpen
      status := .PAID, paidAt := some payoffAt }
    return ({ db with loanInstallments := paidInstallments }.putLoan paidLoan,
      { amount := principalOpen, remainingPrincipal := paidLoan.remainingOfOwnBalance
        idempotent := false })

/-- `renegotiate_loan_with_own_balance` -/
def renegotiateLoanWithOwnBalance (db : Db) (clock : Int) (loanId : Nat) (amount : Int) :
    Tx (Db × OwnBalanceResult) := do
  let loan ← orRefuse (db.loan? loanId) "Empréstimo não encontrado."
  let (db, account) ← lockMemberFinancialAccount db loan.memberId
  refuseIf (amount ≤ 0) "O valor da renegociação deve ser maior que zero."
  refuseIf (loan.status ∉ payableStatuses)
    s!"Empréstimo não pode ser renegociado no status {loan.status.text}."
  match ownBalanceEntry? db .OWN_BALANCE_RENEGOTIATION .OWN_BALANCE_RENEGOTIATION loan.id with
  | some existing =>
    return (db, { amount := existing.amount.val
                  remainingPrincipal := max 0 loan.remainingOfOwnBalance, idempotent := true })
  | none =>
    let principalRemaining := loan.remainingOfOwnBalance
    refuseIf (principalRemaining ≤ 0) "Não existe principal em aberto para renegociar."
    refuseIf (principalRemaining < amount)
      "O valor da renegociação não pode exceder o principal em aberto."
    refuseIf ((getMemberFinancialPosition db loan.memberId).availableBalance < amount)
      "Saldo próprio disponível insuficiente para renegociação."
    let (db, _) ← addMemberFinancialEntry db clock account
      (ownBalanceDebit .OWN_BALANCE_RENEGOTIATION .OWN_BALANCE_RENEGOTIATION loan.id amount)
    let loanAfter := touchLoan { loan with
      principalSettledWithOwnBalance := loan.principalSettledWithOwnBalance + amount }
    return (db.putLoan loanAfter,
      { amount, remainingPrincipal := loanAfter.remainingOfOwnBalance, idempotent := false })

end Caixinha.Model
