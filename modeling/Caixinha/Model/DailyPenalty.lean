import Caixinha.Model.Settlement

/-! The daily penalty of overdue installments, as the worker accrues it by a configured rate. -/
namespace Caixinha.Model

open Caixinha.Library Table Decimal

/-- `money` of a decimal under the default context. -/
def quantizedMoney (x : Number) : Tx Int :=
  match quantizeCents 28 x with
  | some cents => .ok cents
  | none => .error .invalidOperation

/-- The days from the last accrual, or from the due date, up to `onDate`. -/
def penaltyDays (inst : LoanInstallment) (onDate : Int) : Int :=
  let start := max (inst.lastPenaltyDate.getD inst.dueDate + 1) (inst.dueDate + 1)
  max 0 (onDate - start + 1)

def penaltyBase (inst : LoanInstallment) : Int := max 0 (inst.amount - inst.paidAmount)

/-- `base * daily_rate * Decimal(days)` -/
def penaltyProduct (inst : LoanInstallment) (onDate : Int) (rate : Number) : Number :=
  mul 28 (mul 28 ⟨penaltyBase inst, -2⟩ rate) ⟨penaltyDays inst onDate, 0⟩

/-- `calculate_daily_penalty`: the columns after the accrual, and the increment. -/
def calculateDailyPenalty (inst : LoanInstallment) (onDate : Int) (rate : Number) :
    Tx (LoanInstallment × Int) := do
  refuseIf (rate.coefficient < 0) "daily_rate não pode ser negativo"
  if inst.status = .PAID ∨ onDate ≤ inst.dueDate then return (inst, 0)
  if penaltyDays inst onDate = 0 ∨ rate.coefficient = 0 then return (inst, 0)
  let increment ← quantizedMoney (penaltyProduct inst onDate rate)
  return ({ inst with
    penaltyAmount := inst.penaltyAmount + increment, lastPenaltyDate := some onDate }, increment)

/-- A row of the worker's query is accrued, the others stay. -/
def accrueInstallment (onDate : Int) (rate : Number) (inst : LoanInstallment) :
    Tx (LoanInstallment × Int) :=
  if inst.dueDate < onDate ∧ inst.status ≠ .PAID then calculateDailyPenalty inst onDate rate
  else .ok (inst, 0)

/-- `accrue_overdue_penalties`; a loan with an increment counts one revision. -/
def accrueOverduePenalties (db : Db) (onDate : Int) (rate : Number) : Tx Db := do
  let overdue := db.loanInstallments.filter (fun i => i.dueDate < onDate ∧ i.status ≠ .PAID)
  refuseIf (overdue.any (fun i => (db.loan? i.loanId).isNone)) "Empréstimo não encontrado."
  let rows ← db.loanInstallments.mapM (accrueInstallment onDate rate)
  let touched := (rows.filter (fun row => row.2 ≠ 0)).map (·.1.loanId)
  return { db with
    loanInstallments := rows.map Prod.fst
    loans := db.loans.map (fun loan => if loan.id ∈ touched then touchLoan loan else loan) }

end Caixinha.Model
