import Caixinha.Model.CycleClosing
import Caixinha.Model.ReversalEvidence

/-! The signed events of all payments: every consistent settlement and every reversal whose
effect is verified, by component. -/
namespace Caixinha.Model

open Caixinha.Library Table

inductive PaymentComponent where
  | CONTRIBUTION | LOAN_PRINCIPAL | LOAN_INTEREST | LOAN_PENALTY | AGREEMENT
  deriving DecidableEq, Repr

def PaymentComponent.text : PaymentComponent → String
  | .CONTRIBUTION => "CONTRIBUTION"
  | .LOAN_PRINCIPAL => "LOAN_PRINCIPAL"
  | .LOAN_INTEREST => "LOAN_INTEREST"
  | .LOAN_PENALTY => "LOAN_PENALTY"
  | .AGREEMENT => "AGREEMENT"

structure PaymentFinancialEvent where
  eventId : String
  paymentId : Nat
  settlementId : Nat
  paymentReversalId : Option Nat
  component : PaymentComponent
  amount : Int
  occurredAt : Int
  source : CycleClosing.EventSource
  deriving DecidableEq, Repr

/-- The reference a payment of the obligation carries. -/
def Obligation.reference : Obligation → PaymentReference
  | .contribution id => .contribution id
  | .loanInstallment id => .loanInstallment id
  | .agreementInstallment id => .agreementInstallment id

/-- `_components` -/
def paymentComponents (s : PaymentSettlement) : List (PaymentComponent × Int) :=
  match s.obligation with
  | .contribution _ => [(.CONTRIBUTION, s.amounts.amountApplied)]
  | .loanInstallment _ => [(.LOAN_PRINCIPAL, s.amounts.principalApplied),
      (.LOAN_INTEREST, s.amounts.interestApplied), (.LOAN_PENALTY, s.amounts.penaltyApplied)]
  | .agreementInstallment _ => [(.AGREEMENT, s.amounts.amountApplied)]

/-- `_supported` -/
def supportedVersion (s : PaymentSettlement) : Bool :=
  match s.obligation with
  | .contribution _ => s.receiptVersion = .v1
  | .loanInstallment _ => s.receiptVersion = .v1 ∨ s.receiptVersion = .v4
  | .agreementInstallment _ => s.receiptVersion = .v1 ∨ s.receiptVersion = .v5

/-- The obligation exists and belongs to the member of the settlement. -/
def obligationIsOfMember (db : Db) (s : PaymentSettlement) : Bool :=
  match s.obligation with
  | .contribution id => (db.contribution? id).any (fun c => c.memberId = s.memberId)
  | .loanInstallment id =>
    ((db.installment? id).bind (fun i => db.loan? i.loanId)).any (fun l => l.memberId = s.memberId)
  | .agreementInstallment id =>
    ((db.agreementInstallment? id).bind (fun i => db.agreement? i.agreementId)).any
      (fun a => a.memberId = s.memberId)

/-- `_original_is_consistent` -/
def originalIsConsistent (db : Db) (s : PaymentSettlement) : Bool :=
  (db.payment? s.paymentId).any (fun p => p.status = "approved" ∧
    p.reference = some s.obligation.reference) && obligationIsOfMember db s

def eventSuffix : Option Nat → String
  | some reversalId => s!":reversal:{reversalId}"
  | none => ":original"

/-- `_event`; a component without amount leaves none. -/
def componentEvent (s : PaymentSettlement) (occurredAt : Int) (source : CycleClosing.EventSource)
    (reversalId : Option Nat) (component : PaymentComponent) (amount : Int) :
    Option PaymentFinancialEvent :=
  if amount = 0 then none
  else some
    { eventId := s!"settlement:{s.id}:{component.text}" ++ eventSuffix reversalId
      paymentId := s.paymentId
      settlementId := s.id
      paymentReversalId := reversalId
      component, amount, occurredAt, source }

def originalEvents (db : Db) (s : PaymentSettlement) : List PaymentFinancialEvent :=
  if supportedVersion s && originalIsConsistent db s then
    (paymentComponents s).filterMap (fun (component, amount) =>
      componentEvent s s.confirmedAt .ORIGINAL none component amount)
  else []

def reversalEvents (env : Env) (db : Db) (r : PaymentReversal) : List PaymentFinancialEvent :=
  match db.settlement? r.settlementId with
  | some s =>
    if reversalVerified env db r then
      (paymentComponents s).filterMap (fun (component, amount) =>
        componentEvent s r.reversedAt .REVERSAL (some r.id) component (-amount))
    else []
  | none => []

def eventLe (a b : PaymentFinancialEvent) : Prop :=
  a.occurredAt < b.occurredAt ∨ (a.occurredAt = b.occurredAt ∧ a.eventId ≤ b.eventId)

instance (a b : PaymentFinancialEvent) : Decidable (eventLe a b) :=
  inferInstanceAs (Decidable (_ ∨ _))

def settlementsById (db : Db) : List PaymentSettlement :=
  db.settlements.insertionSort (fun a b => a.id ≤ b.id)

def reversalsById (db : Db) : List PaymentReversal :=
  db.reversals.insertionSort (fun a b => a.id ≤ b.id)

/-- `payment_financial_events` without a window. -/
def paymentFinancialEvents (env : Env) (db : Db) : List PaymentFinancialEvent :=
  ((settlementsById db).flatMap (originalEvents db) ++
    (reversalsById db).flatMap (reversalEvents env db)).insertionSort eventLe

end Caixinha.Model
