import Caixinha.Model.PaymentEvents
import Caixinha.Model.Settlement

/-! The evidence of an annual closing, read from the persisted rows of a cycle and of its
members' loans and agreements. -/
namespace Caixinha.Model.CycleClosing

open Caixinha.Library Table Decimal

/-- A `Numeric(14,2)` column. -/
def columnValue (cents : Int) : Number := ⟨cents, -2⟩

def ParticipationState.status : ParticipationState → ParticipationStatus
  | .active => .ACTIVE
  | .voluntarilyExited _ => .VOLUNTARILY_EXITED
  | .blockedDelinquency _ => .BLOCKED_DELINQUENCY

def ParticipationState.voluntaryExitAt : ParticipationState → Option Int
  | .voluntarilyExited at' => some at'
  | _ => none

def ParticipationState.blockedAt : ParticipationState → Option Int
  | .blockedDelinquency at' => some at'
  | _ => none

def participationEvidence (row : CycleParticipation) : ParticipationEvidence where
  id := row.id
  memberId := row.memberId
  status := ParticipationState.status row.state
  blockedAt := ParticipationState.blockedAt row.state
  voluntaryExitAt := ParticipationState.voluntaryExitAt row.state

section Scope
variable (db : Db) (cycleId : Nat)

def cycleParticipations : List CycleParticipation :=
  (db.participations.filter (fun p => p.cycleId = cycleId)).insertionSort (fun a b => a.id ≤ b.id)

def cycleContributions : List Contribution :=
  (db.contributions.filter (fun c => c.cycleId = some cycleId)).insertionSort
    (fun a b => a.id ≤ b.id)

def isCycleMember (memberId : Nat) : Bool :=
  (cycleParticipations db cycleId).any (fun p => p.memberId = memberId)

/-- A settlement of a member of the cycle; one of a contribution must be of the cycle. -/
def inScope (s : PaymentSettlement) : Bool :=
  isCycleMember db cycleId s.memberId && match s.obligation with
    | .contribution id => (cycleContributions db cycleId).any (fun c => c.id = id)
    | _ => true

/-- `represented_settlements` -/
def represented (events : List PaymentFinancialEvent) (s : PaymentSettlement) : Bool :=
  events.any (fun e => e.settlementId = s.id)

def checkRepresented (events : List PaymentFinancialEvent) (cutoff : Int) (s : PaymentSettlement) :
    Tx Unit :=
  gapIf (inScope db cycleId s ∧ s.confirmedAt ≤ cutoff ∧ ¬ represented events s)
    "UNSUPPORTED_PAYMENT_EVIDENCE" (toString s.id)

/-- An event with the settlement behind it. -/
abbrev SettledEvent := PaymentFinancialEvent × PaymentSettlement

/-- The events of the settlements in scope. -/
def scopedEvents (events : List PaymentFinancialEvent) : List SettledEvent :=
  events.filterMap (fun e => (db.settlement? e.settlementId).bind (fun s =>
    if inScope db cycleId s then some (e, s) else none))

end Scope

section Gains
variable (db : Db)

/-- The cycle of the loan behind a settlement, where the members agree. -/
def loanCycleId (s : PaymentSettlement) : Option Nat :=
  match s.obligation with
  | .contribution _ => none
  | .loanInstallment id =>
    (((db.installment? id).bind (fun i => db.loan? i.loanId)).filter
      (fun l => l.memberId = s.memberId)).bind (·.cycleId)
  | .agreementInstallment id =>
    ((db.agreementInstallment? id).bind (fun i => db.agreement? i.agreementId)).bind (fun a =>
      ((db.loan? a.loanId).filter (fun l => a.memberId = s.memberId ∧ l.memberId = s.memberId)).bind
        (·.cycleId))

def paymentGain (event : PaymentFinancialEvent) (sourceId kind : String) (cycleId : Option Nat)
    (amount : Int) : GainEvidence where
  sourceId
  sourceType := "PAYMENT_SETTLEMENT"
  kind
  cycleId
  amount := columnValue amount
  occurredAt := { instant := event.occurredAt }

/-- One gain for each component with an amount, signed like the event. -/
def splitGain (event : PaymentFinancialEvent) (cycleId : Option Nat) (parts : List (String × Int)) :
    List GainEvidence :=
  (parts.filter (fun part => part.2 ≠ 0)).map (fun (kind, amount) =>
    paymentGain event s!"{event.eventId}:{kind}" kind cycleId
      (if event.amount < 0 then -amount else amount))

/-- `_gain_from_event` -/
def gainFromEvent (event : PaymentFinancialEvent) (s : PaymentSettlement)
    (contributionCycleId loanCycleId : Option Nat) : Tx (List GainEvidence) :=
  match event.component with
  | .CONTRIBUTION =>
    .ok [paymentGain event event.eventId "CONTRIBUTION" contributionCycleId event.amount]
  | .LOAN_PRINCIPAL | .LOAN_INTEREST =>
    .ok [paymentGain event event.eventId event.component.text loanCycleId event.amount]
  | .LOAN_PENALTY =>
    match s.components with
    | some c => do
      gapIf (c.fixedPenaltyApplied + c.lateInterestApplied ≠ |event.amount|)
        "PENALTY_COMPONENT_MISMATCH" (toString s.id)
      return splitGain event loanCycleId [("LOAN_FIXED_PENALTY", c.fixedPenaltyApplied),
        ("LOAN_LATE_INTEREST", c.lateInterestApplied)]
    | none => .ok [paymentGain event event.eventId "LOAN_PENALTY" loanCycleId event.amount]
  | .AGREEMENT => do
    let a := s.amounts
    gapIf (a.principalApplied + a.penaltyApplied ≠ |event.amount|)
      "AGREEMENT_COMPONENT_MISMATCH" (toString s.id)
    return splitGain event loanCycleId [("AGREEMENT_PENALTY", a.penaltyApplied),
      ("AGREEMENT_PRINCIPAL", a.principalApplied)]

/-- The cycle of the contribution a settlement of the cycle is for. -/
def contributionCycleId (cycleId : Nat) (s : PaymentSettlement) : Option Nat :=
  match s.obligation with
  | .contribution id =>
    ((cycleContributions db cycleId).find? (fun c => c.id = id)).bind (·.cycleId)
  | _ => none

def gainsOf (cycleId : Nat) (settled : SettledEvent) :
    Tx (List GainEvidence) :=
  gainFromEvent settled.1 settled.2 (contributionCycleId db cycleId settled.2)
    (loanCycleId db settled.2)

def gainGap (settled : SettledEvent) : Option (String × String) :=
  if settled.1.component = .AGREEMENT ∧ settled.2.amounts.principalApplied ≠ 0 then
    some ("AGREEMENT_BASE_COMPONENT_NOT_CLASSIFIED", toString settled.2.id)
  else none

def externalKind : RealizedGainEventType → String
  | .INVESTMENT_YIELD_REALIZED => "INVESTMENT_YIELD"
  | .OTHER_REALIZED_GAIN => "OTHER_REALIZED_GAIN"

def externalGain (row : CycleRealizedGainEvent) : GainEvidence where
  sourceId := s!"cycle_realized_gain_event:{row.id}"
  sourceType := "CYCLE_REALIZED_GAIN_EVENT"
  kind := externalKind row.eventType
  cycleId := some row.cycleId
  amount := columnValue (if row.reversalOfId.isSome then -row.amount.val else row.amount.val)
  occurredAt := { instant := row.realizedAt }

def externalGains (cycleId : Nat) : List GainEvidence :=
  ((db.realizedGainEvents.filter (fun e => e.cycleId = cycleId)).insertionSort
    (fun a b => a.id ≤ b.id)).map externalGain

end Gains

section Contributions
variable (db : Db)

/-- A `CashEvidence` while its amount is still the column's. -/
structure DatedCash where
  eventId : String
  amount : Int
  occurredAt : Int
  source : EventSource
  settlementId : Option Nat
  deriving DecidableEq, Repr

def DatedCash.evidence (cash : DatedCash) : CashEvidence where
  eventId := cash.eventId
  amount := columnValue cash.amount
  occurredAt := { instant := cash.occurredAt }
  source := cash.source
  settlementId := cash.settlementId

def settledCash (settled : List SettledEvent) (contributionId : Nat) :
    List DatedCash :=
  (settled.filter (fun x => x.2.obligation = .contribution contributionId ∧
    x.1.component = .CONTRIBUTION)).map (fun x =>
      { eventId := x.1.eventId, amount := x.1.amount, occurredAt := x.1.occurredAt
        source := x.1.source, settlementId := some x.1.settlementId })

/-- The approved payment a contribution points to, when it proves the whole amount. -/
def legacyPayment (c : Contribution) (current : Int) : Option (Payment × Int) :=
  match c.paymentId.bind db.payment? with
  | some p =>
    match p.confirmedAt with
    | some at' =>
      if p.status = "approved" ∧ (p.reference = none ∨ p.reference = some (.contribution c.id)) ∧
          p.amountReceived.getD p.amount = current then some (p, at') else none
    | none => none
  | none => none

def unprovableIf (c : Contribution) (p : Prop) [Decidable p] : Tx Unit :=
  gapIf p "LEGACY_CONTRIBUTION_PAYMENT_CUTOFF_UNPROVABLE" (toString c.id)

/-- The source and moment of a contribution paid in full without a settlement. -/
def legacySource (c : Contribution) (current : Int) : Option (String × Int) :=
  match c.paidAt with
  | some paidAt => some (s!"contribution:{c.id}:legacy_paid_at", paidAt)
  | none => (legacyPayment db c current).map (fun (p, confirmedAt) =>
      (s!"payment:{p.id}:legacy_contribution", confirmedAt))

/-- `_legacy_contribution_cash` -/
def legacyContributionCash (c : Contribution) : Tx (Option DatedCash) := do
  let current := contributionPaidAmount c
  if current = 0 ∧ c.status ≠ .PAID then return none
  let source := legacySource db c current
  unprovableIf c (current ≠ c.amount ∨ source = none ∨
    c.paymentId.any (fun id => db.reversals.any (fun r => r.paymentId = id)))
  return source.map (fun (eventId, occurredAt) =>
    { eventId, amount := current, occurredAt, source := .ORIGINAL, settlementId := none })

def isSettledContribution (contributionId : Nat) : Bool :=
  db.settlements.any (fun s => s.obligation = .contribution contributionId)

/-- What counts as paid for a contribution: its settled events, or its legacy payment. -/
def contributionCash (settled : List SettledEvent) (c : Contribution) :
    Tx (List DatedCash) := do
  if isSettledContribution db c.id then return settledCash settled c.id
  let legacy ← legacyContributionCash db c
  return settledCash settled c.id ++ legacy.toList

def contributionEvidence (cycleId : Nat) (c : Contribution) (cash : List DatedCash) :
    ContributionEvidence where
  id := c.id
  memberId := c.memberId
  cycleId
  amount := columnValue c.amount
  status := c.status
  cancelledAt := c.cancelledAt
  events := cash.map DatedCash.evidence

def paidAsOf (cash : List DatedCash) (cutoff : Int) : Int :=
  ((cash.filter (fun x => x.occurredAt ≤ cutoff)).map (·.amount)).sum

/-- The charges of a contribution on record at the cutoff, by day. -/
def chargesAsOf (contributionId : Nat) (cutoff : Int) : List ContributionChargeEvent :=
  (db.contributionChargeEvents.filter (fun e => e.contributionId = contributionId ∧
    e.accruedThrough ≤ financialCivilDate cutoff ∧ e.createdAt ≤ cutoff)).insertionSort
    (fun a b => a.accruedThrough < b.accruedThrough ∨
      (a.accruedThrough = b.accruedThrough ∧ a.id ≤ b.id))

def blockedAsOf (cycleId memberId : Nat) (cutoff : Int) : Bool :=
  ((cycleParticipations db cycleId).reverse.find? (fun p => p.memberId = memberId)).any
    (fun p => (ParticipationState.blockedAt p.state).any (· ≤ cutoff))

/-- The last charge that counts: the freeze of a blocked member, else the latest accrual. -/
def selectedCharge (cycleId : Nat) (c : Contribution) (cutoff : Int) :
    Option ContributionChargeEvent :=
  (chargesAsOf db c.id cutoff).reverse.find? (fun e => e.eventType =
    if blockedAsOf db cycleId c.memberId cutoff then .BLOCK_FREEZE else .ACCRUAL_SNAPSHOT)

def principalObligation (c : Contribution) (paid cutoff : Int) : Option ObligationEvidence :=
  match c.dueDate with
  | none => none
  | some dueDate =>
    if dueDate ≤ financialCivilDate cutoff ∧ ¬ c.cancelledAt.any (· ≤ cutoff) ∧
        max 0 (c.amount - paid) ≠ 0 then
      some { sourceId := s!"contribution:{c.id}:principal", memberId := c.memberId
             kind := "CONTRIBUTION_PRINCIPAL", amount := columnValue (max 0 (c.amount - paid))
             dueDate, loanId := none, agreementId := none }
    else none

def chargeObligation (c : Contribution) (charge : ContributionChargeEvent) :
    Option ObligationEvidence :=
  if charge.fixedPenalty + charge.dailyInterest = 0 then none
  else some { sourceId := s!"contribution_charge:{charge.id}", memberId := c.memberId
              kind := "CONTRIBUTION_CHARGE"
              amount := columnValue (charge.fixedPenalty + charge.dailyInterest)
              dueDate := charge.accruedThrough, loanId := none, agreementId := none }

def contributionObligations (cycleId : Nat) (cutoff : Int) (c : Contribution)
    (cash : List DatedCash) : Tx (List ObligationEvidence) := do
  let paid := paidAsOf cash cutoff
  gapIf (paid < 0 ∨ c.amount < paid) "CONTRIBUTION_EVIDENCE_MISMATCH" (toString c.id)
  let selected := selectedCharge db cycleId c cutoff
  gapIf (blockedAsOf db cycleId c.memberId cutoff ∧ c.cancelledAt.any (· ≤ cutoff) ∧
    selected = none ∧ paid < c.amount) "BLOCK_FREEZE_MISSING" (toString c.id)
  return (principalObligation c paid cutoff).toList ++
    (selected.bind (chargeObligation c)).toList

end Contributions

section Agreements
variable (db : Db) (cycleId : Nat)

def memberLoans : List Loan := db.loans.filter (fun l => isCycleMember db cycleId l.memberId)

def memberLoan? (loanId : Nat) : Option Loan :=
  (memberLoans db cycleId).find? (fun l => l.id = loanId)

def installmentsOf (loanId : Nat) : List LoanInstallment :=
  (db.loanInstallments.filter (fun i => i.loanId = loanId)).insertionSort (fun a b => a.id ≤ b.id)

/-- The decided agreements of the members that stand at the cutoff. -/
def applicableAgreements (cutoff : Int) : List CollectionAgreement :=
  (db.agreements.filter (fun a => isCycleMember db cycleId a.memberId ∧
    (a.status = .APPROVED ∨ a.status = .SETTLED) ∧ a.decidedAt.any (· ≤ cutoff))).insertionSort
    (fun a b => a.id ≤ b.id)

def replacementsOf (agreementId : Nat) : List AgreementInstallment :=
  (db.agreementInstallments.filter (fun i => i.agreementId = agreementId)).insertionSort
    (fun a b => a.number ≤ b.number)

def columnsOpen (inst : LoanInstallment) : Int :=
  inst.amount - inst.paidAmount + inst.penaltyAmount - inst.paidPenaltyAmount

def oldOpen (old : List LoanInstallment) : Int :=
  ((old.filter (fun i => i.status ≠ .PAID)).map columnsOpen).sum

def replacementTotal (replacements : List AgreementInstallment) : Int :=
  (replacements.map (·.amount)).sum

/-- `structurally_valid`, given the loans that agreements before this one replaced. -/
def structurallyValid (replaced : List Nat) (a : CollectionAgreement) : Bool :=
  let old := installmentsOf db a.loanId
  let replacements := replacementsOf db a.id
  (memberLoan? db cycleId a.loanId).any (fun l => l.memberId = a.memberId ∧ l.status = .RESTRUCTURED)
    && old.any (fun i => i.status = .AGREED)
    && old.all (fun i => i.status = .PAID ∨ i.status = .AGREED)
    && replacements.map (·.number) = (List.range a.installments).map (· + 1)
    && replacements.all (fun i => i.amount = i.principal + i.penaltyAmount)
    && replacements.all (fun i => a.decidedAt.any (fun at' => financialCivilDate at' < i.dueDate))
    && |replacementTotal replacements - a.totalAmount| ≤ 1
    && oldOpen old = replacementTotal replacements
    && a.loanId ∉ replaced

def checkAgreement (replaced : List Nat) (a : CollectionAgreement) : Tx (List Nat) := do
  gapIf (¬ structurallyValid db cycleId replaced a) "AGREEMENT_RESTRUCTURE_INTEGRITY_GAP"
    (toString a.id)
  return replaced ++ [a.loanId]

/-- The loans replaced by agreements. -/
def supersededLoans (cutoff : Int) : Tx (List Nat) :=
  (applicableAgreements db cycleId cutoff).foldlM (checkAgreement db cycleId) []

end Agreements

section OwnBalance
variable (db : Db) (cycleId : Nat)

/-- The own-balance rows that name a loan of a member. -/
def ownBalanceRows : List MemberFinancialEntry :=
  (db.memberEntries.filter (fun e => e.referenceType ∈ ownBalanceTypes ∧
    (memberLoans db cycleId).any (fun l => e.referenceId = some (toString l.id)))).insertionSort
    (fun a b => a.id ≤ b.id)

def reconciliationGap (detail : Nat) (p : Prop) [Decidable p] : Tx Unit :=
  gapIf p "OWN_BALANCE_SETTLEMENT_RECONCILIATION_GAP" (toString detail)

/-- The entry is of the type it references, a debit, and of the account of the loan's member. -/
def checkOwnBalanceRow (e : MemberFinancialEntry) : Tx Unit := do
  reconciliationGap e.id (¬ ((e.entryType = .OWN_BALANCE_SETTLEMENT ∧
      e.referenceType = some .OWN_BALANCE_SETTLEMENT) ∨
    (e.entryType = .OWN_BALANCE_RENEGOTIATION ∧
      e.referenceType = some .OWN_BALANCE_RENEGOTIATION)) ∨ e.direction ≠ .DEBIT)
  reconciliationGap e.id (¬ (memberLoans db cycleId).any (fun l =>
    e.referenceId = some (toString l.id) ∧
      db.accounts.any (fun a => a.id = e.accountId ∧ a.memberId = l.memberId)))

/-- `_net_component` -/
def netComponent (events : List PaymentFinancialEvent) (component : PaymentComponent) (cutoff : Int) :
    Int :=
  ((events.filter (fun e => e.component = component ∧ e.occurredAt ≤ cutoff)).map (·.amount)).sum

def installmentPaymentEvents (settled : List SettledEvent)
    (installmentId : Nat) : List PaymentFinancialEvent :=
  (settled.filter (fun x => x.2.obligation = .loanInstallment installmentId)).map Prod.fst

/-- The payoff of a loan with own balance is complete and dated. -/
def payoffReconciled (settled : List SettledEvent) (cutoff : Int)
    (loan : Loan) (settlementAmount : Int) : Bool :=
  let installments := installmentsOf db loan.id
  loan.paidAt.any (fun paidAt => loan.status = .PAID ∧ paidAt ≤ cutoff ∧
    settlementAmount = loan.principalSettledWithOwnBalance ∧ installments ≠ [] ∧
    installments.all (fun i => i.status = .PAID ∧ i.paidAt = some paidAt) ∧
    settlementAmount + (installments.map (fun i =>
      netComponent (installmentPaymentEvents settled i.id) .LOAN_PRINCIPAL paidAt)).sum =
        loan.principal)

/-- Whether a loan was paid off with own balance by the cutoff. -/
def settledWithOwnBalance (settled : List SettledEvent) (cutoff : Int)
    (loan : Loan) : Tx Bool := do
  let entries := (ownBalanceRows db cycleId).filter (fun e =>
    e.referenceId = some (toString loan.id))
  reconciliationGap loan.id (entryTotal entries ≠ loan.principalSettledWithOwnBalance)
  let through := entries.filter (fun e => e.createdAt ≤ cutoff)
  gapIf (through.any (fun e => e.entryType = .OWN_BALANCE_RENEGOTIATION))
    "OWN_BALANCE_PARTIAL_ALLOCATION" (toString loan.id)
  let settlementAmount := entryTotal (through.filter (fun e => e.entryType = .OWN_BALANCE_SETTLEMENT))
  if settlementAmount ≠ 0 then
    reconciliationGap loan.id (¬ payoffReconciled db settled cutoff loan settlementAmount)
    return true
  else
    reconciliationGap loan.id (loan.principalSettledWithOwnBalance ≠ 0 ∧
      loan.paidAt.any (· ≤ cutoff))
    return false

/-- The loans paid off with own balance. -/
def ownBalanceSettledLoans (settled : List SettledEvent)
    (cutoff : Int) : Tx (List Nat) := do
  (ownBalanceRows db cycleId).forM (checkOwnBalanceRow db cycleId)
  let flags ← (memberLoans db cycleId).mapM (settledWithOwnBalance db cycleId settled cutoff)
  return (((memberLoans db cycleId).zip flags).filter Prod.snd).map (·.1.id)

end OwnBalance

section Obligations
variable (createdAt : Nat → Int) (db : Db)

/-- The sign of a late event; every type of the model counts. -/
def penaltyDelta (e : LoanLateChargeEvent) : Int :=
  match e.eventType with
  | .FIXED_PENALTY_ASSESSED | .LATE_INTEREST_ACCRUED | .LATE_INTEREST_ADJUSTMENT_INCREASE => e.amount
  | .LATE_INTEREST_ADJUSTMENT_DECREASE => -e.amount

/-- `_loan_penalty_as_of`; `createdAt` is the instant at which the database wrote an event. -/
def loanPenaltyAsOf (installmentId : Nat) (cutoff : Int) : Int :=
  (((installmentEvents db installmentId).filter (fun e =>
    e.effectiveDate ≤ financialCivilDate cutoff ∧ createdAt e.id ≤ cutoff)).map penaltyDelta).sum

/-- The penalty a closing counts for an installment; a legacy one must be dated before the
cutoff. -/
def penaltyAssessed (inst : LoanInstallment) (cutoff : Int) : Tx Int :=
  match inst.lateCharge with
  | some _ => .ok (loanPenaltyAsOf createdAt db inst.id cutoff)
  | none => do
    gapIf (inst.penaltyAmount ≠ 0 ∧
      inst.lastPenaltyDate.all (fun day => financialCivilDate cutoff ≤ day))
      "LEGACY_PENALTY_CUTOFF_UNPROVABLE" (toString inst.id)
    return inst.penaltyAmount

def installmentObligation (settled : List SettledEvent) (cutoff : Int)
    (loan : Loan) (inst : LoanInstallment) : Tx (Option ObligationEvidence) := do
  let events := installmentPaymentEvents settled inst.id
  let basePaid := netComponent events .LOAN_PRINCIPAL cutoff +
    netComponent events .LOAN_INTEREST cutoff
  let penaltyPaid := netComponent events .LOAN_PENALTY cutoff
  let assessed ← penaltyAssessed createdAt db inst cutoff
  let openAmount := inst.amount - basePaid + assessed - penaltyPaid
  gapIf (openAmount < 0) "LOAN_OBLIGATION_EVIDENCE_MISMATCH" (toString inst.id)
  return if openAmount = 0 then none
    else some { sourceId := s!"loan_installment:{inst.id}", memberId := loan.memberId
                kind := "LOAN_INSTALLMENT", amount := columnValue openAmount
                dueDate := inst.dueDate, loanId := some inst.loanId, agreementId := none }

/-- The installments of the members' loans, by id, each with its loan. -/
def memberInstallments (cycleId : Nat) : List (LoanInstallment × Loan) :=
  (db.loanInstallments.insertionSort (fun a b => a.id ≤ b.id)).filterMap (fun i =>
    (memberLoan? db cycleId i.loanId).map (fun l => (i, l)))

def loanObligations (cycleId : Nat) (settled : List SettledEvent)
    (cutoff : Int) (closedLoans : List Nat) : Tx (List ObligationEvidence) := do
  let due := (memberInstallments db cycleId).filter (fun x =>
    x.1.loanId ∉ closedLoans ∧ x.1.dueDate ≤ financialCivilDate cutoff)
  let obligations ← due.mapM (fun x => installmentObligation createdAt db settled cutoff x.2 x.1)
  return obligations.flatMap Option.toList

def agreementObligation (settled : List SettledEvent) (cutoff : Int)
    (agreement : CollectionAgreement) (inst : AgreementInstallment) :
    Tx (Option ObligationEvidence) := do
  let events := (settled.filter (fun x => x.2.obligation = .agreementInstallment inst.id)).map Prod.fst
  let openAmount := inst.principal + inst.penaltyAmount - netComponent events .AGREEMENT cutoff
  gapIf (openAmount < 0) "AGREEMENT_OBLIGATION_EVIDENCE_MISMATCH" (toString inst.id)
  return if openAmount = 0 then none
    else some { sourceId := s!"agreement_installment:{inst.id}", memberId := agreement.memberId
                kind := "AGREEMENT_INSTALLMENT", amount := columnValue openAmount
                dueDate := inst.dueDate, loanId := some agreement.loanId
                agreementId := some agreement.id }

def agreementObligations (cycleId : Nat)
    (settled : List SettledEvent) (cutoff : Int) :
    Tx (List ObligationEvidence) := do
  let due := (applicableAgreements db cycleId cutoff).flatMap (fun a =>
    ((replacementsOf db a.id).filter (fun i => i.dueDate ≤ financialCivilDate cutoff)).map
      (fun i => (a, i)))
  let obligations ← due.mapM (fun x => agreementObligation settled cutoff x.1 x.2)
  return obligations.flatMap Option.toList

end Obligations

section Build
variable (env : Env) (createdAt : Nat → Int) (db : Db)

/-- `build_closing_evidence` -/
def buildClosingEvidence (cycleId : Nat) (closingCutoffAt : Timestamp) : Tx ClosingEvidence := do
  let cutoff ← utc closingCutoffAt
  let cycle ← orRefuse (db.cycle? cycleId) "cycle not found"
  let events := paymentFinancialEvents env db
  db.settlements.forM (checkRepresented db cycleId events cutoff)
  let settled := scopedEvents db cycleId events
  let paymentGains ← settled.mapM (gainsOf db cycleId)
  let contributions := cycleContributions db cycleId
  let cash ← contributions.mapM (contributionCash db settled)
  let contributionRows := contributions.zip cash
  let contributionDebts ← contributionRows.mapM (fun x =>
    contributionObligations db cycleId cutoff x.1 x.2)
  let superseded ← supersededLoans db cycleId cutoff
  let ownBalance ← ownBalanceSettledLoans db cycleId settled cutoff
  let loanDebts ← loanObligations createdAt db cycleId settled cutoff (superseded ++ ownBalance)
  let agreementDebts ← agreementObligations db cycleId settled cutoff
  return { cycleId := cycle.id
           cycleStartDate := cycle.startDate
           closingCutoffAt := { instant := cutoff }
           participations := (cycleParticipations db cycleId).map participationEvidence
           contributions := contributionRows.map (fun x => contributionEvidence cycleId x.1 x.2)
           gains := paymentGains.flatten ++ externalGains db cycleId
           obligations := contributionDebts.flatten ++ loanDebts ++ agreementDebts
           supersededLoanIds := superseded.insertionSort (· ≤ ·)
           ownBalanceSettledLoanIds := ownBalance.insertionSort (· ≤ ·)
           sourceGaps := settled.filterMap gainGap }

/-- `preview_cycle_closing` -/
def previewCycleClosing (cycleId : Nat) (closingCutoffAt : Timestamp) : Tx ClosingResult := do
  let evidence ← buildClosingEvidence env createdAt db cycleId closingCutoffAt
  calculateCycleClosing env.sha256 evidence

end Build

end Caixinha.Model.CycleClosing
