import Caixinha.Library.Calendar
import Caixinha.Library.Decimal
import Caixinha.Library.Json
import Caixinha.Library.LargestRemainder
import Caixinha.Model.Ledger

/-! The annual closing engine: from typed evidence to the closing memory, its canonical
document and its hash. -/
namespace Caixinha.Model.CycleClosing

open Caixinha.Library Decimal

def calculationVersion : String := "cycle_closing_v1"
def administrationFeeRate : Number := ⟨15, -2⟩
def financialTimezone : String := "America/Belem"

def unavailableResultKinds : List String := ["INVESTMENT_YIELD", "OTHER_REALIZED_GAIN"]
def receiptResultKinds : List String :=
  ["LOAN_INTEREST", "LOAN_FIXED_PENALTY", "LOAN_LATE_INTEREST", "LOAN_PENALTY", "AGREEMENT_PENALTY"]
def resultKinds : List String := receiptResultKinds ++ unavailableResultKinds
def nonResultKinds : List String := ["CONTRIBUTION", "LOAN_PRINCIPAL", "AGREEMENT_PRINCIPAL"]
def obligationKinds : List String :=
  ["CONTRIBUTION_PRINCIPAL", "CONTRIBUTION_CHARGE", "LOAN_INSTALLMENT", "AGREEMENT_INSTALLMENT"]

inductive EventSource where
  | ORIGINAL | REVERSAL
  | unknown (name : String)
  deriving DecidableEq, Repr

inductive ParticipationStatus where
  | ACTIVE | BLOCKED_DELINQUENCY | VOLUNTARILY_EXITED
  | unknown (name : String)
  deriving DecidableEq, Repr

def ParticipationStatus.text : ParticipationStatus → String
  | .ACTIVE => "ACTIVE"
  | .BLOCKED_DELINQUENCY => "BLOCKED_DELINQUENCY"
  | .VOLUNTARILY_EXITED => "VOLUNTARILY_EXITED"
  | .unknown name => name

structure CashEvidence where
  eventId : String
  amount : Number
  occurredAt : Timestamp
  source : EventSource
  settlementId : Option Nat
  deriving DecidableEq, Repr

/-- Stored moments count as UTC whether or not they carry a zone. -/
structure ParticipationEvidence where
  id : Nat
  memberId : Nat
  status : ParticipationStatus
  blockedAt : Option Int
  voluntaryExitAt : Option Int
  deriving DecidableEq, Repr

structure ContributionEvidence where
  id : Nat
  memberId : Nat
  cycleId : Nat
  amount : Number
  status : ObligationStatus
  cancelledAt : Option Int
  events : List CashEvidence
  deriving DecidableEq, Repr

structure GainEvidence where
  sourceId : String
  sourceType : String
  kind : String
  cycleId : Option Nat
  amount : Number
  occurredAt : Timestamp
  deriving DecidableEq, Repr

structure ObligationEvidence where
  sourceId : String
  memberId : Nat
  kind : String
  amount : Number
  dueDate : Int
  loanId : Option Nat
  agreementId : Option Nat
  deriving DecidableEq, Repr

structure ClosingEvidence where
  cycleId : Nat
  cycleStartDate : Int
  closingCutoffAt : Timestamp
  participations : List ParticipationEvidence
  contributions : List ContributionEvidence := []
  gains : List GainEvidence := []
  obligations : List ObligationEvidence := []
  supersededLoanIds : List Nat := []
  ownBalanceSettledLoanIds : List Nat := []
  sourceGaps : List (String × String) := []
  deriving DecidableEq, Repr

def gap {α : Type} (code detail : String) : Tx α := .error (.closingContractGap code detail)

def gapIf (p : Prop) [Decidable p] (code detail : String) : Tx Unit :=
  if p then gap code detail else .ok ()

@[simp] theorem gapIf_eq_ok {p : Prop} [Decidable p] {code detail : String} {u : Unit} :
    gapIf p code detail = .ok u ↔ ¬ p := by
  unfold gapIf gap
  split <;> simp [*]

def orInvalid {α : Type} (x : Option α) : Tx α :=
  match x with
  | some a => .ok a
  | none => .error .invalidOperation

/-- `_money` under the default context of 28 digits. -/
def money (x : Number) : Tx Int := orInvalid (quantizeCents 28 x)

/-- `_money` of an amount already in cents, under a context of `prec` digits. -/
def requantize (prec : Nat) (cents : Int) : Tx Int := orInvalid (checkCents prec cents)

@[simp] theorem requantize_eq_ok {prec : Nat} {cents r : Int} :
    requantize prec cents = .ok r ↔ cents.natAbs < 10 ^ prec ∧ cents = r := by
  rw [← checkCents_eq_some]
  unfold requantize orInvalid
  split <;> simp [*]

def utc (t : Timestamp) : Tx Int :=
  if t.aware then .ok t.instant
  else .error (.valueError "closing cutoff and evidence timestamps must be timezone-aware")

/-- The status of a participation at the cutoff and the moment up to which its payments count. -/
def effectiveStatus (row : ParticipationEvidence) (cutoff : Int) : Tx (ParticipationStatus × Int) :=
  match row.status with
  | .ACTIVE => .ok (.ACTIVE, cutoff)
  | .BLOCKED_DELINQUENCY =>
    match row.blockedAt with
    | none => gap "PARTICIPATION_STATE" s!"participation {row.id} has no blocked_at"
    | some at' => .ok (if at' ≤ cutoff then (.BLOCKED_DELINQUENCY, at') else (.ACTIVE, cutoff))
  | .VOLUNTARILY_EXITED =>
    match row.voluntaryExitAt with
    | none => gap "PARTICIPATION_STATE" s!"participation {row.id} has no voluntary_exit_at"
    | some at' => .ok (if at' ≤ cutoff then (.VOLUNTARILY_EXITED, at') else (.ACTIVE, cutoff))
  | .unknown name => gap "PARTICIPATION_STATE" s!"unknown status {name}"

/-- A participation with its effective status and payment limit. -/
structure ParticipantRow where
  id : Nat
  memberId : Nat
  status : ParticipationStatus
  limit : Int
  deriving DecidableEq, Repr

def sortedParticipations (rows : List ParticipationEvidence) : List ParticipationEvidence :=
  rows.insertionSort (fun a b => a.id < b.id ∨ (a.id = b.id ∧ a.memberId ≤ b.memberId))

def participantRow (cutoff : Int) (row : ParticipationEvidence) : Tx ParticipantRow := do
  let (status, limit) ← effectiveStatus row cutoff
  return { id := row.id, memberId := row.memberId, status, limit }

def participantRows (evidence : ClosingEvidence) (cutoff : Int) : Tx (List ParticipantRow) := do
  let rows := sortedParticipations evidence.participations
  gapIf (¬ (rows.map (·.memberId)).Nodup) "DUPLICATE_PARTICIPATION" "member occurs twice in the cycle"
  rows.mapM (participantRow cutoff)

/-- The signed payments of a contribution counted so far. -/
structure EventTally where
  signed : Int := 0
  usedIds : List String := []
  includedSettlementIds : List Nat := []
  excludedSettlementIds : List Nat := []
  deriving DecidableEq, Repr

def tallyEvent (cutoff limit : Int) (tally : EventTally) (event : CashEvidence) : Tx EventTally := do
  let moment ← utc event.occurredAt
  let amount ← money event.amount
  if cutoff < moment then return tally
  match event.source with
  | .ORIGINAL =>
    gapIf (amount ≤ 0) "INVALID_CONTRIBUTION_EVENT" event.eventId
    if moment ≤ limit then
      return { tally with
        signed := roundToDigits 28 (tally.signed + amount)
        usedIds := tally.usedIds ++ [event.eventId]
        includedSettlementIds := event.settlementId.toList ++ tally.includedSettlementIds }
    else
      return { tally with
        excludedSettlementIds := event.settlementId.toList ++ tally.excludedSettlementIds }
  | .REVERSAL =>
    gapIf (0 ≤ amount) "INVALID_CONTRIBUTION_EVENT" event.eventId
    if event.settlementId.any (· ∈ tally.excludedSettlementIds) then return tally
    gapIf (¬ event.settlementId.any (· ∈ tally.includedSettlementIds))
      "CONTRIBUTION_REVERSAL_SOURCE_AMBIGUOUS" event.eventId
    return { tally with
      signed := roundToDigits 28 (tally.signed + amount)
      usedIds := tally.usedIds ++ [event.eventId] }
  | .unknown _ => gap "INVALID_CONTRIBUTION_EVENT" event.eventId

def sortedEvents (events : List CashEvidence) : List CashEvidence :=
  events.insertionSort (fun a b => a.occurredAt.instant < b.occurredAt.instant ∨
    (a.occurredAt.instant = b.occurredAt.instant ∧ a.eventId ≤ b.eventId))

structure ContributionTrace where
  contributionId : Nat
  memberId : Nat
  amount : Int
  confirmedNetAtCutoff : Int
  eligible : Bool
  refundablePrincipal : Int
  eventIds : List String
  deriving DecidableEq, Repr

/-- What a contribution adds to the base of its member's share. -/
def ContributionTrace.rateioPrincipal (trace : ContributionTrace) : Int :=
  if trace.eligible then trace.amount else 0

def laterReversal (cutoff : Int) (tally : EventTally) (events : List CashEvidence) : Bool :=
  events.any (fun event => event.source = .REVERSAL ∧
    event.settlementId.any (· ∈ tally.includedSettlementIds) ∧ cutoff < event.occurredAt.instant)

def traceContribution (cutoff : Int) (rows : List ParticipantRow)
    (contribution : ContributionEvidence) : Tx ContributionTrace := do
  match rows.find? (fun row => row.memberId = contribution.memberId) with
  | none => gap "CONTRIBUTION_WITHOUT_PARTICIPATION" (toString contribution.id)
  | some row =>
    let limit := match contribution.cancelledAt with
      | none => row.limit
      | some at' => min row.limit at'
    -- sorting by moment reads every timestamp first
    let _ ← contribution.events.mapM (fun event => utc event.occurredAt)
    let tally ← (sortedEvents contribution.events).foldlM (tallyEvent cutoff limit) {}
    let amountDue ← money contribution.amount
    gapIf (tally.signed < 0 ∨ amountDue < tally.signed)
      "CONTRIBUTION_EVIDENCE_MISMATCH" (toString contribution.id)
    let fullyPaid : Bool := tally.signed = amountDue ∧ 0 < amountDue
    let blocked : Bool := row.status = .BLOCKED_DELINQUENCY
    gapIf (fullyPaid ∧ ¬ blocked ∧ contribution.status ≠ .PAID ∧
        ¬ laterReversal cutoff tally contribution.events)
      "CONTRIBUTION_STATUS_EVIDENCE_MISMATCH" (toString contribution.id)
    let refundable := if blocked then tally.signed else if fullyPaid then amountDue else 0
    let confirmedNet ← requantize 28 tally.signed
    let refundablePrincipal ← requantize 28 refundable
    return { contributionId := contribution.id, memberId := row.memberId, amount := amountDue
             confirmedNetAtCutoff := confirmedNet, eligible := fullyPaid && !blocked
             refundablePrincipal, eventIds := tally.usedIds }

def traceContributions (evidence : ClosingEvidence) (cutoff : Int) (rows : List ParticipantRow) :
    Tx (List ContributionTrace) :=
  ((evidence.contributions.insertionSort (fun a b => a.id ≤ b.id)).filter
    (fun c => c.cycleId = evidence.cycleId)).mapM (traceContribution cutoff rows)

/-- The sum kept for one member over the contribution pass, rounded as it grows. -/
def memberTotal (amount : ContributionTrace → Int) (traces : List ContributionTrace)
    (memberId : Nat) : Int :=
  sumToDigits 28 0 ((traces.filter (fun t => t.memberId = memberId)).map amount)

structure GainTrace where
  sourceId : String
  sourceType : String
  kind : String
  amount : Int
  occurredAt : Int
  deriving DecidableEq, Repr

structure GainTally where
  seen : List (String × String × String) := []
  gross : Int := 0
  included : List GainTrace := []
  excluded : List (GainTrace × String) := []
  gaps : List (String × String)
  deriving DecidableEq, Repr

/-- Why a gain stays out of the result, and whether that is reported as a source gap. -/
def exclusionReason (cycleId : Nat) (startAt cutoff moment : Int) (gain : GainEvidence) :
    Option (String × Bool) :=
  if cutoff < moment ∨ moment < startAt then some ("OUTSIDE_CYCLE_CUTOFF", false)
  else if gain.kind ∈ nonResultKinds then some ("PRINCIPAL_IS_NOT_RESULT", false)
  else if gain.kind ∉ resultKinds ∨ gain.sourceType = "" ∨ gain.sourceId = "" then
    some ("UNTYPED_GAIN", true)
  else if gain.kind ∈ receiptResultKinds ∧ gain.sourceType ≠ "PAYMENT_SETTLEMENT" then
    some ("UNAVAILABLE_RESULT_SOURCE", true)
  else if gain.kind ∈ unavailableResultKinds ∧ gain.sourceType ≠ "CYCLE_REALIZED_GAIN_EVENT" then
    some ("UNAVAILABLE_RESULT_SOURCE", true)
  else match gain.cycleId with
    | none => some ("CYCLE_ATTRIBUTION_MISSING", true)
    | some id => if id = cycleId then none else some ("OTHER_CYCLE", false)

def tallyGain (cycleId : Nat) (startAt cutoff : Int) (tally : GainTally) (gain : GainEvidence) :
    Tx GainTally := do
  let key := (gain.sourceType, gain.sourceId, gain.kind)
  gapIf (key ∈ tally.seen) "DUPLICATE_GAIN_SOURCE" gain.sourceId
  let amount ← money gain.amount
  let moment ← utc gain.occurredAt
  let trace : GainTrace :=
    { sourceId := gain.sourceId, sourceType := gain.sourceType, kind := gain.kind
      amount, occurredAt := moment }
  match exclusionReason cycleId startAt cutoff moment gain with
  | none =>
    return { tally with
      seen := key :: tally.seen
      gross := roundToDigits 28 (tally.gross + amount)
      included := tally.included ++ [trace] }
  | some (reason, reported) =>
    return { tally with
      seen := key :: tally.seen
      excluded := tally.excluded ++ [(trace, reason)]
      gaps := if reported then tally.gaps ++ [(reason, gain.sourceId)] else tally.gaps }

def textTripleLe (a b : String × String × String) : Prop :=
  a.1 < b.1 ∨ (a.1 = b.1 ∧ (a.2.1 < b.2.1 ∨ (a.2.1 = b.2.1 ∧ a.2.2 ≤ b.2.2)))

instance (a b : String × String × String) : Decidable (textTripleLe a b) :=
  inferInstanceAs (Decidable (_ ∨ _))

def sortedGains (gains : List GainEvidence) : List GainEvidence :=
  gains.insertionSort (fun a b =>
    textTripleLe (a.sourceType, a.sourceId, a.kind) (b.sourceType, b.sourceId, b.kind))

def unblockedRows (rows : List ParticipantRow) : List ParticipantRow :=
  rows.filter (fun row => row.status ≠ .BLOCKED_DELINQUENCY)

def rateioBases (rows : List ParticipantRow) (traces : List ContributionTrace) : List (Nat × Int) :=
  (unblockedRows rows).map (fun row =>
    (row.memberId, memberTotal (·.rateioPrincipal) traces row.memberId))

/-- `_money(gross * ADMINISTRATION_FEE_RATE)`; the product rounds to 28 digits first. -/
def administrationFee (gross : Int) : Tx Int :=
  money ⟨roundToDigits 28 (gross * administrationFeeRate.coefficient),
    administrationFeeRate.exponent - 2⟩

/-- Exact quotas under 60 digits, by member. -/
def quota (totalCents totalBaseCents base : Nat) : Number :=
  divide 60 (roundNat 60 (totalCents * roundNat 60 base)) totalBaseCents

/-- The members in the order in which they receive a residual cent. -/
def residualOrder (totalCents totalBaseCents : Nat) (bases : List (Nat × Nat))
    (tieKey : Nat → Nat) : List Nat :=
  (bases.insertionSort (fun a b =>
    let fraction := fun (base : Nat) =>
      (quota totalCents totalBaseCents base).subNat (quota totalCents totalBaseCents base).floor
    let x := fraction a.2
    let y := fraction b.2
    ¬ x.le y ∨ (x.le y ∧ y.le x ∧
      (tieKey a.1 < tieKey b.1 ∨ (tieKey a.1 = tieKey b.1 ∧ a.1 ≤ b.1))))).map Prod.fst

/-- Split nonnegative cents by the members' bases; dividing an amount by one cent rounds to
the 28 digits of the default context. -/
def allocationCents (distributable : Nat) (bases : List (Nat × Nat)) (tieKey : Nat → Nat) :
    Tx (List (Nat × Nat)) :=
  let totalCents := roundNat 28 distributable
  let totalBaseCents := (bases.map (fun b => roundNat 28 b.2)).sum
  if totalCents ≠ 0 ∧ totalBaseCents = 0 then
    gap "NO_ELIGIBLE_BASE" "positive result has no eligible contributions"
  else if totalBaseCents = 0 then .ok (bases.map (fun b => (b.1, 0)))
  else
    let floors := bases.map (fun b => (b.1, (quota totalCents totalBaseCents b.2).floor))
    let residual : Int := totalCents - (floors.map Prod.snd).sum
    .ok (LargestRemainder.bump
      ((residualOrder totalCents totalBaseCents bases tieKey).take residual.toNat) floors)

structure ObligationRow where
  sourceId : String
  memberId : Nat
  kind : String
  amount : Int
  dueDate : Int
  loanId : Option Nat
  agreementId : Option Nat
  deriving DecidableEq, Repr

structure ObligationTally where
  seen : List String := []
  agreementsByLoan : List (Nat × Nat) := []
  rows : List ObligationRow := []
  deriving DecidableEq, Repr

/-- `agreements_by_loan.setdefault`, refusing a second agreement of one loan. -/
def noteAgreement (tally : ObligationTally) (obligation : ObligationEvidence) :
    Tx ObligationTally :=
  if obligation.kind = "AGREEMENT_INSTALLMENT" then
    match obligation.loanId, obligation.agreementId with
    | some loanId, some agreementId =>
      match tally.agreementsByLoan.find? (fun p => p.1 = loanId) with
      | none => .ok { tally with agreementsByLoan := (loanId, agreementId) :: tally.agreementsByLoan }
      | some previous =>
        if previous.2 = agreementId then .ok tally
        else gap "MULTIPLE_APPLICABLE_AGREEMENTS" (toString loanId)
    | _, _ => gap "AGREEMENT_SOURCE_INCOMPLETE" obligation.sourceId
  else .ok tally

def tallyObligation (evidence : ClosingEvidence) (rows : List ParticipantRow) (cutoffDate : Int)
    (tally : ObligationTally) (obligation : ObligationEvidence) : Tx ObligationTally := do
  match rows.find? (fun row => row.memberId = obligation.memberId) with
  | none => return tally
  | some row =>
    if cutoffDate < obligation.dueDate then return tally
    gapIf (obligation.sourceId ∈ tally.seen) "DUPLICATE_OBLIGATION" obligation.sourceId
    let tally ← noteAgreement { tally with seen := obligation.sourceId :: tally.seen } obligation
    if obligation.kind = "LOAN_INSTALLMENT" ∧
        obligation.loanId.any (· ∈ evidence.supersededLoanIds) then return tally
    if obligation.kind = "CONTRIBUTION_PRINCIPAL" ∧ row.status = .BLOCKED_DELINQUENCY then
      return tally
    gapIf (obligation.kind ∉ obligationKinds) "UNKNOWN_OBLIGATION_KIND" obligation.sourceId
    let amount ← money obligation.amount
    gapIf (amount < 0) "NEGATIVE_OBLIGATION" obligation.sourceId
    if amount = 0 then return tally
    return { tally with
      rows := tally.rows ++ [{ sourceId := obligation.sourceId, memberId := row.memberId
                               kind := obligation.kind, amount, dueDate := obligation.dueDate
                               loanId := obligation.loanId, agreementId := obligation.agreementId }] }

structure ParticipantResult where
  memberId : Nat
  cycleParticipationId : Nat
  participationStatus : ParticipationStatus
  rateioEligibleContributionPrincipal : Int
  refundableContributionPrincipal : Int
  weight : Number
  grossShare : Int
  grossEntitlement : Int
  compensableObligations : List ObligationRow
  compensableObligationsTotal : Int
  projectedCompensation : Int
  projectedNet : Int
  projectedResidualDebt : Int
  deriving DecidableEq, Repr

/-- One participant of the memory, under a context of 60 digits. -/
def participantResult (traces : List ContributionTrace) (totalBase : Int)
    (shares : List (Nat × Nat)) (obligations : List ObligationRow) (row : ParticipantRow) :
    Tx ParticipantResult := do
  let rateio ← requantize 60 (memberTotal (·.rateioPrincipal) traces row.memberId)
  let refundable ← requantize 60 (memberTotal (·.refundablePrincipal) traces row.memberId)
  let weight := if totalBase ≠ 0 ∧ row.status ≠ .BLOCKED_DELINQUENCY then
    divide 60 rateio.toNat totalBase.toNat else ⟨0, 0⟩
  -- `shares.get(row.member_id, ZERO)`
  let share : Int := LargestRemainder.shareOf shares row.memberId
  let entitlement ← requantize 60 (roundToDigits 60 (refundable + share))
  let obligationRows := obligations.filter (fun o => o.memberId = row.memberId)
  let owed ← requantize 60 (sumToDigits 60 0 (obligationRows.map (·.amount)))
  let compensation := min entitlement owed
  let net ← requantize 60 (roundToDigits 60 (entitlement - compensation))
  let residual ← requantize 60 (max 0 (roundToDigits 60 (owed - entitlement)))
  return { memberId := row.memberId, cycleParticipationId := row.id
           participationStatus := row.status
           rateioEligibleContributionPrincipal := rateio
           refundableContributionPrincipal := refundable
           weight, grossShare := share, grossEntitlement := entitlement
           compensableObligations := obligationRows, compensableObligationsTotal := owed
           projectedCompensation := compensation, projectedNet := net
           projectedResidualDebt := residual }

/-- What the passes over the evidence compute before the final assertion. -/
structure ClosingFigures where
  cutoff : Int
  traces : List ContributionTrace
  gains : GainTally
  gross : Int
  fee : Int
  distributable : Int
  totalBase : Int
  participants : List ParticipantResult
  deriving DecidableEq, Repr

def closingFigures (evidence : ClosingEvidence) : Tx ClosingFigures := do
  let cutoff ← utc evidence.closingCutoffAt
  let startAt := evidence.cycleStartDate * dayLength + belemOffset
  gapIf (cutoff < startAt) "CUTOFF_BEFORE_CYCLE" "closing cutoff precedes cycle start"
  let rows ← participantRows evidence cutoff
  let traces ← traceContributions evidence cutoff rows
  let gains ← (sortedGains evidence.gains).foldlM (tallyGain evidence.cycleId startAt cutoff)
    { gaps := evidence.sourceGaps }
  let gross ← requantize 28 gains.gross
  gapIf (gross < 0) "NEGATIVE_REALIZED_RESULT" "fee and payout rule for negative result is undefined"
  let fee ← administrationFee gross
  let distributable ← requantize 28 (roundToDigits 28 (gross - fee))
  let bases := rateioBases rows traces
  let totalBase ← requantize 28 (sumToDigits 28 0 (bases.map Prod.snd))
  let tieKey := fun memberId =>
    (((unblockedRows rows).find? (fun row => row.memberId = memberId)).map (·.id)).getD 0
  let shares ← allocationCents distributable.toNat (bases.map (fun b => (b.1, b.2.toNat))) tieKey
  let obligations ← (evidence.obligations.insertionSort (fun a b => a.sourceId ≤ b.sourceId)).foldlM
    (tallyObligation evidence rows (financialCivilDate cutoff)) {}
  let participants ← rows.mapM (participantResult traces totalBase shares obligations.rows)
  return { cutoff, traces, gains, gross, fee, distributable, totalBase, participants }

/-- The memory before its hash is attached. -/
structure ClosingMemory where
  cycleId : Nat
  cycleStartDate : Int
  closingCutoffAt : Int
  grossRealizedResult : Int
  administrationFee : Int
  distributableResult : Int
  totalEligibleContributions : Int
  participants : List ParticipantResult
  contributions : List ContributionTrace
  includedGains : List GainTrace
  excludedGains : List (GainTrace × String)
  ownBalanceSettledLoanIds : List Nat
  sourceGaps : List (String × String)
  deriving DecidableEq, Repr

def closingMemory (evidence : ClosingEvidence) : Tx ClosingMemory := do
  let figures ← closingFigures evidence
  if sumToDigits 28 0 (figures.participants.map (·.grossShare)) ≠ figures.distributable then
    .error (.assertionError "largest remainder allocation lost cents")
  else
    .ok { cycleId := evidence.cycleId
          cycleStartDate := evidence.cycleStartDate
          closingCutoffAt := figures.cutoff
          grossRealizedResult := figures.gross
          administrationFee := figures.fee
          distributableResult := figures.distributable
          totalEligibleContributions := figures.totalBase
          participants := figures.participants
          contributions := figures.traces
          includedGains := figures.gains.included
          excludedGains := figures.gains.excluded
          ownBalanceSettledLoanIds := evidence.ownBalanceSettledLoanIds.insertionSort (· ≤ ·)
          sourceGaps := figures.gains.gaps.insertionSort
            (fun a b => a.1 < b.1 ∨ (a.1 = b.1 ∧ a.2 ≤ b.2)) }

section Document
open Json

def ObligationRow.json (row : ObligationRow) : Value :=
  .obj [("source_id", .str row.sourceId), ("kind", .str row.kind), ("amount", moneyJson row.amount),
    ("due_date", .str (Calendar.isoDate row.dueDate)), ("loan_id", nullable idJson row.loanId),
    ("agreement_id", nullable idJson row.agreementId)]

def ParticipantResult.json (p : ParticipantResult) : Value :=
  .obj [("member_id", idJson p.memberId),
    ("cycle_participation_id", idJson p.cycleParticipationId),
    ("participation_status", .str p.participationStatus.text),
    ("eligible_contributions", moneyJson p.rateioEligibleContributionPrincipal),
    ("rateio_eligible_contribution_principal", moneyJson p.rateioEligibleContributionPrincipal),
    ("refundable_contribution_principal", moneyJson p.refundableContributionPrincipal),
    ("weight", .str (fixedText p.weight)),
    ("gross_share", moneyJson p.grossShare),
    ("gross_entitlement", moneyJson p.grossEntitlement),
    ("compensable_obligations", .arr (p.compensableObligations.map ObligationRow.json)),
    ("compensable_obligations_total", moneyJson p.compensableObligationsTotal),
    ("projected_compensation", moneyJson p.projectedCompensation),
    ("projected_net", moneyJson p.projectedNet),
    ("projected_residual_debt", moneyJson p.projectedResidualDebt)]

def ContributionTrace.json (t : ContributionTrace) : Value :=
  .obj [("contribution_id", idJson t.contributionId), ("member_id", idJson t.memberId),
    ("amount", moneyJson t.amount), ("confirmed_net_at_cutoff", moneyJson t.confirmedNetAtCutoff),
    ("eligible", .bool t.eligible), ("refundable_principal", moneyJson t.refundablePrincipal),
    ("event_ids", .arr (t.eventIds.map .str))]

def GainTrace.fields (g : GainTrace) : List (String × Value) :=
  [("source_id", .str g.sourceId), ("source_type", .str g.sourceType), ("kind", .str g.kind),
    ("amount", moneyJson g.amount), ("occurred_at", .str (Calendar.isoZulu g.occurredAt))]

def gapJson (g : String × String) : Value := .obj [("code", .str g.1), ("source", .str g.2)]

def ClosingMemory.fields (m : ClosingMemory) : List (String × Value) :=
  [("calculation_version", .str calculationVersion),
    ("cycle_id", idJson m.cycleId),
    ("cycle_start_date", .str (Calendar.isoDate m.cycleStartDate)),
    ("closing_cutoff_at", .str (Calendar.isoBelem m.closingCutoffAt)),
    ("financial_timezone", .str financialTimezone),
    ("gross_realized_result", moneyJson m.grossRealizedResult),
    ("administration_fee_rate", .str (fixedText administrationFeeRate)),
    ("administration_fee", moneyJson m.administrationFee),
    ("distributable_result", moneyJson m.distributableResult),
    ("total_eligible_contributions", moneyJson m.totalEligibleContributions),
    ("participants", .arr (m.participants.map ParticipantResult.json)),
    ("source_trace", .obj [
      ("contributions", .arr (m.contributions.map ContributionTrace.json)),
      ("included_gains", .arr (m.includedGains.map (fun g => .obj g.fields))),
      ("excluded_gains", .arr (m.excludedGains.map (fun g =>
        .obj (g.1.fields ++ [("reason", .str g.2)])))),
      ("own_balance_settled_loan_ids", .arr (m.ownBalanceSettledLoanIds.map idJson))]),
    ("source_gaps", .arr (m.sourceGaps.map gapJson)),
    ("unavailable_result_sources", .arr [])]

end Document

/-- The result dictionary: the memory and the digest of its canonical text. -/
structure ClosingResult where
  memory : ClosingMemory
  calculationHash : String
  deriving DecidableEq, Repr

def calculateCycleClosing (sha256 : String → String) (evidence : ClosingEvidence) :
    Tx ClosingResult := do
  let memory ← closingMemory evidence
  return { memory, calculationHash := sha256 (Json.dumps (.obj memory.fields)) }

end Caixinha.Model.CycleClosing
