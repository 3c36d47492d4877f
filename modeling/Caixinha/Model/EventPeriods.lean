import Caixinha.Library.HalfOpen
import Caixinha.Model.PaymentEvents
import Caixinha.Model.TemporalReceipts

/-! The financial events of a period: legacy rows are placed by their UTC instant, rows with a
temporal receipt by its civil date, once the receipt is verified. -/
namespace Caixinha.Model.EventPeriods

open Caixinha.Library Table Json HalfOpen

section Reversal
variable (env : Env) (books : ReceiptBooks) (r : PaymentReversal) (p : Payment) (s : PaymentSettlement)

/-- `_settlement_valid` of a settlement that is not `v6`. -/
def legacySettlementValid : Finding Unit := do
  let columns := books.settlementColumns s.id
  findingIf (s.paymentId ≠ p.id) "settlement não referencia o Payment"
  findingIf (columns.version ∉ ["v1", "v2", "v3", "v4", "v5"])
    "versão de receipt do settlement desconhecida"
  findingIf columns.financialDate.isSome "settlement legacy contém financial_date"
  settlementValid env p s

/-- The obligation validator of the settlement, for its legacy version and for `v6`. -/
def validateObligationOf (version : String) (snapshot : Value) : Finding Unit :=
  match s.obligation with
  | .contribution id => do
    findingIf (version ∉ ["v1", "v6"]) "settlement Contribution possui versão incompatível"
    validateContribution books.db p { s with receiptVersion := .v1 } r snapshot id
  | .loanInstallment id => do
    findingIf (version ∉ ["v4", "v6"]) "settlement Loan possui versão incompatível"
    validateLoan books.db p { s with receiptVersion := .v4 } r snapshot id
  | .agreementInstallment id => do
    findingIf (version ∉ ["v5", "v6"]) "settlement Agreement possui versão incompatível"
    validateAgreement books.db p { s with receiptVersion := .v5 } r snapshot id

/-- The obligation evidence inside a temporal receipt, under the settlement that receipt binds. -/
def embeddedEvidence (temporal : Value) : Finding Value :=
  match field temporal "legacy_obligation_evidence" with
  | .obj fields => .ok (.obj (setField fields "settlement" (field temporal "settlement")))
  | _ => .error "evidência legada da obrigação ausente no reversal v2"

/-- `validate_reversal_effect` -/
def validateReversalEffect : Finding Unit := do
  let p ← orFinding (books.db.payment? r.paymentId) "Payment/Settlement original inexistente"
  let s ← orFinding (books.db.settlement? r.settlementId) "Payment/Settlement original inexistente"
  findingIf (s.paymentId ≠ p.id) "PaymentSettlement não referencia o Payment"
  let settlementVersion := (books.settlementColumns s.id).version
  if settlementVersion = settlementTemporalVersion then verifySettlementV6 books p s env
  else legacySettlementValid env books p s
  let version := (books.reversalColumns r.id).version
  findingIf (version ∉ ["v1", "v2"]) "versão de receipt do reversal desconhecida"
  let stored ← receiptValid env r version
  let snapshot ←
    if version = reversalTemporalVersion then do
      verifyReversalV2 env books r
      embeddedEvidence stored
    else .ok stored
  assertCommonSnapshot r p s settlementVersion snapshot
  findingIf (p.status ≠ "approved") "Payment não está approved"
  validateObligationOf books r p s settlementVersion snapshot

end Reversal

inductive EventKind where
  | SETTLEMENT | REVERSAL
  deriving DecidableEq, Repr

inductive EventSemantics where
  | LEGACY | TEMPORAL
  deriving DecidableEq, Repr

inductive EvidenceStatus where
  | LEGACY_COMPATIBILITY | LEGACY_VERIFIED | TEMPORAL_VERIFIED
  deriving DecidableEq, Repr

inductive EventError where
  /-- `UnsupportedPaymentEventVersion`, with the version. -/
  | unsupportedVersion (version : String)
  /-- `PaymentEventEvidenceError` -/
  | evidence (message : String)
  | valueError (message : String)
  deriving DecidableEq, Repr

abbrev Reading := Except EventError

structure PaymentEventPeriodIdentity where
  eventKind : EventKind
  semantics : EventSemantics
  timestampUtc : Int
  financialDate : Option Int
  paymentId : Nat
  settlementId : Nat
  reversalId : Option Nat
  obligationType : String
  evidenceStatus : EvidenceStatus
  evidenceDetail : Option String := none
  deriving DecidableEq, Repr

/-- `LEGACY_SETTLEMENT_VERSIONS` -/
def legacySettlementVersions : Obligation → List String
  | .contribution _ => ["v1"]
  | .loanInstallment _ => ["v1", "v2", "v3", "v4"]
  | .agreementInstallment _ => ["v1", "v5"]

def raiseIf (c : Prop) [Decidable c] (message : String) : Reading Unit :=
  if c then .error (.evidence message) else .ok ()

/-- A finding that must hold, under the words of the classifier. -/
def raiseUnless (found : Finding Unit) (lead : String) : Reading Unit :=
  match found with
  | .ok _ => .ok ()
  | .error detail => .error (.evidence (lead ++ detail))

/-- `classify_settlement_event` -/
def classifySettlementEvent (env : Env) (books : ReceiptBooks) (p : Payment) (s : PaymentSettlement) :
    Reading PaymentEventPeriodIdentity := do
  raiseIf (s.paymentId ≠ p.id) "settlement does not reference its Payment"
  let columns := books.settlementColumns s.id
  let identity (semantics : EventSemantics) (status : EvidenceStatus) : PaymentEventPeriodIdentity :=
    { eventKind := .SETTLEMENT, semantics, timestampUtc := s.confirmedAt
      financialDate := columns.financialDate, paymentId := p.id, settlementId := s.id
      reversalId := none, obligationType := s.obligation.type, evidenceStatus := status }
  if columns.version = settlementTemporalVersion then
    raiseIf (columns.financialDate = none) "settlement v6 has no financial_date"
    raiseUnless (verifySettlementV6 books p s env) "settlement v6 evidence invalid: "
    return identity .TEMPORAL .TEMPORAL_VERIFIED
  else
    if columns.version ∉ legacySettlementVersions s.obligation then
      .error (.unsupportedVersion columns.version)
    else
      raiseIf columns.financialDate.isSome "legacy settlement unexpectedly has financial_date"
      return identity .LEGACY .LEGACY_COMPATIBILITY

/-- The detail of a finding that failed. -/
def Finding.detail? : Finding Unit → Option String
  | .ok _ => none
  | .error detail => some detail

/-- `classify_reversal_event` -/
def classifyReversalEvent (env : Env) (books : ReceiptBooks) (r : PaymentReversal) :
    Reading (Option PaymentEventPeriodIdentity) := do
  let columns := books.reversalColumns r.id
  let temporal := columns.version = reversalTemporalVersion
  let valid := validateReversalEffect env books r
  let identity (semantics : EventSemantics) (status : EvidenceStatus) (detail : Option String)
      (s : PaymentSettlement) : PaymentEventPeriodIdentity :=
    { eventKind := .REVERSAL, semantics, timestampUtc := r.reversedAt
      financialDate := columns.financialDate, paymentId := r.paymentId
      settlementId := r.settlementId, reversalId := some r.id
      obligationType := s.obligation.type, evidenceStatus := status, evidenceDetail := detail }
  if columns.version ∉ ["v1", reversalTemporalVersion] then
    .error (.unsupportedVersion columns.version)
  else if temporal then
    raiseIf (columns.financialDate = none) "reversal v2 has no financial_date"
    raiseUnless valid "reversal v2 evidence invalid: "
    match books.db.settlement? r.settlementId with
    | none => .error (.evidence "reversal v2 settlement is missing")
    | some s => return some (identity .TEMPORAL .TEMPORAL_VERIFIED none s)
  else
    raiseIf columns.financialDate.isSome "legacy reversal unexpectedly has financial_date"
    let status := if valid.isOk then EvidenceStatus.LEGACY_VERIFIED else .LEGACY_COMPATIBILITY
    return (books.db.settlement? r.settlementId).map (identity .LEGACY status (Finding.detail? valid))

/-- The bounds and the member a caller asks for. -/
structure EventQuery where
  start : Option Int := none
  stop : Option Int := none
  memberId : Option Nat := none
  financialStart : Option Int := none
  financialEndExclusive : Option Int := none
  deriving DecidableEq, Repr

def atMidnight (t : Int) : Prop := t % dayLength = 0

instance (t : Int) : Decidable (atMidnight t) := inferInstanceAs (Decidable (_ = _))

/-- The civil date a UTC-midnight boundary names. -/
def fromBoundary : Option Int → Reading (Option Int)
  | none => .ok none
  | some t =>
    if atMidnight t then .ok (some (utcDate t))
    else .error (.valueError "temporal DATE events require civil date bounds for sub-day windows")

/-- An explicit civil bound, or the one the instant names. -/
def civilBound (explicit instant : Option Int) : Reading (Option Int) :=
  match explicit with
  | some day => .ok (some day)
  | none => fromBoundary instant

/-- The end stands before the start. -/
def Precedes (stop start : Option Int) : Prop := ∃ a ∈ start, ∃ b ∈ stop, b < a

instance (stop start : Option Int) : Decidable (Precedes stop start) :=
  inferInstanceAs (Decidable (∃ a ∈ start, ∃ b ∈ stop, b < a))

/-- `civil_date_window` -/
def civilDateWindow (start stop financialStart financialEndExclusive : Option Int) :
    Reading (Option Int × Option Int) := do
  let lower ← civilBound financialStart start
  let upper ← civilBound financialEndExclusive stop
  if Precedes upper lower then .error (.valueError "financial date window end precedes start")
  else return (lower, upper)

/-- `event_is_in_period` -/
def eventIsInPeriod (identity : PaymentEventPeriodIdentity)
    (start stop financialStart financialEndExclusive : Option Int) : Reading Bool :=
  match identity.semantics, identity.financialDate with
  | .LEGACY, _ => .ok (decide (Within start stop identity.timestampUtc))
  | .TEMPORAL, none => .error (.evidence "verified temporal event has no financial_date")
  | .TEMPORAL, some day => do
    let (lower, upper) ← civilDateWindow start stop financialStart financialEndExclusive
    return decide (Within lower upper day)

/-- The bounds that select the rows, once resolved. -/
structure ResolvedWindow where
  start : Option Int
  stop : Option Int
  financialStart : Option Int
  financialEndExclusive : Option Int
  partialWindow : Bool
  deriving DecidableEq, Repr

namespace EventQuery
variable (q : EventQuery)

def hasCivilBound : Prop := q.financialStart.isSome ∨ q.financialEndExclusive.isSome

instance : Decidable q.hasCivilBound := inferInstanceAs (Decidable (_ ∨ _))

/-- A bound inside a day, without civil bounds that say which dates are meant. -/
def isPartial : Prop :=
  (q.start.any (fun t => ¬ atMidnight t) ∨ q.stop.any (fun t => ¬ atMidnight t)) ∧ ¬ q.hasCivilBound

instance : Decidable q.isPartial := inferInstanceAs (Decidable (_ ∧ _))

/-- The checks and the window with which `payment_financial_events` begins. -/
def resolve : Reading ResolvedWindow := do
  if Precedes q.stop q.start then .error (.valueError "UTC event window end precedes start")
  else if q.hasCivilBound ∧ (q.start = none ∨ q.stop = none) then
    .error (.valueError
      "explicit financial DATE bounds require matching UTC bounds for legacy events")
  else if q.isPartial then return ⟨q.start, q.stop, none, none, true⟩
  else
    let (lower, upper) ← civilDateWindow q.start q.stop q.financialStart q.financialEndExclusive
    return ⟨q.start, q.stop, lower, upper, false⟩

end EventQuery

namespace ResolvedWindow
variable (w : ResolvedWindow)

/-- The filter of `_candidate_query` on one row; a null date is on no side of a bound. -/
def isCandidate (temporalVersion : String) (timestamp : Int) (columns : ReceiptColumns) : Bool :=
  let byInstant := decide (w.start.isSome ∨ w.stop.isSome)
  let byDate := decide (w.financialStart.isSome ∨ w.financialEndExclusive.isSome)
  let inEnvelope := columns.version = temporalVersion ∧
    Within (w.start.map (· - dayLength)) (w.stop.map (· + dayLength)) timestamp
  (!byInstant && !byDate && !w.partialWindow) ||
    (byInstant && decide (Within w.start w.stop timestamp)) ||
    (byDate && columns.financialDate.any
      (fun day => decide (Within w.financialStart w.financialEndExclusive day))) ||
    (w.partialWindow && decide inEnvelope)

def contains (identity : PaymentEventPeriodIdentity) : Reading Bool :=
  eventIsInPeriod identity w.start w.stop w.financialStart w.financialEndExclusive

end ResolvedWindow

/-- An immutable signed analytical event. -/
structure PaymentFinancialEvent where
  eventId : String
  paymentId : Nat
  settlementId : Nat
  paymentReversalId : Option Nat
  component : PaymentComponent
  amount : Int
  occurredAt : Int
  source : CycleClosing.EventSource
  semantics : EventSemantics
  financialDate : Option Int
  eventKind : EventKind
  evidenceStatus : EvidenceStatus
  obligationType : String
  deriving DecidableEq, Repr

/-- `_event` -/
def event (s : PaymentSettlement) (component : PaymentComponent) (amount : Int)
    (source : CycleClosing.EventSource) (reversalId : Option Nat)
    (identity : PaymentEventPeriodIdentity) : Option PaymentFinancialEvent :=
  if amount = 0 then none
  else some
    { eventId := s!"settlement:{s.id}:{component.text}" ++ eventSuffix reversalId
      paymentId := s.paymentId
      settlementId := s.id
      paymentReversalId := reversalId
      component, amount, source
      occurredAt := identity.timestampUtc
      semantics := identity.semantics
      financialDate := identity.financialDate
      eventKind := identity.eventKind
      evidenceStatus := identity.evidenceStatus
      obligationType := identity.obligationType }

section Reader
variable (env : Env) (books : ReceiptBooks) (q : EventQuery) (w : ResolvedWindow)

def ofMember (s : PaymentSettlement) : Bool := q.memberId.all (fun id => s.memberId = id)

def candidateSettlements : List PaymentSettlement :=
  (settlementsById books.db).filter (fun s => ofMember q s &&
    w.isCandidate settlementTemporalVersion s.confirmedAt (books.settlementColumns s.id))

def candidateReversals : List PaymentReversal :=
  (reversalsById books.db).filter (fun r =>
    w.isCandidate reversalTemporalVersion r.reversedAt (books.reversalColumns r.id))

abbrev ReversalCandidate := PaymentReversal × PaymentSettlement × PaymentEventPeriodIdentity

/-- The settlements seen so far and the reversals in the period. -/
structure Gathered where
  bySettlement : List PaymentSettlement
  candidates : List ReversalCandidate

/-- A version no one knows contributes no flow; every other failure is raised. -/
def unlessUnsupported {α : Type} : Reading α → Reading (Option α)
  | .ok a => .ok (some a)
  | .error (.unsupportedVersion _) => .ok none
  | .error e => .error e

/-- A reversal whose settlement is at hand. -/
def considerReversal (r : PaymentReversal) (s : PaymentSettlement) (found : Gathered) :
    Reading Gathered := do
  match (← unlessUnsupported (classifyReversalEvent env books r)).join with
  | none => return found
  | some identity =>
    if ← w.contains identity then
      return { found with candidates := found.candidates ++ [(r, s, identity)] }
    else return found

/-- One round of the loop over the reversals; a settlement outside the window is pulled in. -/
def gatherReversal (found : Gathered) (r : PaymentReversal) : Reading Gathered :=
  match found.bySettlement.find? (fun s => s.id = r.settlementId) with
  | some s => considerReversal env books w r s found
  | none =>
    match (books.db.settlement? r.settlementId).filter (ofMember q) with
    | none => .ok found
    | some s =>
      considerReversal env books w r s { found with bySettlement := found.bySettlement ++ [s] }

def originalEventsOf (s : PaymentSettlement) (identity : PaymentEventPeriodIdentity) :
    List PaymentFinancialEvent :=
  (paymentComponents s).filterMap (fun (component, amount) =>
    event s component amount .ORIGINAL none identity)

/-- The original events of one settlement in the period. -/
def originalEventsIn (s : PaymentSettlement) : Reading (List PaymentFinancialEvent) :=
  match books.db.payment? s.paymentId with
  | none => .ok []
  | some p => do
    match ← unlessUnsupported (classifySettlementEvent env books p s) with
    | none => return []
    | some identity =>
      if originalIsConsistent books.db s then
        if ← w.contains identity then return originalEventsOf s identity else return []
      else return []

def reversalEventsOf (candidate : ReversalCandidate) : List PaymentFinancialEvent :=
  let (r, s, identity) := candidate
  if identity.evidenceStatus = .LEGACY_COMPATIBILITY then []
  else (paymentComponents s).filterMap (fun (component, amount) =>
    event s component (-amount) .REVERSAL (some r.id) identity)

def eventLe (a b : PaymentFinancialEvent) : Prop :=
  a.occurredAt < b.occurredAt ∨ (a.occurredAt = b.occurredAt ∧ a.eventId ≤ b.eventId)

instance (a b : PaymentFinancialEvent) : Decidable (eventLe a b) :=
  inferInstanceAs (Decidable (_ ∨ _))

/-- `payment_financial_events` -/
def paymentFinancialEvents : Reading (List PaymentFinancialEvent) := do
  let w ← q.resolve
  let found ← (candidateReversals books w).foldlM (gatherReversal env books q w)
    ⟨candidateSettlements books q w, []⟩
  let originals ← found.bySettlement.mapM (originalEventsIn env books w)
  return (originals.flatten ++ found.candidates.flatMap reversalEventsOf).insertionSort eventLe

end Reader

end Caixinha.Model.EventPeriods
