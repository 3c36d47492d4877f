import Caixinha.Model.Webhook
import Caixinha.Model.DailyPenalty
import Mathlib.Logic.Function.Basic

/-! The PIX charges of contributions and of agreement installments: a reservation is committed before
the provider is asked, and the answer is bound to it. -/
namespace Caixinha.Model

open Caixinha.Library Table Decimal

section Reservations

/-- The database with the events of the provider and the keys of charges: the `idempotency_key` of each
payment and the `pix_idempotency_key` of each contribution. -/
structure ChargeBook where
  inbox : Inbox
  idempotencyKey : Nat → String
  pixIdempotencyKey : Nat → Option String

def ChargeBook.db (b : ChargeBook) : Db := b.inbox.db

def ChargeBook.put (b : ChargeBook) (db : Db) : ChargeBook := { b with inbox := { b.inbox with db } }

/-- `order_by(Payment.id.desc()).first()` -/
def latest? (payments : List Payment) : Option Payment :=
  payments.foldl (fun found p => match found with
    | none => some p
    | some q => if q.id < p.id then some p else some q) none

def isReservation (ref : PaymentReference) (p : Payment) : Bool :=
  p.reference = some ref ∧ p.attemptStatus = some .PENDING

def reservations (db : Db) (ref : PaymentReference) : List Payment :=
  db.payments.filter (isReservation ref)

/-- `_pending_payment`, `_pending_attempt` -/
def pendingReservation? (db : Db) (ref : PaymentReference) : Option Payment :=
  latest? (reservations db ref)

/-- The payment that carries an idempotency key. -/
def ChargeBook.keyed? (b : ChargeBook) (key : String) : Option Payment :=
  b.db.payments.find? (fun p => b.idempotencyKey p.id = key)

/-- The payment a reservation inserts. -/
def reservedPayment (db : Db) (ref : PaymentReference) (externalReference : String) (amount : Int) :
    Payment where
  id := nextKey Payment.id db.payments
  provider := "mercado_pago"
  providerOrderId := none
  providerPaymentId := none
  amount
  status := "PENDING"
  externalReference := some externalReference
  pixTxid := none
  endToEndId := none
  providerStatusDetail := none
  confirmedAt := none
  expiresAt := none
  amountReceived := none
  ledgerPostedAt := none
  reference := some ref
  attemptStatus := some .PENDING
  calculatedForDate := none
  financialSnapshotJson := none
  snapshotHash := none
  reconciliationStatus := none

/-- Commit a reservation; nothing when a unique index refuses it. -/
def ChargeBook.insert (b : ChargeBook) (key : String) (payment : Payment) : Option ChargeBook :=
  if (b.keyed? key).isSome ∨ b.db.payments.any (fun p => p.reference = payment.reference ∧
      p.attemptStatus = some .PENDING ∧ payment.attemptStatus = some .PENDING) then none
  else some { b.put { b.db with payments := b.db.payments ++ [payment] } with
    idempotencyKey := Function.update b.idempotencyKey payment.id key }

/-- How a reservation ended: a new payment, one there was, or an `IntegrityError`. -/
inductive Reserved where
  | created (b : ChargeBook) (payment : Payment)
  | found (payment : Payment)
  | integrityError

def Reserved.ofWinner : Option Payment → Reserved
  | some winner => .found winner
  | none => .integrityError

/-- The key a contribution is charged under. -/
def contributionKey (b : ChargeBook) (contributionId : Nat) : String :=
  (given (b.pixIdempotencyKey contributionId)).getD ("frc-contribution-" ++ toString contributionId)

/-- `contribution_pix_attempts.reserve` -/
def reserveContribution (b : ChargeBook) (contributionId : Nat) (amount : Int) : Reserved :=
  let ref := PaymentReference.contribution contributionId
  match pendingReservation? b.db ref with
  | some existing => .found existing
  | none =>
    let key := contributionKey b contributionId
    let payment := reservedPayment b.db ref ("contribution-" ++ toString contributionId) amount
    let keyed := { b with
      pixIdempotencyKey := Function.update b.pixIdempotencyKey contributionId (some key) }
    match keyed.insert key payment with
    | some b => .created b payment
    | none => .ofWinner (pendingReservation? b.db ref)

def agreementInstallmentKey (installmentId : Nat) : String :=
  "frc-agreement-installment-" ++ toString installmentId

/-- `agreement_installment_pix_attempts.reserve` -/
def reserveAgreementInstallment (b : ChargeBook) (installmentId : Nat) (amount : Int) : Reserved :=
  let ref := PaymentReference.agreementInstallment installmentId
  let key := agreementInstallmentKey installmentId
  match pendingReservation? b.db ref with
  | some existing => .found existing
  | none =>
    match b.keyed? key with
    | some existing => .found existing
    | none =>
      let payment := reservedPayment b.db ref
        ("agreement_installment:" ++ toString installmentId) amount
      match b.insert key payment with
      | some b => .created b payment
      | none => .ofWinner (pendingReservation? b.db ref <|> b.keyed? key)

end Reservations

section Requests

/-- What a request for a charge comes to before the provider is asked. -/
inductive ChargeAnswer where
  | refused (status : Nat) (detail : String)
  | response (payment : Payment)
  /-- the reservation is committed and the provider is asked for its payment -/
  | asking (payment : Payment)
  deriving DecidableEq, Repr

def waitingStatuses : List String := ["pending", "in_process", "PENDING"]
def terminalStatuses : List String := ["cancelled", "rejected", "refunded", "charged_back"]

def awaitsReconciliation : ChargeAnswer := .refused 409 "Criação Pix pendente de reconciliação."

def hasProviderPayment (p : Payment) : Bool := (given p.providerPaymentId).isSome

/-- `_contribution_open_amount` -/
def contributionOpenAmount (c : Contribution) : Int :=
  if c.cancelledAt.isSome then 0 else max 0 (c.amount - contributionPaidAmount c)

/-- `_payment_for_contribution` -/
def contributionPayment? (db : Db) (c : Contribution) : Option Payment :=
  latest? (db.payments.filter (fun p => p.reference = some (.contribution c.id))) <|>
    (c.paymentId.filter (· ≠ 0)).bind db.payment?

def askContribution (b : ChargeBook) (c : Contribution) : ChargeBook × ChargeAnswer :=
  if contributionOpenAmount c ≤ 0 then (b, .refused 409 "Contribuição já paga.")
  else match reserveContribution b c.id (contributionOpenAmount c) with
    | .created b payment => (b, .asking payment)
    | .found payment =>
      (b, if hasProviderPayment payment then .response payment else awaitsReconciliation)
    | .integrityError => (b, match contributionPayment? b.db c with
      | some existing =>
        if hasProviderPayment existing then .response existing else awaitsReconciliation
      | none => awaitsReconciliation)

/-- `create_pix`, for the user of a member, up to the call of the provider. -/
def createContributionPix (b : ChargeBook) (clock : Int) (member : Option Nat) (contributionId : Nat) :
    ChargeBook × ChargeAnswer :=
  match b.db.contribution? contributionId with
  | none => (b, .refused 404 "Contribuição não encontrada.")
  | some c =>
    if member ≠ some c.memberId then (b, .refused 404 "Contribuição não encontrada.")
    else match contributionFinancialStatus c (contributionPaidAmount c) clock with
    | .PAID => (b, .refused 409 "Contribuição já paga.")
    | .CANCELLED => (b, .refused 409 "Contribuição encerrada neste ciclo.")
    | _ => match contributionPayment? b.db c with
      | none => askContribution b c
      | some existing =>
        if ¬ hasProviderPayment existing then (b, awaitsReconciliation)
        else if existing.status ∈ waitingStatuses then (b, .response existing)
        else if existing.status ∉ terminalStatuses then (b, .response existing)
        else askContribution b c

/-- `agreement_balance` -/
def agreementBalance (i : AgreementInstallment) : Int :=
  max 0 (i.penaltyAmount - i.paidPenaltyAmount) + max 0 (i.principal - i.paidAmount)

def usable (p : Payment) : Bool := hasProviderPayment p ∧ p.status ∈ waitingStatuses

def askAgreementInstallment (b : ChargeBook) (i : AgreementInstallment) : ChargeBook × ChargeAnswer :=
  match reserveAgreementInstallment b i.id (agreementBalance i) with
  | .created b payment => (b, .asking payment)
  | .found payment => (b, if usable payment then .response payment else awaitsReconciliation)
  | .integrityError => (b, awaitsReconciliation)

/-- `create_pix` of an agreement installment, up to the call of the provider. -/
def createAgreementPix (b : ChargeBook) (member : Option Nat) (installmentId : Nat) :
    ChargeBook × ChargeAnswer :=
  let ref := PaymentReference.agreementInstallment installmentId
  match b.db.agreementInstallment? installmentId with
  | none => (b, .refused 404 "Parcela do acordo não encontrada.")
  | some i =>
    match b.db.agreement? i.agreementId with
    | none => (b, .refused 404 "Parcela do acordo não encontrada.")
    | some agreement =>
      if member ≠ some agreement.memberId ∨ agreement.status ∉ [.APPROVED, .SETTLED] then
        (b, .refused 404 "Parcela do acordo não encontrada.")
      else if agreementBalance i ≤ 0 ∨ i.status = .PAID then (b, .refused 409 "Parcela já está paga.")
      else match pendingReservation? b.db ref with
        | some pending =>
          (b, if usable pending then .response pending else awaitsReconciliation)
        | none =>
          match latest? (b.db.payments.filter (fun p => p.reference = some ref ∧
              p.providerPaymentId.isSome ∧ p.status ∈ waitingStatuses)) with
          | some backed => (b, .response backed)
          | none => askAgreementInstallment b i

end Requests

section Answers

/-- What comes of asking the provider; an answer may fail to commit for a reason of its own. -/
inductive Creation where
  | ambiguous
  | failed
  | answered (result : ProviderResult) (commits : Bool)
  deriving DecidableEq, Repr

def markReconciliationRequired (db : Db) (paymentId : Nat) : Db :=
  match db.payment? paymentId with
  | none => db
  | some payment =>
    if payment.attemptStatus ≠ some .PENDING then db
    else db.putPayment { payment with reconciliationStatus := some .RECONCILIATION_REQUIRED }

/-- The answer names its payment and its order. -/
def ProviderResult.identifies (result : ProviderResult) : Bool :=
  result.id ≠ "" ∧ (given result.orderId).isSome

/-- The payment with the ids and the status of the provider. -/
def answeredPayment (payment : Payment) (result : ProviderResult) : Payment :=
  { payment with
    providerOrderId := result.orderId
    providerPaymentId := some result.id
    status := (given result.status).getD "PENDING" }

def boundPayment (payment : Payment) (result : ProviderResult) : Payment :=
  { answeredPayment payment result with attemptStatus := none, reconciliationStatus := none }

def preservedPayment (payment : Payment) (result : ProviderResult) : Payment :=
  { answeredPayment payment result with
    attemptStatus := some .PENDING
    reconciliationStatus := some .RECONCILIATION_REQUIRED }

/-- `uq_provider_payment` -/
def providerPaymentFree (db : Db) (payment : Payment) (result : ProviderResult) : Bool :=
  ¬ db.payments.any (fun p => p.id ≠ payment.id ∧ p.provider = payment.provider ∧
    p.providerPaymentId = some result.id)

/-- An id of the payment that is absent or the one of the answer. -/
def agrees (stored : Option String) (told : Option String) : Bool := stored = none ∨ stored = told

/-- `contribution_pix_attempts.bind_provider`; nothing when it raises. -/
def bindContributionProvider (db : Db) (paymentId contributionId : Nat) (result : ProviderResult) :
    Option Db := do
  let payment ← db.payment? paymentId
  let c ← db.contribution? contributionId
  if ¬ isReservation (.contribution contributionId) payment then none
  if ¬ result.identifies then none
  if ¬ providerPaymentFree db payment result then none
  return (db.putPayment (boundPayment payment result)).putContribution
    { c with paymentId := some payment.id }

/-- `agreement_installment_pix_attempts.bind_provider`; nothing when it raises. -/
def bindAgreementProvider (db : Db) (paymentId installmentId : Nat) (result : ProviderResult) :
    Option Db := do
  let payment ← db.payment? paymentId
  let _ ← db.agreementInstallment? installmentId
  if payment.provider ≠ "mercado_pago" ∨
    ¬ isReservation (.agreementInstallment installmentId) payment then none
  if ¬ result.identifies then none
  if ¬ agrees payment.providerPaymentId (some result.id) ∨
    ¬ agrees payment.providerOrderId result.orderId then none
  if ¬ providerPaymentFree db payment result then none
  return db.putPayment (boundPayment payment result)

/-- `preserve_provider_result_for_reconciliation`; nothing when it raises. -/
def preserveProviderResult (db : Db) (paymentId : Nat) (ref : PaymentReference)
    (result : ProviderResult) : Option Db := do
  if ¬ result.identifies then none
  let payment ← db.payment? paymentId
  if payment.provider ≠ "mercado_pago" ∨ payment.reference ≠ some ref then none
  if ¬ agrees payment.providerOrderId result.orderId ∨
    ¬ agrees payment.providerPaymentId (some result.id) then none
  if payment.attemptStatus = none ∧ payment.providerOrderId = result.orderId ∧
    payment.providerPaymentId = some result.id then return db
  if payment.attemptStatus ≠ some .PENDING then none
  if ¬ providerPaymentFree db payment result then none
  return db.putPayment (preservedPayment payment result)

def preserveContributionProvider (db : Db) (paymentId contributionId : Nat)
    (result : ProviderResult) : Option Db := do
  let _ ← db.contribution? contributionId
  preserveProviderResult db paymentId (.contribution contributionId) result

def preserveAgreementProvider (db : Db) (paymentId installmentId : Nat)
    (result : ProviderResult) : Option Db := do
  let _ ← db.agreementInstallment? installmentId
  preserveProviderResult db paymentId (.agreementInstallment installmentId) result

/-- What an endpoint commits of the provider's answer: bound, else preserved, else nothing. -/
def finishCharge (bind preserve : Db → Nat → Nat → ProviderResult → Option Db) (db : Db)
    (paymentId obligationId : Nat) : Creation → Db
  | .ambiguous => markAmbiguous db paymentId
  | .failed => markReconciliationRequired db paymentId
  | .answered result commits =>
    let bound := if commits then bind db paymentId obligationId result else none
    (bound <|> preserve db paymentId obligationId result).getD db

def finishContributionPix (db : Db) (paymentId contributionId : Nat) (creation : Creation) : Db :=
  finishCharge bindContributionProvider preserveContributionProvider db paymentId contributionId creation

def finishAgreementPix (db : Db) (paymentId installmentId : Nat) (creation : Creation) : Db :=
  finishCharge bindAgreementProvider preserveAgreementProvider db paymentId installmentId creation

end Answers

section Histories

/-- What may happen to charges, each in transactions of its own: a request, the answer of the provider
to one, a delivery of the webhook, another operation of the program. -/
inductive ChargeEvent where
  | requestedContribution (clock : Int) (member : Option Nat) (contributionId : Nat)
  | requestedAgreement (member : Option Nat) (installmentId : Nat)
  | answeredContribution (paymentId contributionId : Nat) (creation : Creation)
  | answeredAgreement (paymentId installmentId : Nat) (creation : Creation)
  | delivered (turn : Turn)
  | operated (clock : Int) (op : Operation)
  | accrued (onDate : Int) (rate : Number)

def handleCharge (env : Env) (b : ChargeBook) : ChargeEvent → ChargeBook
  | .requestedContribution clock member id => (createContributionPix b clock member id).1
  | .requestedAgreement member id => (createAgreementPix b member id).1
  | .answeredContribution paymentId id creation =>
    b.put (finishContributionPix b.db paymentId id creation)
  | .answeredAgreement paymentId id creation => b.put (finishAgreementPix b.db paymentId id creation)
  | .delivered turn => { b with inbox := deliver env b.inbox turn }
  | .operated clock op => b.put (execute env b.db (clock, op))
  | .accrued onDate rate => b.put ((accrueOverduePenalties b.db onDate rate).toOption.getD b.db)

def chargeHistory (env : Env) (b : ChargeBook) (events : List ChargeEvent) : ChargeBook :=
  events.foldl (handleCharge env) b

end Histories

end Caixinha.Model
