import Caixinha.Model.Operations

/-! The webhook of the provider: notifications are stored as events, each event is processed with the
order the provider shows then, and an administrator replays what is left. -/
namespace Caixinha.Model

open Caixinha.Library Table

section Provider

/-- The identifiers inside `transaction_details` and `point_of_interaction.transaction_data`. -/
structure TransactionData where
  txid : Option String := none
  endToEndId : Option String := none
  deriving DecidableEq, Repr

/-- The keys of an object of the provider that `_persist_remote_payload` reads; the outer option tells
whether the key is there, the inner one whether it holds something that reads. -/
structure RemoteFields where
  externalReference : Option (Option String) := none
  statusDetail : Option (Option String) := none
  transactionDetails : Option (Option TransactionData) := none
  transactionData : Option (Option TransactionData) := none
  deriving DecidableEq, Repr

/-- `dict.update` -/
def RemoteFields.update (fields new : RemoteFields) : RemoteFields where
  externalReference := new.externalReference <|> fields.externalReference
  statusDetail := new.statusDetail <|> fields.statusDetail
  transactionDetails := new.transactionDetails <|> fields.transactionDetails
  transactionData := new.transactionData <|> fields.transactionData

def RemoteFields.payload (fields : RemoteFields) : RemotePayload :=
  let data := fields.transactionDetails.join <|> fields.transactionData.join
  { externalReference := fields.externalReference.join
    statusDetail := fields.statusDetail.join
    txid := data.bind TransactionData.txid
    endToEndId := data.bind TransactionData.endToEndId }

/-- One entry of `transactions.payments`. Its amounts are those of `transaction_amount`, `amount` and
`total_paid_amount` that read as money; its instant is that of `date_approved` or `approved_at`. -/
structure RemotePayment where
  id : Option String := none
  status : Option String := none
  amounts : List Int := []
  approvedAt : Option Int := none
  fields : RemoteFields := {}
  deriving DecidableEq, Repr

structure RemoteOrder where
  payments : List RemotePayment
  status : Option String := none
  totalAmount : Option Int := none
  fields : RemoteFields := {}
  deriving DecidableEq, Repr

/-- What `get_order` answers for an order id: nothing when the call fails or the answer is malformed. -/
abbrev Provider := String → Option RemoteOrder

/-- A value that Python counts as true. -/
def given (text : Option String) : Option String := text.filter (· ≠ "")

/-- The entry of the order that is this payment; an order without entries stands for itself. -/
def remotePayment (payment : Payment) (remote : RemoteOrder) : Option RemotePayment :=
  if remote.payments.isEmpty then
    if (given payment.providerPaymentId).isSome ∧ payment.providerPaymentId = payment.providerOrderId
    then some {} else none
  else if (given payment.providerPaymentId).isNone then none
  else match remote.payments.filter (fun r => r.id.isSome ∧ r.id = payment.providerPaymentId) with
    | [r] => some r
    | _ => none

def remoteStatus (remote : RemoteOrder) (entry : RemotePayment) : Option String :=
  given entry.status <|> given remote.status

def remoteConfirmed (remote : RemoteOrder) (entry : RemotePayment) : Bool :=
  remoteStatus remote entry = some "approved" ∨ (remoteStatus remote entry = some "processed" ∧
    entry.fields.statusDetail = some (some "accredited"))

/-- `_remote_amount`: the first amount that is not negative. -/
def remoteAmount (remote : RemoteOrder) (entry : RemotePayment) : Option Int :=
  (entry.amounts ++ remote.totalAmount.toList).find? (fun cents => 0 ≤ cents)

/-- `_remote_confirmed_at`, always an aware instant. -/
def remoteConfirmedAt (entry : RemotePayment) : Option Timestamp :=
  entry.approvedAt.map (fun instant => { instant })

def remotePayload (remote : RemoteOrder) (entry : RemotePayment) : RemotePayload :=
  (remote.fields.update entry.fields).payload

end Provider

section Writing

/-- The payment with the status the provider shows; a return of the money is put aside. -/
def reportedPayment (payment : Payment) (status : Option String) : Payment :=
  { payment with
    status := status.getD payment.status
    reconciliationStatus :=
      if status = some "refunded" ∨ status = some "charged_back" then some .RECONCILIATION_REQUIRED
      else payment.reconciliationStatus }

/-- The payment with the evidence of its confirmation. -/
def receivedPayment (payment : Payment) (remote : RemoteOrder) (entry : RemotePayment) : Payment :=
  let reported := reportedPayment payment (remoteStatus remote entry)
  { reported with amountReceived := remoteAmount remote entry <|> reported.amountReceived }

/-- `_payment_contribution` -/
def paymentContribution (db : Db) (payment : Payment) : Option Contribution :=
  let named := match payment.reference with
    | some (.contribution id) => db.contribution? id
    | _ => none
  named <|> db.contributions.find? (fun c => c.paymentId = some payment.id)

/-- How the writing of a confirmation ended, with what is committed. -/
inductive Written where
  | done (db : Db)
  /-- returned before the event counts as processed -/
  | aside (db : Db)
  | failed (db : Db)
  deriving DecidableEq, Repr

def webhookConfirmation (eventId : Nat) (remote : RemoteOrder) (entry : RemotePayment) :
    Confirmation where
  source := "WEBHOOK"
  webhookEventId := some eventId
  remotePayload := some (remotePayload remote entry)
  confirmedAt := remoteConfirmedAt entry

/-- Settle in the transaction of the event; an exception rolls all of it back. -/
def settleWritten (env : Env) (before db : Db) (clock : Int) (paymentId : Nat) (c : Confirmation) :
    Written :=
  match settleConfirmedPixPayment env db clock paymentId c with
  | .ok (db, _) => .done db
  | .error _ => .failed before

/-- The evidence of a loan payment is committed before the financial writer. -/
def writeLoanPayment (env : Env) (db : Db) (clock : Int) (payment : Payment) (remote : RemoteOrder)
    (entry : RemotePayment) : Written :=
  match approveOrReconcile env db clock payment.id (remoteConfirmedAt entry)
      (remotePayload remote entry) with
  | .ok (db, _) => .done db
  | .error _ => .failed db

def writeContributionPayment (env : Env) (before db : Db) (clock : Int) (payment : Payment)
    (c : Confirmation) : Written :=
  let wasSettled := (db.settlementOfPayment? payment.id).isSome
  if (paymentContribution db payment).any (fun x => x.cancelledAt.isSome) ∧ ¬ wasSettled then
    .aside (db.putPayment { payment with reconciliationStatus := some .RECONCILIATION_REQUIRED })
  else if payment.ledgerPostedAt.isNone ∨ wasSettled then
    settleWritten env before db clock payment.id c
  else .done db

def writeAgreementPayment (env : Env) (before db : Db) (clock : Int) (payment : Payment)
    (c : Confirmation) : Written :=
  if payment.ledgerPostedAt.isSome ∨
      ledgerHas db .AGREEMENT_INSTALLMENT_PAYMENT (toString payment.id) then .done db
  else settleWritten env before db clock payment.id c

def isContributionReference : Option PaymentReference → Bool
  | some (.contribution _) => true
  | _ => false

/-- The financial writer of a confirmed payment, `payment` carrying the evidence. -/
def writeConfirmed (env : Env) (before : Db) (clock : Int) (eventId : Nat) (payment : Payment)
    (remote : RemoteOrder) (entry : RemotePayment) : Written :=
  let db := before.putPayment payment
  let c := webhookConfirmation eventId remote entry
  match payment.reference with
  | some (.loanInstallment _) => writeLoanPayment env db clock payment remote entry
  | reference =>
    if isContributionReference reference ∨ (paymentContribution db payment).isSome then
      writeContributionPayment env before db clock payment c
    else match reference with
      | some (.agreementInstallment _) => writeAgreementPayment env before db clock payment c
      | _ => .done db

end Writing

section Events

/-- What a signed notification says, its type in lower case; a missing part is empty. -/
structure Notification where
  id : String
  type : String
  dataId : String
  deriving DecidableEq, Repr

/-- A notification without an id is named by its type and its resource. -/
def Notification.eventId (n : Notification) : String :=
  if n.id = "" then n.type ++ ":" ++ n.dataId else n.id

structure WebhookEvent where
  id : Nat
  eventId : String
  eventType : Option String
  resourceId : Option String
  processed : Bool
  deriving DecidableEq, Repr

/-- The database with the events of the provider. -/
structure Inbox where
  db : Db
  events : List WebhookEvent
  deriving DecidableEq, Repr

inductive Outcome where
  | inconsistent | unsigned | duplicate | processed | ignored | missingEvent | missingResource | orphan
  | ambiguousPayment | missingOrder | providerError | remoteIdentityMismatch | reconciliable
  | processingError
  deriving DecidableEq, Repr

def Inbox.event? (s : Inbox) (id : Nat) : Option WebhookEvent := lookup WebhookEvent.id s.events id

def Inbox.eventNamed? (s : Inbox) (eventId : String) : Option WebhookEvent :=
  s.events.find? (fun e => e.eventId = eventId)

def Inbox.putEvent (s : Inbox) (event : WebhookEvent) : Inbox :=
  { s with events := replace WebhookEvent.id s.events event }

/-- The event is processed and the database committed with it. -/
def Inbox.finish (s : Inbox) (event : WebhookEvent) (db : Db) : Inbox :=
  { s.putEvent { event with processed := true } with db }

/-- The payments of the provider the resource of an event names. -/
def eventPayments (db : Db) (eventType resource : String) : List Payment :=
  db.payments.filter (fun p => p.provider = "mercado_pago" ∧
    (if eventType = "order" then p.providerOrderId else p.providerPaymentId) = some resource)

/-- What is done with the entry of the order that is the payment. -/
def processPayment (env : Env) (s : Inbox) (clock : Int) (event : WebhookEvent) (payment : Payment)
    (remote : RemoteOrder) (entry : RemotePayment) : Inbox × Outcome :=
  if remoteConfirmed remote entry then
    match writeConfirmed env s.db clock event.id (receivedPayment payment remote entry) remote entry with
    | .done db => (s.finish event db, .processed)
    | .aside db => ({ s with db }, .reconciliable)
    | .failed db => ({ s with db }, .processingError)
  else
    (s.finish event (s.db.putPayment (reportedPayment payment (remoteStatus remote entry))), .processed)

/-- `_process_mercado_pago_event` -/
def processEvent (env : Env) (s : Inbox) (clock : Int) (id : Nat) (provider : Provider) :
    Inbox × Outcome :=
  match s.event? id with
  | none => (s, .missingEvent)
  | some event =>
    let eventType := event.eventType.getD ""
    let resource := strip (event.resourceId.getD "")
    if event.processed then (s, .processed)
    else if eventType ≠ "payment" ∧ eventType ≠ "order" then (s.finish event s.db, .ignored)
    else if resource = "" then (s, .missingResource)
    else match eventPayments s.db eventType resource with
      | [] => (s, .orphan)
      | [payment] =>
        match given payment.providerOrderId with
        | none => (s, .missingOrder)
        | some orderId =>
          match provider orderId with
          | none => (s, .providerError)
          | some remote =>
            match remotePayment payment remote with
            | none => (s, .remoteIdentityMismatch)
            | some entry => processPayment env s clock event payment remote entry
      | _ => (s, .ambiguousPayment)

/-- The event of a notification, stored at its first delivery. -/
def storeEvent (s : Inbox) (n : Notification) : Inbox × WebhookEvent :=
  match s.eventNamed? n.eventId with
  | some event => (s, event)
  | none =>
    let event : WebhookEvent :=
      { id := nextKey WebhookEvent.id s.events
        eventId := n.eventId
        eventType := given (some n.type)
        resourceId := given (some n.dataId)
        processed := false }
    ({ s with events := s.events ++ [event] }, event)

/-- The event with what an earlier delivery did not tell. -/
def completedEvent (event : WebhookEvent) (n : Notification) : WebhookEvent :=
  { event with
    resourceId := event.resourceId <|> given (some n.dataId)
    eventType := event.eventType <|> given (some n.type) }

/-- Two deliveries of one event tell different things. -/
def differs (stored : Option String) (told : String) : Prop :=
  (given stored).isSome ∧ told ≠ "" ∧ stored ≠ some told

instance (stored : Option String) (told : String) : Decidable (differs stored told) :=
  inferInstanceAs (Decidable (_ ∧ _))

/-- `mercado_pago_webhook`, for a notification with a valid signature. -/
def receiveNotification (env : Env) (s : Inbox) (clock : Int) (n : Notification)
    (provider : Provider) : Inbox × Outcome :=
  let (s, event) := storeEvent s n
  if differs event.resourceId n.dataId ∨ differs event.eventType n.type then (s, .inconsistent)
  else if (given event.resourceId).isSome ∧ n.dataId = "" then (s, .unsigned)
  else
    let event := completedEvent event n
    let s := s.putEvent event
    if event.processed then (s, .duplicate) else processEvent env s clock event.id provider

/-- The events a replay takes, in the order they came. -/
def replayable (event : WebhookEvent) : Bool :=
  ¬ event.processed ∧ (event.eventType = some "payment" ∨ event.eventType = some "order") ∧
    (given event.resourceId).isSome

def replaySelection (s : Inbox) (eventId : Option String) (limit : Nat) : List WebhookEvent :=
  (s.events.filter (fun e => replayable e ∧ eventId.all (fun id => e.eventId = id))).take limit

/-- `replay_mercado_pago_webhooks`, each event with what the provider answers at its turn. -/
def replayEvents (env : Env) (s : Inbox) (clock : Int) (eventId : Option String) (limit : Nat)
    (provider : Nat → Provider) : Inbox :=
  (replaySelection s eventId limit).foldl
    (fun s event => (processEvent env s clock event.id (provider event.id)).1) s

end Events

section Deliveries

/-- A signed notification, or the replay of a stored event. -/
inductive Delivery where
  | notified (n : Notification)
  | replayed (eventId : Nat)
  deriving DecidableEq, Repr

/-- One delivery with the clock and what the provider answers then. -/
structure Turn where
  delivery : Delivery
  clock : Int
  provider : Provider

def deliver (env : Env) (s : Inbox) (t : Turn) : Inbox :=
  match t.delivery with
  | .notified n => (receiveNotification env s t.clock n t.provider).1
  | .replayed id => (processEvent env s t.clock id t.provider).1

def deliverAll (env : Env) (s : Inbox) (turns : List Turn) : Inbox := turns.foldl (deliver env) s

end Deliveries

end Caixinha.Model
