import Caixinha.Effects.Operations
import Caixinha.Model.Webhook

/-! What the webhook does to the database: the payment it reports, the financial writer it calls, and
the keys it keeps. -/
namespace Caixinha.Effects

open Caixinha.Library Caixinha.Library.Table Fallible Caixinha.Model

/-- The tables of the database and the events are keyed. -/
structure SoundInbox (s : Inbox) : Prop where
  db : Sound s.db
  events : Keyed WebhookEvent.id s.events

/-- The database a writer leaves. -/
def written : Written → Db
  | .done db | .aside db | .failed db => db

/-- The columns of a payment that a report of the provider leaves as they are. -/
structure SameCharge (p q : Payment) : Prop where
  id_eq : q.id = p.id
  provider : q.provider = p.provider
  order : q.providerOrderId = p.providerOrderId
  remote : q.providerPaymentId = p.providerPaymentId
  reference : q.reference = p.reference
  posted : q.ledgerPostedAt = p.ledgerPostedAt
  attempt : q.attemptStatus = p.attemptStatus

section Report
variable {p : Payment} {remote : RemoteOrder} {entry : RemotePayment}

theorem sameCharge_reported (p : Payment) (status : Option String) :
    SameCharge p (reportedPayment p status) := ⟨rfl, rfl, rfl, rfl, rfl, rfl, rfl⟩

theorem sameCharge_received (p : Payment) (remote : RemoteOrder) (entry : RemotePayment) :
    SameCharge p (receivedPayment p remote entry) := ⟨rfl, rfl, rfl, rfl, rfl, rfl, rfl⟩

theorem status_of_confirmed (h : remoteConfirmed remote entry) :
    remoteStatus remote entry = some "approved" ∨ remoteStatus remote entry = some "processed" := by
  rw [remoteConfirmed, decide_eq_true_eq] at h
  exact h.imp id And.left

/-- The report of a confirmation puts nothing aside. -/
theorem received_reconciliation (h : remoteConfirmed remote entry) :
    (receivedPayment p remote entry).reconciliationStatus = p.reconciliationStatus := by
  rw [receivedPayment, reportedPayment]
  rcases status_of_confirmed h with hstatus | hstatus <;> simp [hstatus]

end Report

section Sound
variable {env : Env} {db before : Db} {clock : Int} {p q : Payment} {remote : RemoteOrder}
  {entry : RemotePayment} {c : Confirmation} {P : Db → Prop}

/-- A property of the database that every step keeps. -/
def StepKept (P : Db → Prop) : Prop :=
  ∀ {acted direct about x y}, Sound x → P x → Step acted direct about x y → P y

/-- The keys are sound and the property holds. -/
structure Kept (P : Db → Prop) (db : Db) : Prop where
  sound : Sound db
  holds : P db

private theorem stepKept_true : StepKept fun _ => True := fun _ _ _ => trivial

theorem Kept.step (h : Kept P db) (hP : StepKept P) {db' : Db} {acted : Payment → Prop} {direct : Prop}
    {about : Nat → Prop} (hstep : Step acted direct about db db') : Kept P db' :=
  ⟨hstep.sound h.sound, hP h.sound h.holds hstep⟩

theorem keeps_put (hP : StepKept P) (h : Kept P db) (hp : db.payment? p.id = some p)
    (hsame : SameCharge p q) : Kept P (db.putPayment q) := by
  have hstep : Step (fun _ => True) False (fun _ => False) db (db.putPayment q) :=
    step_putPayment h.sound (by rw [hsame.id_eq]; exact hp) hsame.reference
      ⟨by rw [hsame.posted]; exact id, by rw [hsame.attempt]; exact id⟩ trivial
  exact h.step hP hstep

theorem sound_put (hs : Sound db) (hp : db.payment? p.id = some p) (h : SameCharge p q) :
    Sound (db.putPayment q) := (keeps_put stepKept_true ⟨hs, trivial⟩ hp h).sound

theorem put_found (hp : db.payment? p.id = some p) (h : SameCharge p q) :
    (db.putPayment q).payment? q.id = some q :=
  lookup_replace_self (by rw [h.id_eq]; exact hp)

theorem keeps_settleWritten (hP : StepKept P) (hbefore : Kept P before) (h : Kept P db) :
    Kept P (written (settleWritten env before db clock p.id c)) := by
  unfold settleWritten
  split
  · rename_i db' s hsettle
    exact h.step hP (step_settle h.sound hsettle fun _ h => h)
  · exact hbefore

theorem keeps_approved {confirmedAt : Option Timestamp} {payload : RemotePayload} {db' : Db}
    {result : Option PaymentSettlement} (hP : StepKept P) (h : Kept P db)
    (happrove : approveOrReconcile env db clock p.id confirmedAt payload = .ok (db', result)) :
    Kept P db' := by
  obtain ⟨hs, hholds⟩ := steps_keep (steps_approve h.sound happrove)
    (fun x y hx hPx hstep => hP hx hPx hstep) h.sound h.holds
  exact ⟨hs, hholds⟩

/-- The financial writer takes steps only, whatever it writes. -/
theorem keeps_writeConfirmed {eventId : Nat} (hP : StepKept P) (hbefore : Kept P before)
    (hp : before.payment? p.id = some p) (h : SameCharge p q) :
    Kept P (written (writeConfirmed env before clock eventId q remote entry)) := by
  have hput : Kept P (before.putPayment q) := keeps_put hP hbefore hp h
  have hfound := put_found hp h
  unfold writeConfirmed
  dsimp only
  split
  · unfold writeLoanPayment
    split
    · rename_i happrove
      exact keeps_approved hP hput happrove
    · exact hput
  · split
    · unfold writeContributionPayment
      dsimp only
      split
      · exact keeps_put hP hput hfound ⟨rfl, rfl, rfl, rfl, rfl, rfl, rfl⟩
      split
      · exact keeps_settleWritten hP hbefore hput
      · exact hput
    · split
      · unfold writeAgreementPayment
        split
        · exact hput
        · exact keeps_settleWritten hP hbefore hput
      · exact hput

variable {s : Inbox} {event : WebhookEvent}

/-- The same of the database with its events. -/
structure KeptInbox (P : Db → Prop) (s : Inbox) : Prop where
  db : Kept P s.db
  events : Keyed WebhookEvent.id s.events

theorem KeptInbox.sound (h : KeptInbox P s) : SoundInbox s := ⟨h.db.sound, h.events⟩

theorem keeps_finish (hs : KeptInbox P s) {db : Db} (hdb : Kept P db) : KeptInbox P (s.finish event db) :=
  ⟨hdb, keyed_replace hs.events⟩

theorem keeps_processPayment (hP : StepKept P) (hs : KeptInbox P s)
    (hp : s.db.payment? p.id = some p) :
    KeptInbox P (processPayment env s clock event p remote entry).1 := by
  unfold processPayment
  split
  · have hwritten : Kept P (written (writeConfirmed env s.db clock event.id
        (receivedPayment p remote entry) remote entry)) :=
      keeps_writeConfirmed hP hs.db hp (sameCharge_received p remote entry)
    split <;> rename_i db hdb <;> rw [hdb] at hwritten
    · exact keeps_finish hs hwritten
    · exact ⟨hwritten, hs.events⟩
    · exact ⟨hwritten, hs.events⟩
  · exact keeps_finish hs (keeps_put hP hs.db hp (sameCharge_reported p _))

theorem mem_eventPayments {type resource : String} (hs : Sound db)
    (h : p ∈ eventPayments db type resource) : db.payment? p.id = some p :=
  lookup_of_mem hs.payments (List.mem_filter.mp h).1

theorem keeps_processEvent (hP : StepKept P) (hs : KeptInbox P s) (id : Nat) (provider : Provider) :
    KeptInbox P (processEvent env s clock id provider).1 := by
  unfold processEvent
  dsimp only
  split
  · exact hs
  split
  · exact hs
  split
  · exact keeps_finish hs hs.db
  split
  · exact hs
  split
  · exact hs
  · rename_i payment hmatch
    have hp : s.db.payment? payment.id = some payment :=
      mem_eventPayments hs.db.sound (hmatch ▸ List.mem_singleton_self payment)
    split
    · exact hs
    split
    · exact hs
    split
    · exact hs
    · exact keeps_processPayment hP hs hp
  · exact hs

theorem keeps_storeEvent (hs : KeptInbox P s) (n : Notification) : KeptInbox P (storeEvent s n).1 := by
  unfold storeEvent
  split
  · exact hs
  · exact ⟨hs.db, keyed_append hs.events rfl⟩

theorem sound_storeEvent (hs : SoundInbox s) (n : Notification) :
    SoundInbox (storeEvent s n).1 ∧
      ((storeEvent s n).1.event? (storeEvent s n).2.id = some (storeEvent s n).2) := by
  unfold storeEvent
  split
  · rename_i event hevent
    exact ⟨hs, lookup_of_mem hs.events (List.mem_of_find?_eq_some hevent)⟩
  · exact ⟨⟨hs.db, keyed_append hs.events rfl⟩, lookup_append_new lookup_nextKey⟩

@[simp] theorem completedEvent_id (event : WebhookEvent) (n : Notification) :
    (completedEvent event n).id = event.id := rfl

@[simp] theorem completedEvent_processed (event : WebhookEvent) (n : Notification) :
    (completedEvent event n).processed = event.processed := rfl

theorem keeps_receive (hP : StepKept P) (hs : KeptInbox P s) (n : Notification) (provider : Provider) :
    KeptInbox P (receiveNotification env s clock n provider).1 := by
  have hstored := keeps_storeEvent hs n
  unfold receiveNotification
  dsimp only
  split
  · exact hstored
  split
  · exact hstored
  have hcompleted : KeptInbox P ((storeEvent s n).1.putEvent (completedEvent (storeEvent s n).2 n)) :=
    ⟨hstored.db, keyed_replace hstored.events⟩
  split
  · exact hcompleted
  · exact keeps_processEvent hP hcompleted _ provider

/-- What every step keeps is kept by every delivery. -/
theorem keeps_deliver (hP : StepKept P) (hs : KeptInbox P s) (t : Turn) : KeptInbox P (deliver env s t) := by
  unfold deliver
  split
  · exact keeps_receive hP hs _ _
  · exact keeps_processEvent hP hs _ _

theorem sound_deliver (hs : SoundInbox s) (t : Turn) : SoundInbox (deliver env s t) :=
  (keeps_deliver stepKept_true ⟨⟨hs.db, trivial⟩, hs.events⟩ t).sound

end Sound

end Caixinha.Effects
