import Caixinha.Effects.Confirmations

/-! What a delivery comes to: the event it stores, the payment it names, and whether the financial
writer is called. -/
namespace Caixinha.Effects

open Caixinha.Library Caixinha.Library.Table Fallible Caixinha.Model

variable {env : Env} {db : Db} {clock : Int} {p q : Payment} {s : Inbox} {remote : RemoteOrder}
  {entry : RemotePayment}

section Deliveries

/-- A replay of the administrator is a run of replayed events. -/
theorem replayEvents_eq (clock : Int) (eventId : Option String) (limit : Nat)
    (provider : Nat → Provider) : replayEvents env s clock eventId limit provider =
      deliverAll env s ((replaySelection s eventId limit).map fun e =>
        ⟨.replayed e.id, clock, provider e.id⟩) := by
  rw [replayEvents, deliverAll, List.foldl_map]
  rfl

/-- The payment is one of the provider with both its ids. -/
structure Bound (db : Db) (p : Payment) : Prop where
  found : db.payment? p.id = some p
  provider : p.provider = "mercado_pago"
  order : (given p.providerOrderId).isSome
  remote : (given p.providerPaymentId).isSome

/-- A resource of the provider is the payment. -/
inductive Named (p : Payment) (type resource : String) : Prop where
  | payment (type_eq : type = "payment") (resource_eq : p.providerPaymentId = some (strip resource))
  | order (type_eq : type = "order") (resource_eq : p.providerOrderId = some (strip resource))

/-- What a delivery tells: the type and the resource. -/
def told (s : Inbox) : Delivery → Option (String × String)
  | .notified n => some (n.type, n.dataId)
  | .replayed id => (s.event? id).bind fun e =>
    if e.processed then none else some (e.eventType.getD "", e.resourceId.getD "")

/-- The delivery is about the payment, and the provider answers that its order is confirmed. -/
structure Confirming (s : Inbox) (t : Turn) (p : Payment) (remote : RemoteOrder) : Prop where
  bound : Bound s.db p
  about : ∃ type resource, told s t.delivery = some (type, resource) ∧ Named p type resource
  answered : ∃ orderId, given p.providerOrderId = some orderId ∧ t.provider orderId = some remote
  confirmed : remoteConfirmed remote ((remotePayment p remote).getD {})

/-- The event of a notification, named by its type and its resource where it has no id, is new or waits
to be processed and tells nothing else. -/
def FreshEvent (s : Inbox) : Delivery → Prop
  | .notified n =>
    ∀ e, s.events.find? (fun e => e.eventId = if n.id = "" then n.type ++ ":" ++ n.dataId else n.id) = some e →
      e.processed = false ∧ (e.eventType = none ∨ e.eventType = some n.type) ∧
        (e.resourceId = none ∨ e.resourceId = some n.dataId)
  | .replayed _ => True

/-- The row of the event of a delivery. -/
def eventRow (s : Inbox) : Delivery → Nat
  | .notified n => (storeEvent s n).2.id
  | .replayed id => id

/-- The order shows the payment as its only entry of that id, or stands for the payment itself. -/
def Shown (p : Payment) (remote : RemoteOrder) (entry : RemotePayment) : Prop :=
  (remote.payments = [] ∧ p.providerPaymentId = p.providerOrderId ∧ entry = {}) ∨
    (remote.payments ≠ [] ∧
      remote.payments.filter (fun r => r.id.isSome ∧ r.id = p.providerPaymentId) = [entry])

/-- No other payment of the provider is named by the resource. -/
def Alone (db : Db) (p : Payment) (type resource : String) : Prop :=
  ∀ q ∈ db.payments, q.provider = "mercado_pago" → Named q type resource → q = p

private theorem named_iff {type resource : String} (htype : type = "payment" ∨ type = "order") :
    Named q type resource ↔
      (if type = "order" then q.providerOrderId else q.providerPaymentId) = some (strip resource) := by
  rcases htype with rfl | rfl
  · simp only [String.reduceEq, if_false]
    constructor
    · rintro (⟨-, h⟩ | ⟨h, -⟩)
      · exact h
      · simp at h
    · exact fun h => .payment rfl h
  · simp only [if_true]
    constructor
    · rintro (⟨h, -⟩ | ⟨-, h⟩)
      · simp at h
      · exact h
    · exact fun h => .order rfl h

private theorem Named.type {type resource : String} (h : Named p type resource) :
    type = "payment" ∨ type = "order" := by
  cases h with
  | payment htype => exact .inl htype
  | order htype => exact .inr htype

private theorem Named.resource_ne {type resource : String} (h : Named p type resource)
    (hb : Bound db p) : strip resource ≠ "" := by
  intro hempty
  cases h with
  | payment _ hresource =>
    have := hb.remote
    rw [hresource, hempty] at this
    cases this
  | order _ hresource =>
    have := hb.order
    rw [hresource, hempty] at this
    cases this

private theorem mem_eventPayments_iff {type resource : String}
    (htype : type = "payment" ∨ type = "order") : q ∈ eventPayments db type (strip resource) ↔
      q ∈ db.payments ∧ q.provider = "mercado_pago" ∧ Named q type resource := by
  rw [eventPayments, List.mem_filter, decide_eq_true_eq, named_iff htype]

private theorem mem_eventPayments_self {type resource : String} (hb : Bound db p)
    (hn : Named p type resource) : p ∈ eventPayments db type (strip resource) :=
  (mem_eventPayments_iff hn.type).mpr ⟨lookup_mem hb.found, hb.provider, hn⟩

/-- The payments an event names are this one alone, or several. -/
private theorem eventPayments_iff {type resource : String} (hs : Sound db) (hb : Bound db p)
    (hn : Named p type resource) :
    eventPayments db type (strip resource) = [p] ↔ Alone db p type resource := by
  have hp := mem_eventPayments_self hb hn
  constructor
  · intro h q hq hprovider hnamed
    have := (mem_eventPayments_iff hn.type).mpr ⟨hq, hprovider, hnamed⟩
    rw [h] at this
    exact List.mem_singleton.mp this
  · intro h
    have hkeyed : Keyed Payment.id (eventPayments db type (strip resource)) :=
      hs.payments.sublist (List.filter_sublist.map _)
    rw [← filter_key_of_mem hkeyed hp, eq_comm, List.filter_eq_self]
    intro q hq
    obtain ⟨hq, hprovider, hnamed⟩ := (mem_eventPayments_iff hn.type).mp hq
    simp [h q hq hprovider hnamed]

/-- The order of a bound payment shows what the webhook takes for it. -/
theorem shown_iff (hb : Bound db p) : Shown p remote entry ↔ remotePayment p remote = some entry := by
  have hgiven := hb.remote
  have hsome : (given p.providerPaymentId).isNone = false := by
    rw [← Option.not_isSome, hgiven]
    rfl
  unfold Shown remotePayment
  by_cases hempty : remote.payments = []
  · by_cases hself : p.providerPaymentId = p.providerOrderId
    · have hstands : remote.payments.isEmpty ∧ (given p.providerPaymentId).isSome ∧
          p.providerPaymentId = p.providerOrderId := ⟨by rw [hempty]; rfl, hgiven, hself⟩
      rw [if_pos hstands.1, if_pos hstands.2, Option.some.injEq]
      simp only [hempty, hself, true_and, ne_eq, not_true_eq_false, false_and, or_false]
      exact eq_comm
    · rw [if_pos (by rw [hempty]; rfl), if_neg (fun h => hself h.2)]
      simp [hempty, hself]
  · rw [if_neg (by simpa using hempty), hsome]
    simp only [hempty, false_and, false_or, ne_eq, not_false_eq_true, true_and, Bool.false_eq_true, if_false]
    split
    · rename_i r hone
      rw [hone, List.cons.injEq, Option.some.injEq]
      simp
    · rename_i hmany
      refine iff_of_false (hmany entry) (by simp)

theorem processPayment_db {e : WebhookEvent} (h : remoteConfirmed remote entry) :
    (processPayment env s clock e p remote entry).1.db =
      written (writeConfirmed env s.db clock e.id (receivedPayment p remote entry) remote entry) := by
  rw [processPayment, if_pos h]
  split <;> rename_i db hdb <;> rw [hdb] <;> rfl

/-- Processing an event of a payment whose order is confirmed: the financial writer is called, or nothing
is written. -/
theorem processEvent_about (env : Env) (clock : Int) {id : Nat} {e : WebhookEvent} {provider : Provider}
    (he : s.event? id = some e) (hfresh : e.processed = false) (hs : SoundInbox s) (hb : Bound s.db p)
    (hn : Named p (e.eventType.getD "") (e.resourceId.getD ""))
    (hanswer : ∃ orderId, given p.providerOrderId = some orderId ∧ provider orderId = some remote)
    (hconfirmed : remoteConfirmed remote ((remotePayment p remote).getD {})) :
    (Alone s.db p (e.eventType.getD "") (e.resourceId.getD "") ∧
      ∃ entry, remotePayment p remote = some entry ∧ (processEvent env s clock id provider).1.db =
        written (writeConfirmed env s.db clock id (receivedPayment p remote entry) remote entry)) ∨
    (¬ (Alone s.db p (e.eventType.getD "") (e.resourceId.getD "") ∧ (remotePayment p remote).isSome) ∧
      (processEvent env s clock id provider).1.db = s.db) := by
  have htype : ¬ (e.eventType.getD "" ≠ "payment" ∧ e.eventType.getD "" ≠ "order") := by
    rintro ⟨h1, h2⟩
    exact hn.type.elim h1 h2
  obtain ⟨orderId, horder, hremote⟩ := hanswer
  have hid : e.id = id := lookup_key he
  have hmem : p ∈ eventPayments s.db (e.eventType.getD "") (strip (e.resourceId.getD "")) :=
    mem_eventPayments_self hb hn
  rw [← eventPayments_iff hs.db hb hn]
  unfold processEvent
  rw [he]
  simp only [hfresh, Bool.false_eq_true, if_false, htype, hn.resource_ne hb]
  split
  · rename_i hnone
    exact .inr ⟨by simp [hnone], rfl⟩
  · rename_i payment hone
    obtain rfl : p = payment := List.mem_singleton.mp (hone ▸ hmem)
    rw [horder]
    simp only [hremote]
    split
    · rename_i hmissing
      exact .inr ⟨by simp [hmissing], rfl⟩
    · rename_i entry hentry
      rw [hentry, Option.getD_some] at hconfirmed
      exact .inl ⟨hone, entry, hentry, by rw [processPayment_db hconfirmed, hid]⟩
  · rename_i hmany
    exact .inr ⟨fun h => hmany p h.1, rfl⟩

private theorem processEvent_unnamed {e : WebhookEvent} {id : Nat} {provider : Provider}
    (he : s.event? id = some e) (h : e.eventType.getD "" = "" ∨ strip (e.resourceId.getD "") = "") :
    (processEvent env s clock id provider).1.db = s.db := by
  unfold processEvent
  rw [he]
  dsimp only
  split
  · rfl
  rcases h with h | h
  · rw [if_pos (by simp [h])]
    rfl
  · split
    · rfl
    · rfl

private theorem given_some {text : String} (h : text ≠ "") : given (some text) = some text := by
  simp [given, h]

private theorem strip_empty : strip "" = "" := rfl

/-- A stored event that tells something else than the notification differs from it or is not named. -/
private theorem differs_of_other {stored : Option String} {text : String} (htext : text ≠ "")
    (h : ¬ (stored = none ∨ stored = some text)) : differs stored text ∨ stored = some "" := by
  cases stored with
  | none => simp at h
  | some x =>
    by_cases hx : x = ""
    · exact .inr (by rw [hx])
    · refine .inl ⟨by simp [given_some hx], htext, fun heq => h (.inr heq)⟩

private theorem not_differs {stored : Option String} {text : String}
    (h : stored = none ∨ stored = some text) : ¬ differs stored text := by
  rintro ⟨hgiven, -, hne⟩
  rcases h with rfl | rfl
  · cases hgiven
  · exact hne rfl

/-- What a delivery of a notification comes to: nothing, or the processing of its event. -/
private theorem receive_about (env : Env) (clock : Int) (n : Notification) (provider : Provider)
    (hs : SoundInbox s) (htype : n.type ≠ "") (hdata : n.dataId ≠ "") :
    (¬ FreshEvent s (.notified n) ∧ (receiveNotification env s clock n provider).1.db = s.db) ∨
      (FreshEvent s (.notified n) ∧ ∃ s' e, s'.db = s.db ∧ SoundInbox s' ∧
        s'.event? (eventRow s (.notified n)) = some e ∧ e.processed = false ∧
        e.eventType = some n.type ∧ e.resourceId = some n.dataId ∧
        (receiveNotification env s clock n provider).1 =
          (processEvent env s' clock (eventRow s (.notified n)) provider).1) := by
  obtain ⟨hstored, hfound⟩ := sound_storeEvent hs n
  have hdb : (storeEvent s n).1.db = s.db := by
    unfold storeEvent
    split <;> rfl
  have hfresh : FreshEvent s (.notified n) ↔ (storeEvent s n).2.processed = false ∧
      ((storeEvent s n).2.eventType = none ∨ (storeEvent s n).2.eventType = some n.type) ∧
      ((storeEvent s n).2.resourceId = none ∨ (storeEvent s n).2.resourceId = some n.dataId) := by
    change (∀ e, s.eventNamed? n.eventId = some e → _) ↔ _
    rw [storeEvent]
    cases hnamed : s.eventNamed? n.eventId with
    | some e => simp
    | none => simp [given_some htype, given_some hdata]
  have hrow : eventRow s (.notified n) = (storeEvent s n).2.id := rfl
  rw [hfresh, hrow]
  unfold receiveNotification
  generalize storeEvent s n = stored at hstored hfound hdb
  obtain ⟨s1, e⟩ := stored
  dsimp only at hstored hfound hdb ⊢
  have hcompleted : SoundInbox (s1.putEvent (completedEvent e n)) :=
    ⟨hstored.db, keyed_replace hstored.events⟩
  have hput : (s1.putEvent (completedEvent e n)).event? e.id = some (completedEvent e n) :=
    lookup_replace_self (x := e) (r := completedEvent e n) hfound
  by_cases htold : (e.eventType = none ∨ e.eventType = some n.type) ∧
      (e.resourceId = none ∨ e.resourceId = some n.dataId)
  · have hnot : ¬ (differs e.resourceId n.dataId ∨ differs e.eventType n.type) :=
      fun h => h.elim (not_differs htold.2) (not_differs htold.1)
    rw [if_neg hnot, if_neg (fun h => hdata h.2), completedEvent_processed, completedEvent_id]
    by_cases hprocessed : e.processed
    · refine .inl ⟨by simp [hprocessed], ?_⟩
      rw [if_pos hprocessed]
      exact hdb
    · rw [if_neg hprocessed]
      refine .inr ⟨⟨by simpa using hprocessed, htold⟩, s1.putEvent (completedEvent e n),
        completedEvent e n, hdb, hcompleted, hput, ?_, ?_, ?_, rfl⟩
      · simpa [completedEvent] using hprocessed
      · rcases htold.1 with h | h <;> simp [completedEvent, h, given_some htype]
      · rcases htold.2 with h | h <;> simp [completedEvent, h, given_some hdata]
  · refine .inl ⟨fun h => htold h.2, ?_⟩
    split
    · exact hdb
    · rename_i hsame
      rw [if_neg (fun h => hdata h.2), completedEvent_processed, completedEvent_id]
      split
      · exact hdb
      · rw [processEvent_unnamed hput ?_]
        · exact hdb
        obtain ⟨hresource, htype'⟩ := not_or.mp hsame
        rcases not_and_or.mp htold with h | h
        · refine .inl ?_
          rcases differs_of_other htype h with hyes | hempty
          · exact absurd hyes htype'
          · simp [completedEvent, hempty]
        · refine .inr ?_
          rcases differs_of_other hdata h with hyes | hempty
          · exact absurd hyes hresource
          · simp [completedEvent, hempty, strip_empty]

/-- Nobody else is named by what the delivery tells. -/
def AloneTold (s : Inbox) (delivery : Delivery) (p : Payment) : Prop :=
  ∀ type resource, told s delivery = some (type, resource) → Alone s.db p type resource

private theorem aloneTold_iff {delivery : Delivery} {type resource : String}
    (htold : told s delivery = some (type, resource)) :
    AloneTold s delivery p ↔ Alone s.db p type resource := by
  constructor
  · exact fun h => h type resource htold
  · intro halone type' resource' htold'
    rw [htold, Option.some.injEq, Prod.mk.injEq] at htold'
    obtain ⟨rfl, rfl⟩ := htold'
    exact halone

/-- A delivery that confirms a payment calls the financial writer for it, or writes nothing. -/
theorem deliver_about (env : Env) {t : Turn} (hs : SoundInbox s) (h : Confirming s t p remote) :
    (FreshEvent s t.delivery ∧ AloneTold s t.delivery p ∧
      ∃ entry, remotePayment p remote = some entry ∧ (deliver env s t).db =
        written (writeConfirmed env s.db t.clock (eventRow s t.delivery) (receivedPayment p remote entry)
          remote entry)) ∨
    (¬ (FreshEvent s t.delivery ∧ AloneTold s t.delivery p ∧ (remotePayment p remote).isSome) ∧
      (deliver env s t).db = s.db) := by
  obtain ⟨hb, ⟨type, resource, htold, hn⟩, hanswer, hconfirmed⟩ := h
  rw [aloneTold_iff htold]
  obtain ⟨delivery, clock, provider⟩ := t
  cases delivery with
  | replayed id =>
    obtain ⟨e, he, hopen⟩ := Option.bind_eq_some_iff.mp htold
    cases hprocessed : e.processed with
    | true => simp [hprocessed] at hopen
    | false =>
      simp only [hprocessed, Bool.false_eq_true, if_false, Option.some.injEq, Prod.mk.injEq] at hopen
      obtain ⟨rfl, rfl⟩ := hopen
      rcases processEvent_about env clock he hprocessed hs hb hn hanswer hconfirmed with h | h
      · exact .inl ⟨trivial, h⟩
      · exact .inr ⟨fun hall => h.1 hall.2, h.2⟩
  | notified n =>
    obtain ⟨rfl, rfl⟩ : n.type = type ∧ n.dataId = resource := by
      simpa [told] using htold
    have htype : n.type ≠ "" := by
      rcases hn.type with h | h <;> simp [h]
    have hdata : n.dataId ≠ "" := fun h => hn.resource_ne hb (by rw [h, strip_empty])
    rcases receive_about env clock n provider hs htype hdata with
      ⟨hstale, hsame⟩ | ⟨hfresh, s', e, hdb, hs', he, hopen, hetype, hresource, hresult⟩
    · exact .inr ⟨fun h => hstale h.1, hsame⟩
    · have hn' : Named p (e.eventType.getD "") (e.resourceId.getD "") := by
        rw [hetype, hresource]
        exact hn
      have hresult' : deliver env s ⟨.notified n, clock, provider⟩ = _ := hresult
      rw [hresult']
      have habout := processEvent_about env clock he hopen hs'
        (by rw [hdb]; exact hb) hn' hanswer hconfirmed
      rw [hdb, hetype, hresource] at habout
      rcases habout with h | h
      · exact .inl ⟨hfresh, h⟩
      · exact .inr ⟨fun hall => h.1 hall.2, h.2⟩

end Deliveries

end Caixinha.Effects
