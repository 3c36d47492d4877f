import Caixinha.Effects.Deliveries
import Caixinha.Library.Runs

/-! Redelivery: what a settled confirmation goes through when the provider tells it again. -/
namespace Caixinha.Properties.WebhookRedelivery

open Caixinha.Library Caixinha.Library.Table Fallible Caixinha.Model Caixinha.Effects

variable {env : Env} {db db' : Db} {clock : Int} {p q : Payment} {s : Inbox} {remote : RemoteOrder}
  {entry : RemotePayment}

section Again

/-- What a further delivery leaves of a payment it finds settled. -/
def redelivered (p : Payment) : Payment :=
  match p.reference with
  | some (.loanInstallment _) => { p with reconciliationStatus := some .RECONCILIATION_REQUIRED }
  | _ => p

/-- A loan attempt in its approval: approved, with the instant of the confirmation. -/
structure ApprovedLoan (env : Env) (p : Payment) (confirmedAt : Option Timestamp) : Prop where
  approved : p.attemptStatus = some .APPROVED
  valid : validSnapshot env p
  told : ∃ confirmed, confirmedAt = some confirmed ∧ p.confirmedAt = some confirmed.instant

/-- The row of a payment that the confirmation in `entry` settled: the report is already on it. -/
structure Concluded (env : Env) (db : Db) (p : Payment) (remote : RemoteOrder) (entry : RemotePayment) :
    Prop where
  found : db.payment? p.id = some p
  settled : (db.settlementOfPayment? p.id).isSome
  held : remotePayment p remote = some entry
  reported : receivedPayment p remote entry = p
  loan : ∀ k, p.reference = some (.loanInstallment k) → ApprovedLoan env p (remoteConfirmedAt entry)

private theorem redelivered_loan {k : Nat} (h : p.reference = some (.loanInstallment k)) :
    redelivered p = { p with reconciliationStatus := some .RECONCILIATION_REQUIRED } := by
  rw [redelivered, h]

private theorem redelivered_other (h : ∀ k, p.reference ≠ some (.loanInstallment k)) :
    redelivered p = p := by
  unfold redelivered
  split
  · rename_i k href
    exact absurd href (h k)
  · rfl

theorem redelivered_id (p : Payment) : (redelivered p).id = p.id := by
  unfold redelivered
  split <;> rfl

theorem redelivered_reference (p : Payment) : (redelivered p).reference = p.reference := by
  unfold redelivered
  split <;> rfl

theorem redelivered_redelivered (p : Payment) : redelivered (redelivered p) = redelivered p := by
  by_cases hloan : ∃ k, p.reference = some (.loanInstallment k)
  · obtain ⟨k, hk⟩ := hloan
    have hk' : (redelivered p).reference = some (.loanInstallment k) :=
      (redelivered_reference p).trans hk
    rw [redelivered_loan hk', redelivered_loan hk]
  · rw [redelivered_other (not_exists.mp hloan), redelivered_other (not_exists.mp hloan)]

/-- The row stays as it is unless it is of a loan installment and was not put aside before. -/
theorem redelivered_eq_iff (p : Payment) : redelivered p = p ↔
    (∀ k, p.reference ≠ some (.loanInstallment k)) ∨
      p.reconciliationStatus = some .RECONCILIATION_REQUIRED := by
  by_cases hloan : ∃ k, p.reference = some (.loanInstallment k)
  · obtain ⟨k, hk⟩ := hloan
    rw [redelivered_loan hk]
    constructor
    · intro h
      exact .inr (by rw [← h])
    · rintro (hnone | hset)
      · exact absurd hk (hnone k)
      · rw [← hset]
  · exact iff_of_true (redelivered_other (not_exists.mp hloan)) (.inl (not_exists.mp hloan))

private theorem settle_existing {c : Confirmation} {x : PaymentSettlement} (hsource : c.source ≠ "")
    (hp : db.payment? p.id = some p) (hx : db.settlementOfPayment? p.id = some x) :
    settleConfirmedPixPayment env db clock p.id c = .ok (db, x) := by
  unfold settleConfirmedPixPayment
  simp [refuseIf, hsource, orRefuse, hp, hx]

/-- The writer finds the payment settled: nothing changes but the reconciliation status of a loan
payment. -/
theorem write_again {eventId : Nat} (hs : Sound db) (h : Concluded env db p remote entry) :
    written (writeConfirmed env db clock eventId (receivedPayment p remote entry) remote entry) =
      db.putPayment (redelivered p) := by
  obtain ⟨x, hx⟩ := Option.isSome_iff_exists.mp h.settled
  have hself : db.putPayment p = db := by
    rw [Db.putPayment, replace_self hs.payments h.found]
  have hagain : ∀ c, c.source ≠ "" → written (settleWritten env db db clock p.id c) = db := by
    intro c hsource
    rw [settleWritten, settle_existing hsource h.found hx]
    rfl
  have hcontribution : ∀ c, c.source ≠ "" →
      written (writeContributionPayment env db db clock p c) = db := by
    intro c hsource
    unfold writeContributionPayment
    simp only [hx, Option.isSome_some, not_true_eq_false, and_false, if_false, or_true, if_true]
    exact hagain c hsource
  have hsource : (webhookConfirmation eventId remote entry).source ≠ "" := by
    simp [webhookConfirmation]
  rw [h.reported]
  unfold writeConfirmed
  dsimp only
  rw [hself]
  split
  · rename_i k href
    obtain ⟨happroved, hvalid, confirmed, hconf, hinstant⟩ := h.loan k href
    have hsame : confirmedBy p (some confirmed) = p := by
      have hat : (some confirmed.instant <|> p.confirmedAt) = p.confirmedAt := hinstant.symm
      rw [confirmedBy, Option.map_some, hat]
    rw [redelivered_loan href, writeLoanPayment, approveOrReconcile, h.found, orRefuse, ok_bind, hconf,
      hsame, reconcileAttempt]
    simp [href, happroved, hvalid, setAside, written]
  · rename_i hother
    rw [redelivered_other hother, hself]
    split
    · exact hcontribution _ hsource
    · split
      · unfold writeAgreementPayment
        split
        · rfl
        · exact hagain _ hsource
      · rfl

end Again

section First
variable {c : Confirmation} {x : PaymentSettlement} {app : Application} {effectiveAt received : Int}

/-- A first settlement replaces the row of its payment alone. -/
private theorem settled_row (hs : Sound db) (hp : db.payment? p.id = some p)
    (hnone : db.settlementOfPayment? p.id = none)
    (h : settleConfirmedPixPayment env db clock p.id c = .ok (db', x)) :
    ∃ app, db'.payments = replace Payment.id db.payments
      (settledPayment p c clock (effectiveInstant clock p c) (receivedAmount p) app) := by
  obtain ⟨payment, hpayment, -, ⟨hfound, -⟩ | ⟨-, hposted, -, app, happ, hrecord⟩⟩ := settle_cases h
  · rw [hnone] at hfound
    cases hfound
  · obtain rfl : p = payment := Option.some.inj (hp.symm.trans hpayment)
    obtain ⟨hkeyed, hpayments⟩ : Keyed LoanInstallment.id app.db.loanInstallments ∧
        app.db.payments = db.payments := by
      rcases applyToObligation_cases happ with ⟨inst, agreement, -, -, -, hbranch⟩ |
        ⟨y, -, hbranch⟩ | ⟨inst, -, -, hbranch⟩
      · obtain ⟨row, _, _, -, -, -, -, -, -, -, rfl⟩ := applyToAgreementInstallment_spec hbranch
        exact ⟨hs.installments, rfl⟩
      · obtain ⟨locked, account, rows, hlock, -, -, rfl⟩ := applyToContribution_spec hposted hbranch
        obtain ⟨accounts, rfl, -⟩ := lockMemberFinancialAccount_spec hlock
        exact ⟨hs.installments, rfl⟩
      · obtain ⟨new, happlied, -, -⟩ := installment_applied hs hbranch
        exact ⟨keyed_of_keys happlied.installments hs.installments, happlied.payments⟩
    obtain ⟨_, _, -, -, -, -, hdb⟩ := recordSettlement_spec hkeyed hrecord
    exact ⟨app, by rw [hdb, hpayments]⟩

/-- The columns of a payment that its settlement leaves as they are. -/
structure SameAttempt (p q : Payment) : Prop where
  id_eq : q.id = p.id
  order : q.providerOrderId = p.providerOrderId
  remote : q.providerPaymentId = p.providerPaymentId
  reference : q.reference = p.reference
  status : q.status = p.status
  text : q.financialSnapshotJson = p.financialSnapshotJson
  digest : q.snapshotHash = p.snapshotHash

private theorem confirmedPayment_same (p : Payment) :
    SameAttempt p (confirmedPayment p c clock effectiveAt received) := by
  unfold confirmedPayment persistRemotePayload
  split <;> exact ⟨rfl, rfl, rfl, rfl, rfl, rfl, rfl⟩

private theorem settledPayment_same (p : Payment) :
    SameAttempt p (settledPayment p c clock effectiveAt received app) := by
  unfold settledPayment releaseAttempt
  split
  · obtain ⟨h1, h2, h3, h4, h5, h6, h7⟩ :
        SameAttempt p (confirmedPayment p c clock effectiveAt received) := confirmedPayment_same p
    exact ⟨h1, h2, h3, h4, h5, h6, h7⟩
  · exact confirmedPayment_same p

/-- No settlement releases the attempt of a loan payment. -/
private theorem settledPayment_loan {k : Nat} (h : p.reference = some (.loanInstallment k)) :
    settledPayment p c clock effectiveAt received app =
      confirmedPayment p c clock effectiveAt received := by
  have href : (confirmedPayment p c clock effectiveAt received).reference = some (.loanInstallment k) :=
    (confirmedPayment_same p).reference.trans h
  have hkind : sameKind app.obligation (confirmedPayment p c clock effectiveAt received) = false := by
    unfold sameKind
    rw [href]
    split <;> simp_all
  rw [settledPayment, releaseAttempt, if_neg]
  simp [releasesAttempt, hkind]

private theorem confirmedPayment_attempt (p : Payment) :
    (confirmedPayment p c clock effectiveAt received).attemptStatus = p.attemptStatus ∧
      (confirmedPayment p c clock effectiveAt received).confirmedAt =
        some (p.confirmedAt.getD effectiveAt) := by
  unfold confirmedPayment persistRemotePayload
  split <;> exact ⟨rfl, rfl⟩

/-- The payment carries what the provider tells in `entry`. -/
structure Told (p : Payment) (remote : RemoteOrder) (entry : RemotePayment) : Prop where
  held : remotePayment p remote = some entry
  status : remoteStatus remote entry = some p.status
  amount : ∀ cents, remoteAmount remote entry = some cents → p.amountReceived = some cents

private theorem remotePayment_congr (h : q.providerOrderId = p.providerOrderId)
    (h' : q.providerPaymentId = p.providerPaymentId) : remotePayment q remote = remotePayment p remote := by
  rw [remotePayment, remotePayment, h, h']

private theorem told_received (hconfirmed : remoteConfirmed remote entry)
    (hheld : remotePayment p remote = some entry) :
    Told (receivedPayment p remote entry) remote entry := by
  have hsame := sameCharge_received p remote entry
  refine ⟨(remotePayment_congr hsame.order hsame.remote).trans hheld, ?_, fun cents h => ?_⟩
  · rcases status_of_confirmed hconfirmed with hstatus | hstatus <;>
      simp [receivedPayment, reportedPayment, hstatus]
  · simp [receivedPayment, h]

/-- What is already on a payment is told again without change. -/
private theorem Told.again (h : Told p remote entry) (hconfirmed : remoteConfirmed remote entry) :
    receivedPayment p remote entry = p := by
  have hamount : (remoteAmount remote entry <|> p.amountReceived) = p.amountReceived := by
    cases hcents : remoteAmount remote entry with
    | none => rfl
    | some cents => exact (h.amount cents hcents).symm
  have hopen := received_reconciliation (p := p) hconfirmed
  rw [receivedPayment, reportedPayment, h.status] at hopen ⊢
  dsimp only at hopen ⊢
  rw [hopen, hamount, Option.getD_some]

private theorem Told.settled (h : Told p remote entry) : Told
    (settledPayment p c clock effectiveAt (receivedAmount p) app) remote entry := by
  have hsame : SameAttempt p (settledPayment p c clock effectiveAt (receivedAmount p) app) :=
    settledPayment_same p
  have hpaid : PaidAs p (receivedAmount p)
      (settledPayment p c clock effectiveAt (receivedAmount p) app) := settledPayment_paidAs clock
  refine ⟨(remotePayment_congr hsame.order hsame.remote).trans h.held, ?_, fun cents hcents => ?_⟩
  · rw [h.status, hsame.status]
  · rw [hpaid.amountReceived, receivedAmount, h.amount cents hcents]
    rfl

private theorem ApprovedLoan.settled {k : Nat} {confirmedAt : Option Timestamp}
    (h : ApprovedLoan env p confirmedAt) (href : p.reference = some (.loanInstallment k)) :
    ApprovedLoan env (settledPayment p c clock effectiveAt received app) confirmedAt := by
  obtain ⟨happroved, hvalid, confirmed, hconf, hinstant⟩ := h
  have hsame : SameAttempt p (confirmedPayment p c clock effectiveAt received) :=
    confirmedPayment_same p
  obtain ⟨hattempt, hat⟩ : (confirmedPayment p c clock effectiveAt received).attemptStatus =
      p.attemptStatus ∧ _ := confirmedPayment_attempt p
  rw [settledPayment_loan href]
  refine ⟨hattempt.trans happroved, ?_, confirmed, hconf, ?_⟩
  · rw [validSnapshot, hsame.text, hsame.digest]
    exact hvalid
  · rw [hat, hinstant]
    rfl

private theorem concluded_of_settle (hs : Sound db) (hp : db.payment? p.id = some p)
    (hnone : db.settlementOfPayment? p.id = none) (hconfirmed : remoteConfirmed remote entry)
    (htold : Told p remote entry)
    (hloan : ∀ k, p.reference = some (.loanInstallment k) → ApprovedLoan env p (remoteConfirmedAt entry))
    (h : settleConfirmedPixPayment env db clock p.id c = .ok (db', x)) :
    ∃ q, q.id = p.id ∧ q.reference = p.reference ∧ Concluded env db' q remote entry := by
  obtain ⟨app, hpayments⟩ := settled_row hs hp hnone h
  have hsame : SameAttempt p
      (settledPayment p c clock (effectiveInstant clock p c) (receivedAmount p) app) :=
    settledPayment_same p
  have hnext : Told (settledPayment p c clock (effectiveInstant clock p c) (receivedAmount p) app)
    remote entry := htold.settled
  refine ⟨_, hsame.id_eq, hsame.reference, ?_, ?_, hnext.held, hnext.again hconfirmed, fun k hk => ?_⟩
  · rw [Db.payment?, hpayments]
    exact lookup_replace_self (by rw [hsame.id_eq]; exact hp)
  · rw [hsame.id_eq]
    exact settled_of_settle hs h
  · have href : p.reference = some (.loanInstallment k) := hsame.reference.symm.trans hk
    exact (hloan k href).settled href

private theorem unsettled_put {y : Payment} (h : db.settlementOfPayment? p.id = none) :
    (db.putPayment y).settlementOfPayment? p.id = none := h

private theorem concluded_of_approve {payload : RemotePayload} {result : Option PaymentSettlement}
    (hs : Sound db) (hp : db.payment? p.id = some p) (hnone : db.settlementOfPayment? p.id = none)
    (hconfirmed : remoteConfirmed remote entry) (htold : Told p remote entry)
    (h : approveOrReconcile env db clock p.id (remoteConfirmedAt entry) payload = .ok (db', result))
    (hset : (db'.settlementOfPayment? p.id).isSome) :
    ∃ q, q.id = p.id ∧ q.reference = p.reference ∧ Concluded env db' q remote entry := by
  obtain ⟨found, hfound, happroval⟩ := approve_cases h
  obtain rfl : p = found := Option.some.inj (hp.symm.trans hfound)
  have hkept : ∀ {charged : Db} {y : Payment}, charged.settlements = db.settlements →
      ¬ ((charged.putPayment y).settlementOfPayment? p.id).isSome := by
    intro charged y hsettlements hyes
    rw [Db.settlementOfPayment?, Db.putPayment, hsettlements, ← Db.settlementOfPayment?, hnone] at hyes
    cases hyes
  cases happroval with
  | aside => exact absurd hset (hkept rfl)
  | expired => exact absurd hset (hkept rfl)
  | mismatch hquoted => exact absurd hset (hkept (by rw [(hquoted.charges hs).only]))
  | already hquoted => exact absurd hset (hkept (by rw [(hquoted.charges hs).only]))
  | @settled id confirmed charged due snapshot _ x hquoted _ hunsettled hsettle =>
    have hcharged := hquoted.charges hs
    have hstep : Step (fun y => y.id = p.id) False (fun _ => False) db
        (charged.putPayment (approvedAttempt (confirmedBy p (remoteConfirmedAt entry)))) :=
      step_chargedPut hs hcharged hp rfl rfl ⟨fun h => h, fun h => by cases h⟩
    have hrow : (charged.putPayment (approvedAttempt (confirmedBy p (remoteConfirmedAt entry)))).payment?
        p.id = some (approvedAttempt (confirmedBy p (remoteConfirmedAt entry))) := by
      have hcharge : charged.payment? p.id = some p := by
        rw [Db.payment?, hcharged.only]
        exact hp
      exact lookup_replace_self hcharge
    have hloan : ApprovedLoan env (approvedAttempt (confirmedBy p (remoteConfirmedAt entry)))
        (remoteConfirmedAt entry) := by
      refine ⟨rfl, hquoted.valid, confirmed, hquoted.told, ?_⟩
      rw [hquoted.told]
      rfl
    exact concluded_of_settle (p := approvedAttempt (confirmedBy p (remoteConfirmedAt entry)))
      (hstep.sound hs) hrow hunsettled hconfirmed ⟨htold.held, htold.status, htold.amount⟩
      (fun _ _ => hloan) hsettle

/-- The delivery that settles a payment leaves its row concluded. -/
theorem concluded_of_first {eventId : Nat} (hs : Sound db) (hp : db.payment? p.id = some p)
    (hconfirmed : remoteConfirmed remote entry) (hheld : remotePayment p remote = some entry)
    (hnone : db.settlementOfPayment? p.id = none)
    (hset : ((written (writeConfirmed env db clock eventId (receivedPayment p remote entry) remote
      entry)).settlementOfPayment? p.id).isSome) :
    ∃ q, q.id = p.id ∧ q.reference = p.reference ∧ Concluded env (written (writeConfirmed env db clock
      eventId (receivedPayment p remote entry) remote entry)) q remote entry := by
  have hsame := sameCharge_received p remote entry
  have hput := sound_put hs hp hsame
  have hfound := put_found hp hsame
  have htold := told_received hconfirmed hheld
  rw [← hsame.id_eq, ← hsame.reference]
  rw [← hsame.id_eq] at hnone hset
  generalize receivedPayment p remote entry = q at *
  have hsettle : ∀ c, (∀ k, q.reference ≠ some (.loanInstallment k)) →
      ((written (settleWritten env db (db.putPayment q) clock q.id c)).settlementOfPayment?
        q.id).isSome →
      ∃ y, y.id = q.id ∧ y.reference = q.reference ∧
        Concluded env (written (settleWritten env db (db.putPayment q) clock q.id c)) y remote entry := by
    intro c hnot hset
    unfold settleWritten at hset ⊢
    split at hset
    · rename_i db' x hok
      exact concluded_of_settle hput hfound hnone hconfirmed htold (fun k hk => absurd hk (hnot k)) hok
    · rw [written, hnone] at hset
      cases hset
  have hnothing : ((db.putPayment q).settlementOfPayment? q.id).isSome → False := by
    intro hyes
    rw [unsettled_put hnone] at hyes
    cases hyes
  have hcontribution : ∀ c, (∀ k, q.reference ≠ some (.loanInstallment k)) →
      ((written (writeContributionPayment env db (db.putPayment q) clock q c)).settlementOfPayment?
        q.id).isSome →
      ∃ y, y.id = q.id ∧ y.reference = q.reference ∧
        Concluded env (written (writeContributionPayment env db (db.putPayment q) clock q c)) y remote
          entry := by
    intro c hnot hset
    unfold writeContributionPayment at hset ⊢
    dsimp only at hset ⊢
    split_ifs at hset ⊢
    · exact absurd hset hnothing
    · exact hsettle c hnot hset
    · exact absurd hset hnothing
  unfold writeConfirmed at hset ⊢
  dsimp only at hset ⊢
  split at hset
  · rename_i k href
    unfold writeLoanPayment at hset ⊢
    split at hset
    · rename_i db' result happrove
      exact concluded_of_approve hput hfound hnone hconfirmed htold happrove hset
    · exact absurd hset hnothing
  · rename_i hnot
    split_ifs at hset ⊢
    · exact hcontribution _ hnot hset
    · split at hset
      · unfold writeAgreementPayment at hset ⊢
        split_ifs at hset ⊢
        · exact absurd hset hnothing
        · exact hsettle _ hnot hset
      · exact absurd hset hnothing

end First

section Runs

/-- A notification of a new event that names the payment alone, while the provider shows the same order. -/
structure Redelivery (s : Inbox) (t : Turn) (id : Nat) (remote : RemoteOrder) : Prop where
  fresh : ∃ n, t.delivery = .notified n ∧ s.eventNamed? n.eventId = none
  confirming : ∃ q, q.id = id ∧ Confirming s t q remote ∧ AloneTold s t.delivery q

private theorem deliver_again {t : Turn} (hs : SoundInbox s) (h : Concluded env s.db p remote entry)
    (hr : Redelivery s t p.id remote) : (deliver env s t).db = s.db.putPayment (redelivered p) := by
  obtain ⟨⟨n, hn, hnew⟩, q, hid, hconfirming, halone⟩ := hr
  have hq := hconfirming.bound.found
  rw [hid, h.found, Option.some.injEq] at hq
  subst hq
  have hfresh : FreshEvent s t.delivery := by
    rw [hn]
    intro e he
    change s.eventNamed? n.eventId = some e at he
    rw [hnew] at he
    cases he
  rcases deliver_about env hs hconfirming with ⟨-, -, entry', hentry, hdb⟩ | ⟨hlost, -⟩
  · rw [h.held, Option.some.injEq] at hentry
    subst hentry
    rw [hdb, write_again hs.db h]
  · exact absurd ⟨hfresh, halone, by rw [h.held]; rfl⟩ hlost

private theorem received_aside {status : Option ReconciliationStatus}
    (hconfirmed : remoteConfirmed remote entry) :
    receivedPayment { p with reconciliationStatus := status } remote entry =
      { receivedPayment p remote entry with reconciliationStatus := status } := by
  rcases status_of_confirmed hconfirmed with h | h <;> simp [receivedPayment, reportedPayment, h]

private theorem concluded_again (hconfirmed : remoteConfirmed remote entry)
    (h : Concluded env db p remote entry) :
    Concluded env (db.putPayment (redelivered p)) (redelivered p) remote entry := by
  have hfound : (db.putPayment (redelivered p)).payment? (redelivered p).id = some (redelivered p) :=
    lookup_replace_self (by rw [redelivered_id]; exact h.found)
  by_cases hloan : ∃ k, p.reference = some (.loanInstallment k)
  · obtain ⟨k, hk⟩ := hloan
    obtain ⟨happroved, hvalid, htold⟩ := h.loan k hk
    rw [redelivered_loan hk] at hfound ⊢
    refine ⟨hfound, h.settled, h.held, ?_, fun _ _ => ⟨happroved, hvalid, htold⟩⟩
    rw [received_aside hconfirmed, h.reported]
  · rw [redelivered_other (not_exists.mp hloan)] at hfound ⊢
    exact ⟨hfound, h.settled, h.held, h.reported, h.loan⟩

/-- After any number of redeliveries the payment is what the first of them made of it. -/
theorem deliverAll_again (hconfirmed : remoteConfirmed remote entry) (turns : List Turn)
    (hs : SoundInbox s) (h : Concluded env s.db p remote entry)
    (hturns : ∀ done t, done ++ [t] <+: turns → Redelivery (deliverAll env s done) t p.id remote) :
    (deliverAll env s turns).db = if turns = [] then s.db else s.db.putPayment (redelivered p) := by
  induction turns generalizing s p with
  | nil => rfl
  | cons t turns ih =>
    have hfirst := deliver_again hs h (hturns [] t (by simp))
    have hnext : Concluded env (deliver env s t).db (redelivered p) remote entry := by
      rw [hfirst]
      exact concluded_again hconfirmed h
    have hrest := ih (sound_deliver hs t) hnext fun done u hmore => by
      rw [redelivered_id]
      exact hturns (t :: done) u (List.cons_prefix_cons.mpr ⟨rfl, hmore⟩)
    have hcons : deliverAll env s (t :: turns) = deliverAll env (deliver env s t) turns := rfl
    rw [hcons, hrest, hfirst, redelivered_redelivered, if_neg (List.cons_ne_nil t turns)]
    split
    · rfl
    · rw [Db.putPayment, Db.putPayment, replace_replace rfl]

/-- After the delivery that settled a payment, any further deliveries of the same order leave the
database exactly as it is when there are none, when the payment is not of a loan installment, or when
that payment already waited for reconciliation. -/
theorem redelivery_unchanged_iff (env : Env) (s : Inbox) (hs : SoundInbox s) (first : Turn) (p : Payment)
    (remote : RemoteOrder) (hfirst : Confirming s first p remote)
    (hunsettled : s.db.settlementOfPayment? p.id = none)
    (hsettled : ((deliver env s first).db.settlementOfPayment? p.id).isSome) (turns : List Turn)
    (hturns : ∀ done t, done ++ [t] <+: turns →
      Redelivery (deliverAll env (deliver env s first) done) t p.id remote) :
    (deliverAll env (deliver env s first) turns).db = (deliver env s first).db ↔
      turns = [] ∨ (∀ k, p.reference ≠ some (.loanInstallment k)) ∨
        ∃ q, (deliver env s first).db.payment? p.id = some q ∧
          q.reconciliationStatus = some .RECONCILIATION_REQUIRED := by
  rcases deliver_about env hs hfirst with ⟨-, -, entry, hentry, hdb⟩ | ⟨-, hdb⟩
  · have hconfirmed := hfirst.confirmed
    rw [hentry, Option.getD_some] at hconfirmed
    obtain ⟨q, hid, href, hq⟩ : ∃ q, q.id = p.id ∧ q.reference = p.reference ∧
        Concluded env (deliver env s first).db q remote entry := by
      rw [hdb] at hsettled ⊢
      exact concluded_of_first hs.db hfirst.bound.found hconfirmed hentry hunsettled hsettled
    have hs' : SoundInbox (deliver env s first) := sound_deliver hs first
    rw [deliverAll_again hconfirmed turns hs' hq (by rw [hid]; exact hturns), ← hid, ← href, hq.found]
    have hsame : (deliver env s first).db.putPayment (redelivered q) = (deliver env s first).db ↔
        redelivered q = q := by
      constructor
      · intro h
        have hrow : ((deliver env s first).db.putPayment (redelivered q)).payment? q.id =
            some (redelivered q) := by
          rw [← redelivered_id q]
          exact lookup_replace_self (by rw [redelivered_id]; exact hq.found)
        rw [h, hq.found, Option.some.injEq] at hrow
        exact hrow.symm
      · intro h
        rw [h, Db.putPayment, replace_self hs'.db.payments hq.found]
    by_cases hnil : turns = []
    · simp [hnil]
    · rw [if_neg hnil, hsame, redelivered_eq_iff]
      simp [hnil]
  · rw [hdb, hunsettled] at hsettled
    cases hsettled

end Runs

section Samples

private def sampleInstallment : LoanInstallment where
  id := 1
  loanId := 1
  number := 1
  dueDate := 20000
  principal := 100000
  interest := 0
  amount := 100000
  paidAmount := 0
  penaltyAmount := 0
  paidPenaltyAmount := 0
  lateCharge := none
  paidAt := none
  status := .PENDING

private def sampleLoan : Loan where
  id := 1
  memberId := 1
  principal := 100000
  principalSettledWithOwnBalance := 0
  calculationVersion := none
  status := .ACTIVE
  disbursedAt := some 0
  paidAt := none
  stateRevision := 0

private def sampleClock : Int := 20000 * dayLength + belemOffset

/-- The bound attempt of the day; its snapshot is the shortest text that reads as one. -/
private def samplePayment : Payment where
  id := 1
  provider := "mercado_pago"
  providerOrderId := some "ORD1"
  providerPaymentId := some "PAY1"
  amount := 100000
  status := "pending"
  externalReference := some "loan-installment-1"
  pixTxid := none
  endToEndId := none
  providerStatusDetail := none
  confirmedAt := none
  expiresAt := some (localExpiryUtc 20000)
  amountReceived := none
  ledgerPostedAt := none
  reference := some (.loanInstallment 1)
  attemptStatus := some .PENDING
  calculatedForDate := some 20000
  financialSnapshotJson := some "{}"
  snapshotHash := some "digest"
  reconciliationStatus := none

private def sampleEnv : Env where
  sha256 := fun _ => "digest"
  lateChargeEffectiveDate := none

@[irreducible] private def sampleInbox : Inbox where
  db := { members := [{ id := 1 }], loans := [sampleLoan], loanInstallments := [sampleInstallment],
          payments := [samplePayment] }
  events := []

private def sampleOrder : RemoteOrder where
  payments := [{ id := some "PAY1", status := some "approved", amounts := [100000],
                 approvedAt := some sampleClock }]

private def sampleTurn (id : String) : Turn where
  delivery := .notified { id, type := "payment", dataId := "PAY1" }
  clock := sampleClock
  provider := fun _ => some sampleOrder

/-- The states the two deliveries leave. -/
@[irreducible] private def sampleSettled : Inbox := deliver sampleEnv sampleInbox (sampleTurn "first")

@[irreducible] private def sampleAgain : Inbox := deliver sampleEnv sampleSettled (sampleTurn "second")

private theorem sampleInbox_sound : SoundInbox sampleInbox := by
  unfold sampleInbox
  refine ⟨⟨?_, ?_, ?_, ?_, ?_, ?_, ?_, ?_, ?_, ⟨List.nodup_nil, ?_⟩⟩, List.nodup_nil⟩
  all_goals decide

/-- The one payment stands with the ids of the provider and the reconciliation status. -/
private def sampleStands (reference : PaymentReference) (status : Option ReconciliationStatus) (s : Inbox) :
    Bool :=
  s.db.payments.length = 1 ∧ s.db.payments.all fun p => p.id = 1 ∧ p.provider = "mercado_pago" ∧
    p.providerOrderId = some "ORD1" ∧ p.providerPaymentId = some "PAY1" ∧
    p.reference = some reference ∧ p.reconciliationStatus = status

private theorem sample_confirming {s : Inbox} (id : String) {reference : PaymentReference}
    {status : Option ReconciliationStatus} (h : sampleStands reference status s) :
    ∃ p, p.id = 1 ∧ s.db.payment? 1 = some p ∧ p.reference = some reference ∧
      p.reconciliationStatus = status ∧ Confirming s (sampleTurn id) p sampleOrder ∧
      AloneTold s (sampleTurn id).delivery p := by
  rw [sampleStands, decide_eq_true_eq] at h
  obtain ⟨p, hpayments⟩ := List.length_eq_one_iff.mp h.1
  obtain ⟨hid, hprovider, horder, hremote, href, hstatus⟩ := of_decide_eq_true
    (List.all_eq_true.mp h.2 p (by simp [hpayments]))
  have hfound : s.db.payment? 1 = some p := by
    simp [Db.payment?, lookup, hpayments, hid]
  have hentry : remotePayment p sampleOrder = sampleOrder.payments.head? := by
    simp [remotePayment, sampleOrder, given, hremote]
  refine ⟨p, hid, hfound, href, hstatus, ⟨⟨by rw [hid]; exact hfound, hprovider, ?_, ?_⟩, ?_, ?_, ?_⟩, ?_⟩
  · simp [given, horder]
  · simp [given, hremote]
  · exact ⟨"payment", "PAY1", rfl, .payment rfl hremote⟩
  · exact ⟨"ORD1", by simp [given, horder], rfl⟩
  · rw [hentry]
    rfl
  · intro _ _ _ q hq _ _
    rw [hpayments] at hq
    exact List.mem_singleton.mp hq

private def sampleNotification (id : String) : Notification := { id, type := "payment", dataId := "PAY1" }

/-- The first delivery settles the payment, and no other event is stored. -/
private def sampleSettles : Bool :=
  (sampleInbox.db.settlementOfPayment? 1).isNone ∧ (sampleSettled.db.settlementOfPayment? 1).isSome ∧
    (sampleSettled.eventNamed? (sampleNotification "second").eventId).isNone

private theorem sample_settles : (sampleInbox.db.settlementOfPayment? 1).isNone ∧
    (sampleSettled.db.settlementOfPayment? 1).isSome ∧
    (sampleSettled.eventNamed? (sampleNotification "second").eventId).isNone := by
  have h : sampleSettles = true := by decide +kernel
  exact of_decide_eq_true h

private theorem sample_first : ∃ p, p.id = 1 ∧ sampleInbox.db.payment? 1 = some p ∧
    p.reference = some (.loanInstallment 1) ∧ p.reconciliationStatus = none ∧
    Confirming sampleInbox (sampleTurn "first") p sampleOrder ∧
    AloneTold sampleInbox (sampleTurn "first").delivery p := by
  have h : sampleStands (.loanInstallment 1) none sampleInbox = true := by decide +kernel
  exact sample_confirming "first" h

private theorem sample_second : ∃ p, p.id = 1 ∧ sampleSettled.db.payment? 1 = some p ∧
    p.reconciliationStatus = none ∧ Redelivery sampleSettled (sampleTurn "second") 1 sampleOrder := by
  have h : sampleStands (.loanInstallment 1) none sampleSettled = true := by decide +kernel
  obtain ⟨q, hid, hq, -, hopen, hconfirming, halone⟩ := sample_confirming "second" h
  exact ⟨q, hid, hq, hopen, ⟨sampleNotification "second", rfl,
    Option.isNone_iff_eq_none.mp sample_settles.2.2⟩, q, hid, hconfirming, halone⟩

private theorem sample_third : ∃ p, sampleAgain.db.payment? 1 = some p ∧
    p.reconciliationStatus = some .RECONCILIATION_REQUIRED := by
  have h : sampleStands (.loanInstallment 1) (some .RECONCILIATION_REQUIRED) sampleAgain = true := by decide +kernel
  obtain ⟨r, -, hr, -, haside, -⟩ := sample_confirming "third" h
  exact ⟨r, hr, haside⟩

/-- A settled loan attempt is put aside by the second delivery of its own confirmation. -/
theorem loan_redelivery_puts_aside : SoundInbox sampleInbox ∧ ∃ p settled again,
    Confirming sampleInbox (sampleTurn "first") p sampleOrder ∧
    sampleInbox.db.settlementOfPayment? p.id = none ∧
    ((deliver sampleEnv sampleInbox (sampleTurn "first")).db.settlementOfPayment? p.id).isSome ∧
    Redelivery (deliver sampleEnv sampleInbox (sampleTurn "first")) (sampleTurn "second") p.id
      sampleOrder ∧
    (deliver sampleEnv sampleInbox (sampleTurn "first")).db.payment? p.id = some settled ∧
    settled.reconciliationStatus = none ∧
    (deliver sampleEnv (deliver sampleEnv sampleInbox (sampleTurn "first"))
      (sampleTurn "second")).db.payment? p.id = some again ∧
    again.reconciliationStatus = some .RECONCILIATION_REQUIRED := by
  obtain ⟨p, hid, -, -, -, hfirst, -⟩ := sample_first
  obtain ⟨q, -, hq, hopen, hsecond⟩ := sample_second
  obtain ⟨r, hr, haside⟩ := sample_third
  obtain ⟨hunsettled, hsettled, -⟩ := sample_settles
  rw [sampleAgain] at hr
  rw [sampleSettled] at hq hsecond hr hsettled
  refine ⟨sampleInbox_sound, p, q, r, hfirst, ?_⟩
  rw [hid]
  exact ⟨Option.isNone_iff_eq_none.mp hunsettled, hsettled, hsecond, hq, hopen, hr, haside⟩

private def sampleContribution : Contribution where
  id := 1
  memberId := 1
  competence := 19900
  amount := 100000
  status := .PENDING
  paymentId := some 1
  dueDate := none
  paidAmount := none
  paidAt := none
  cancelledAt := none
  cancellationReason := none

/-- The same charge of a contribution. -/
@[irreducible] private def contributionInbox : Inbox where
  db := { members := [{ id := 1 }], contributions := [sampleContribution],
          payments := [{ samplePayment with
            reference := some (.contribution 1), attemptStatus := none }] }
  events := []

@[irreducible] private def contributionSettled : Inbox :=
  deliver sampleEnv contributionInbox (sampleTurn "first")

private theorem contributionInbox_sound : SoundInbox contributionInbox := by
  unfold contributionInbox
  refine ⟨⟨?_, ?_, ?_, ?_, ?_, ?_, ?_, ?_, ?_, ⟨List.nodup_nil, ?_⟩⟩, List.nodup_nil⟩
  all_goals decide

private def contributionSettles : Bool :=
  sampleStands (.contribution 1) none contributionInbox ∧ sampleStands (.contribution 1) none contributionSettled ∧
    (contributionInbox.db.settlementOfPayment? 1).isNone ∧
    (contributionSettled.db.settlementOfPayment? 1).isSome ∧
    (contributionSettled.eventNamed? (sampleNotification "second").eventId).isNone

/-- The second delivery of the confirmation of a contribution changes nothing. -/
theorem sample_redelivery_unchanged :
    ((deliver sampleEnv contributionInbox (sampleTurn "first")).db.settlementOfPayment? 1).isSome ∧
      (deliverAll sampleEnv (deliver sampleEnv contributionInbox (sampleTurn "first"))
        [sampleTurn "second"]).db = (deliver sampleEnv contributionInbox (sampleTurn "first")).db := by
  have hruns : contributionSettles = true := by decide +kernel
  obtain ⟨hbefore, hafter, hunsettled, hsettled, hnew⟩ := of_decide_eq_true hruns
  obtain ⟨p, hid, -, href, -, hfirst, -⟩ := sample_confirming "first" hbefore
  obtain ⟨q, hq, -, -, -, hconfirming, halone⟩ := sample_confirming "second" hafter
  have hsecond : Redelivery contributionSettled (sampleTurn "second") p.id sampleOrder :=
    ⟨⟨sampleNotification "second", rfl, Option.isNone_iff_eq_none.mp hnew⟩, q, hq.trans hid.symm, hconfirming,
      halone⟩
  rw [contributionSettled] at hsettled hsecond
  have hcondition : ∀ k, p.reference ≠ some (.loanInstallment k) := by
    intro k
    rw [href]
    simp
  refine ⟨hsettled, (redelivery_unchanged_iff sampleEnv contributionInbox contributionInbox_sound
    (sampleTurn "first") p sampleOrder hfirst ?_ ?_ _ fun done t hsteps => ?_).mpr (.inr (.inl hcondition))⟩
  · rw [hid]
    exact Option.isNone_iff_eq_none.mp hunsettled
  · rw [hid]
    exact hsettled
  · cases done with
    | nil =>
      obtain rfl : t = sampleTurn "second" := by simpa using hsteps
      exact hsecond
    | cons c done => simp at hsteps

end Samples

end Caixinha.Properties.WebhookRedelivery
