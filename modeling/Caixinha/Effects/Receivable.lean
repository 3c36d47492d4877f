import Caixinha.Effects.Confirmations
import Caixinha.Effects.LoanSettling

/-! What the financial writer takes of a confirmed payment, told by the payment, the report of the
provider and the books before it. -/
namespace Caixinha.Effects

open Caixinha.Library Caixinha.Library.Table Fallible Caixinha.Model

variable {env : Env} {db charged before : Db} {clock day : Int} {p q : Payment} {remote : RemoteOrder}
  {entry : RemotePayment} {inst : LoanInstallment} {confirmed : Timestamp}

/-- The cents a confirmation brings: those of the report, or those known of the payment. -/
def broughtCents (p : Payment) (remote : RemoteOrder) (entry : RemotePayment) : Int :=
  (remoteAmount remote entry <|> p.amountReceived).getD p.amount

/-- The debt of an installment can be quoted on a day. -/
structure Quotable (env : Env) (db : Db) (day : Int) (inst : LoanInstallment) : Prop where
  found : db.installment? inst.id = some inst
  number : 1 ≤ inst.number
  books : (isLateChargeEligible inst.dueDate env.lateChargeEffectiveDate = false ∧
      (inst.dueDate ≤ day → 0 ≤ lateThrough db inst.id day)) ∨ ChargeBooks day inst.id db inst

/-- A payment of the installment on that day would be applied: its loan is open, it owes something, and
late charge v1 finds it due. -/
structure Collectable (env : Env) (db : Db) (day : Int) (inst : LoanInstallment) (p : Payment)
    (received : Int) : Prop where
  unposted : p.ledgerPostedAt = none
  alone : ∀ c ∈ db.contributions, c.paymentId ≠ some p.id
  loan : ∃ loan, OpenLoan db inst loan
  received : 0 < received
  owes : if isLateChargeEligible inst.dueDate env.lateChargeEffectiveDate = true
    then ChargeBooks day inst.id db inst ∧ inst.dueDate ≤ day ∧ 0 < (dueOn db inst day).totalDue
    else 0 < installmentDue inst

/-- A confirmed payment that is settled or put aside. -/
inductive Receivable (env : Env) (db : Db) (p : Payment) (remote : RemoteOrder) (entry : RemotePayment) :
    Prop where
  /-- put aside: its contribution is cancelled -/
  | cancelled (c : Contribution) (named : ∀ k, p.reference ≠ some (.loanInstallment k))
    (found : paymentContribution db p = some c) (cancelled : c.cancelledAt.isSome)
  | contribution (c : Contribution) (unposted : p.ledgerPostedAt = none) (pays : Pays db p c)
    (brought : 0 ≤ broughtCents p remote entry)
    (payable : ContributionPayable db (broughtCents p remote entry) c)
  | agreement (agreement : CollectionAgreement) (inst : AgreementInstallment)
    (reference : p.reference = some (.agreementInstallment inst.id)) (unposted : p.ledgerPostedAt = none)
    (unbooked : ledgerHas db .AGREEMENT_INSTALLMENT_PAYMENT (toString p.id) = false)
    (pointers : (db.contributions.filter (fun c => c.paymentId = some p.id)).length ≤ 1)
    (found : db.agreementInstallment? inst.id = some inst)
    (payable : AgreementPayable db (broughtCents p remote entry) agreement inst)
  /-- put aside: no pending attempt, an altered snapshot, or no instant of the confirmation -/
  | unverified (k : Nat) (reference : p.reference = some (.loanInstallment k))
    (told : p.attemptStatus ≠ some .PENDING ∨ ¬ validSnapshot env p ∨ entry.approvedAt = none)
  /-- put aside: confirmed once the attempt had expired -/
  | late (k : Nat) (confirmed expiresAt : Int) (reference : p.reference = some (.loanInstallment k))
    (told : entry.approvedAt = some confirmed) (expires : p.expiresAt = some expiresAt)
    (late : expiresAt ≤ confirmed)
  /-- put aside when the day owes something else than the attempt charges, settled when it owes that -/
  | timely (inst : LoanInstallment) (confirmed expiresAt : Int)
    (reference : p.reference = some (.loanInstallment inst.id)) (told : entry.approvedAt = some confirmed)
    (expires : p.expiresAt = some expiresAt) (timely : confirmed < expiresAt)
    (quotable : Quotable env db (financialCivilDate confirmed) inst)
    (collectable : p.calculatedForDate = some (financialCivilDate confirmed) →
      Collectable env db (financialCivilDate confirmed) inst p (broughtCents p remote entry))

section Attempt

/-- The quote of a day leaves an installment as collectable as it was. -/
private theorem Quotable.quote (hs : Sound db) (h : Quotable env db day inst) :
    ∃ charged due snapshot x, attemptSnapshot env db inst day = .ok (charged, due, snapshot) ∧
      Charged inst.id db charged ∧ x.id = inst.id ∧ charged.installment? x.id = some x ∧
      ∀ p received, Collectable env db day inst p received → Collectable env charged day x p received := by
  rcases h.books with ⟨heligible, hledger⟩ | hbooks
  · obtain ⟨due, snapshot, hquote⟩ := quote_legacy heligible h.found h.number hledger
    exact ⟨db, due, snapshot, inst, hquote, Charged.refl inst.id db, rfl, h.found, fun _ _ h => h⟩
  · obtain ⟨charged, due, snapshot, x, hquote, hx⟩ := hbooks.quote env h.number
    have hcharged := charged_attemptSnapshot hs hquote
    have hid := hx.books.id_eq
    refine ⟨charged, due, snapshot, x, hquote, hcharged, hid, by rw [hid]; exact hx.books.row, ?_⟩
    intro p received hc
    have hcontributions : charged.contributions = db.contributions := by rw [hcharged.only]
    have hloans : charged.loans = db.loans := by rw [hcharged.only]
    have hmembers : charged.members = db.members := by rw [hcharged.only]
    have hdueDate : x.dueDate = inst.dueDate := by rw [hx.only]
    have hloanId : x.loanId = inst.loanId := by rw [hx.only]
    have howes := hc.owes
    refine ⟨hc.unposted, by rw [hcontributions]; exact hc.alone, ?_, hc.received, ?_⟩
    · obtain ⟨loan, hloan⟩ := hc.loan
      refine ⟨loan, ?_, ?_, hloan.status, hloan.unpaid⟩
      · rw [Db.loan?, hloans, hloanId]
        exact hloan.found
      · obtain ⟨member, hmember⟩ := hloan.member
        exact ⟨member, by rw [Db.member?, hmembers]; exact hmember⟩
    · rw [hdueDate]
      split at howes
      · rename_i heligible
        rw [if_pos heligible, hid]
        exact ⟨hx.books, howes.2.1, howes.2.2.trans_le (hx.dueOn_le rfl)⟩
      · rename_i heligible
        rw [if_neg heligible, hx.only]
        exact howes

/-- A timely confirmation of a pending attempt is put aside or settled. -/
private theorem pendingTaken_timely {expiresAt : Int} {payload : RemotePayload} (hs : Sound db)
    (hfound : db.payment? q.id = some p) (href : q.reference = some (.loanInstallment inst.id))
    (hexpires : q.expiresAt = some expiresAt) (htimely : confirmed.instant < expiresAt)
    (haware : confirmed.aware) (hquotable : Quotable env db (financialCivilDate confirmed.instant) inst)
    (hcollectable : q.calculatedForDate = some (financialCivilDate confirmed.instant) →
      Collectable env db (financialCivilDate confirmed.instant) inst q (receivedAmount q)) :
    PendingTaken env db clock q inst.id confirmed payload := by
  obtain ⟨charged, due, snapshot, x, hquote, hcharged, hid, hrow, hcollects⟩ := hquotable.quote hs
  refine .timely expiresAt hexpires htimely inst hquotable.found charged due snapshot hquote ?_
  by_cases hsame : sameQuote env q confirmed snapshot
  · refine .inr ?_
    cases hsettled : charged.settlementOfPayment? q.id with
    | some s => exact .inl rfl
    | none =>
      refine .inr ?_
      have hc := hcollects q _ (hcollectable hsame.1)
      obtain ⟨loan, hloan⟩ := hc.loan
      have hput : (charged.putPayment (approvedAttempt q)).payment? (approvedAttempt q).id =
          some (approvedAttempt q) := by
        have hpayments : charged.payments = db.payments := by rw [hcharged.only]
        have hq : lookup Payment.id charged.payments (approvedAttempt q).id = some p := by
          rw [hpayments]
          exact hfound
        exact lookup_replace_self hq
      have hopen : OpenLoan (charged.putPayment (approvedAttempt q)) x loan :=
        ⟨hloan.found, hloan.member, hloan.status, hloan.unpaid⟩
      have href' : (approvedAttempt q).reference = some (.loanInstallment x.id) := by
        rw [hid]
        exact href
      have howes := hc.owes
      change ∃ r, settleConfirmedPixPayment env _ clock (approvedAttempt q).id _ = .ok r
      split at howes
      · rename_i heligible
        obtain ⟨hbooks, hdue, hdueOn⟩ := howes
        have hbooks' : ChargeBooks (financialCivilDate confirmed.instant) x.id
            (charged.putPayment (approvedAttempt q)) x := hbooks.congr rfl rfl rfl rfl
        exact settle_versioned (by simp) hput hsettled hc.unposted href' hc.alone heligible rfl haware rfl
          hbooks' hopen hc.received hdue hdueOn
      · rename_i heligible
        exact settle_legacy (by simp) hput hsettled hc.unposted href' hc.alone
          (Bool.not_eq_true _ ▸ heligible) hrow hopen hc.received howes
  · exact .inl hsame

end Attempt

section Writer

private theorem pays_contribution {c : Contribution} (h : Pays db p c) :
    (∀ k, p.reference ≠ some (.loanInstallment k)) ∧
      (isContributionReference p.reference ∨ (paymentContribution db p).isSome) := by
  rcases h with ⟨k, href, hfound⟩ | ⟨href, hone⟩
  · rw [href]
    exact ⟨by simp, .inl rfl⟩
  · rw [href]
    refine ⟨by simp, .inr ?_⟩
    have hmem : c ∈ db.contributions.filter (fun c => c.paymentId = some p.id) := by
      rw [hone]
      exact List.mem_singleton_self c
    obtain ⟨hc, hpoints⟩ := List.mem_filter.mp hmem
    have hsome : (db.contributions.find? (fun c => c.paymentId = some p.id)).isSome :=
      List.find?_isSome.mpr ⟨c, hc, hpoints⟩
    rw [paymentContribution, href]
    simpa using hsome

/-- What a receivable payment of no loan comes to. -/
private theorem taken_contribution {eventId : Nat} (href : ∀ k, q.reference ≠ some (.loanInstallment k))
    (hcontribution : isContributionReference q.reference ∨
      (paymentContribution (before.putPayment q) q).isSome)
    (h : (paymentContribution (before.putPayment q) q).any (fun x => x.cancelledAt.isSome) ∨
      (q.ledgerPostedAt = none ∧ ∃ r, settleConfirmedPixPayment env (before.putPayment q) clock q.id
        (webhookConfirmation eventId remote entry) = .ok r)) :
    Taken env before clock eventId q remote entry := by
  unfold Taken
  dsimp only
  split
  · rename_i k hk
    exact absurd hk (href k)
  · rw [if_pos hcontribution]
    exact h

private theorem taken_agreement {eventId k : Nat} (href : q.reference = some (.agreementInstallment k))
    (hposted : q.ledgerPostedAt = none)
    (hledger : ledgerHas (before.putPayment q) .AGREEMENT_INSTALLMENT_PAYMENT (toString q.id) = false)
    (hsettle : ∃ r, settleConfirmedPixPayment env (before.putPayment q) clock q.id
      (webhookConfirmation eventId remote entry) = .ok r) : Taken env before clock eventId q remote entry := by
  by_cases hpointed : (paymentContribution (before.putPayment q) q).isSome
  · exact taken_contribution (by simp [href]) (.inr hpointed) (.inr ⟨hposted, hsettle⟩)
  · have hnot : ¬ (isContributionReference q.reference ∨
        (paymentContribution (before.putPayment q) q).isSome) := by
      rw [href]
      exact not_or.mpr ⟨Bool.false_ne_true, hpointed⟩
    unfold Taken
    dsimp only
    split
    · rename_i j hj
      rw [href] at hj
      cases hj
    · rw [if_neg hnot, href]
      exact ⟨hposted, hledger, hsettle⟩

private theorem taken_loan {eventId k : Nat} (href : p.reference = some (.loanInstallment k))
    (h : LoanTaken env (before.putPayment (receivedPayment p remote entry)) clock
      (confirmedBy (receivedPayment p remote entry) (remoteConfirmedAt entry)) k (remoteConfirmedAt entry)
      (remotePayload remote entry)) :
    Taken env before clock eventId (receivedPayment p remote entry) remote entry := by
  have hreference : (receivedPayment p remote entry).reference = some (.loanInstallment k) := href
  unfold Taken
  rw [hreference]
  exact h

private theorem agreementConfirmed_of_remote {eventId : Nat} (h : remoteConfirmed remote entry) :
    agreementConfirmed (receivedPayment p remote entry) (webhookConfirmation eventId remote entry) := by
  rw [remoteConfirmed, decide_eq_true_eq] at h
  rw [agreementConfirmed, decide_eq_true_eq]
  have hstatus : (receivedPayment p remote entry).status = (remoteStatus remote entry).getD p.status := rfl
  rw [hstatus]
  rcases h with happroved | ⟨hprocessed, hdetail⟩
  · rw [happroved]
    exact .inl rfl
  · rw [hprocessed]
    refine .inr ⟨rfl, ?_⟩
    simp [webhookConfirmation, remotePayload, RemoteFields.payload, RemoteFields.update, hdetail]

/-- The financial writer takes a receivable payment. -/
theorem Receivable.taken {eventId : Nat} (hs : Sound before) (hp : Unheard before p)
    (hconfirmed : remoteConfirmed remote entry) (h : Receivable env before p remote entry) :
    Taken env before clock eventId (receivedPayment p remote entry) remote entry := by
  have hsame := sameCharge_received p remote entry
  have hopen : (receivedPayment p remote entry).reconciliationStatus = none := by
    rw [received_reconciliation hconfirmed, hp.open_]
  have hput := sound_put hs hp.found hsame
  have hq := hp.put hsame hopen
  have hsource : (webhookConfirmation eventId remote entry).source ≠ "" := by simp [webhookConfirmation]
  cases h with
  | cancelled c named found cancelled =>
    have hfound : paymentContribution (before.putPayment (receivedPayment p remote entry))
        (receivedPayment p remote entry) = some c := found
    refine taken_contribution named (.inr (by rw [hfound]; rfl)) (.inl ?_)
    rw [hfound]
    exact cancelled
  | contribution c unposted pays brought payable =>
    obtain ⟨href, hcontribution⟩ := pays_contribution pays
    refine taken_contribution href hcontribution (.inr ⟨unposted, ?_⟩)
    exact settle_contribution hsource hq.found hq.unsettled unposted brought pays
      ⟨payable.live, payable.member, payable.creditable⟩
  | agreement agreement inst reference unposted unbooked pointers found payable =>
    refine taken_agreement (hsame.reference.trans reference) unposted unbooked ?_
    exact settle_agreement hsource hq.found hq.unsettled unposted unbooked reference
      (agreementConfirmed_of_remote hconfirmed) pointers found
      ⟨payable.found, payable.member, payable.received, payable.owes, payable.paid, payable.status,
        payable.applies⟩
  | unverified k reference told =>
    refine taken_loan reference ?_
    rcases told with hattempt | hsnapshot | hinstant
    · exact .inl hattempt
    · exact .inr (.inl hsnapshot)
    · refine .inr (.inr fun confirmed hconfirmedAt => ?_)
      rw [remoteConfirmedAt, hinstant] at hconfirmedAt
      cases hconfirmedAt
  | late k confirmed expiresAt reference told expires late =>
    refine taken_loan reference (.inr (.inr fun timestamp htimestamp => ?_))
    rw [remoteConfirmedAt, told, Option.map_some, Option.some.injEq] at htimestamp
    subst htimestamp
    exact .late expiresAt expires late
  | timely inst confirmed expiresAt reference told expires timely quotable collectable =>
    refine taken_loan reference (.inr (.inr fun timestamp htimestamp => ?_))
    rw [remoteConfirmedAt, told, Option.map_some, Option.some.injEq] at htimestamp
    subst htimestamp
    have hbooks : ∀ {day}, ChargeBooks day inst.id before inst →
        ChargeBooks day inst.id (before.putPayment (receivedPayment p remote entry)) inst :=
      fun h => h.congr rfl rfl rfl rfl
    refine pendingTaken_timely hput hq.found reference expires timely rfl
      ⟨quotable.found, quotable.number, quotable.books.imp id hbooks⟩ fun hcalculated => ?_
    have hc := collectable hcalculated
    obtain ⟨loan, hloan⟩ := hc.loan
    refine ⟨hc.unposted, hc.alone, ⟨loan, hloan.found, hloan.member, hloan.status, hloan.unpaid⟩, hc.received, ?_⟩
    have howes := hc.owes
    split
    · rename_i heligible
      rw [if_pos heligible] at howes
      exact ⟨hbooks howes.1, howes.2⟩
    · rename_i heligible
      rw [if_neg heligible] at howes
      exact howes

end Writer

end Caixinha.Effects
