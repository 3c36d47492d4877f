import Caixinha.Effects.PixCharges

/-! When an open debt whose charges all ended at the provider can be charged again. -/
namespace Caixinha.Properties.PixRecharge

open Caixinha.Library Caixinha.Library.Table Caixinha.Model Caixinha.Effects

variable {env : Env} {b : ChargeBook} {d : Debt} {clock : Int} {member : Option Nat}

section Statement

/-- The debt stands, it is the member's, and this much of it is open. -/
inductive OpenDebt (db : Db) (member : Option Nat) : Debt → Int → Prop where
  | contribution (c : Contribution) (row : db.contribution? c.id = some c)
    (owner : member = some c.memberId) (positive : 0 < contributionOpenAmount c) :
    OpenDebt db member (.contribution c.id) (contributionOpenAmount c)
  | agreementInstallment (i : AgreementInstallment) (agreement : CollectionAgreement)
    (row : db.agreementInstallment? i.id = some i)
    (agreed : db.agreement? i.agreementId = some agreement)
    (approved : agreement.status ∈ [AgreementStatus.APPROVED, AgreementStatus.SETTLED])
    (owner : member = some agreement.memberId)
    (unpaid : i.status ≠ .PAID) (positive : 0 < agreementBalance i) :
    OpenDebt db member (.agreementInstallment i.id) (agreementBalance i)

/-- An earlier charge of the debt; a contribution may also point at it. -/
def Charges (db : Db) : Debt → Payment → Prop
  | .contribution id, p => p.reference = some (.contribution id) ∨
      ∃ c, db.contribution? id = some c ∧ c.paymentId = some p.id
  | .agreementInstallment id, p => p.reference = some (.agreementInstallment id)

/-- The provider knows the charge and has ended it. -/
def Ended (p : Payment) : Prop := hasProviderPayment p ∧ p.status ∈ terminalStatuses

/-- A request reserves a new payment of the amount under the key of the debt. -/
def ReservesFresh (b : ChargeBook) (clock : Int) (member : Option Nat) (d : Debt) (amount : Int) : Prop :=
  ∃ b' p, requestCharge b clock member d = (b', .asking p) ∧ p.amount = amount ∧
    isReservation d.reference p ∧ (∀ q ∈ b.db.payments, q.id ≠ p.id) ∧
    b'.db.payments = b.db.payments ++ [p] ∧ b'.idempotencyKey p.id = chargeKey b d

end Statement

section Requests

private theorem not_waiting {p : Payment} (h : Ended p) : p.status ∉ waitingStatuses := by
  intro hwaiting
  have hstatus := h.2
  simp only [terminalStatuses, waitingStatuses, List.mem_cons, List.not_mem_nil, or_false] at hstatus hwaiting
  rcases hstatus with h | h | h | h <;> rw [h] at hwaiting <;> simp at hwaiting

private theorem contributionPayment_ended {c : Contribution} {p : Payment}
    (hc : b.db.contribution? c.id = some c) (h : contributionPayment? b.db c = some p)
    (hended : ∀ q ∈ b.db.payments, Charges b.db (.contribution c.id) q → Ended q) : Ended p := by
  unfold contributionPayment? at h
  cases hlatest : latest? (b.db.payments.filter fun q => q.reference = some (.contribution c.id)) with
  | some q =>
    rw [hlatest] at h
    obtain rfl := Option.some.inj h
    obtain ⟨hq, href⟩ := List.mem_filter.mp (latest?_mem hlatest)
    exact hended q hq (.inl (of_decide_eq_true href))
  | none =>
    rw [hlatest] at h
    change (c.paymentId.filter (· ≠ 0)).bind b.db.payment? = some p at h
    obtain ⟨id, hid, hp⟩ := Option.bind_eq_some_iff.mp h
    rw [Option.filter_eq_some_iff] at hid
    have hkey : p.id = id := lookup_key hp
    exact hended p (lookup_mem hp) (.inr ⟨c, hc, by rw [hid.1, hkey]⟩)

private theorem live_not_cancelled {c : Contribution} {paid asOf : Int} (hlive : c.cancelledAt = none) :
    contributionFinancialStatus c paid asOf ≠ .CANCELLED := by
  unfold contributionFinancialStatus
  rw [hlive, if_neg (by simp)]
  split
  · simp
  split
  · simp
  split
  · rename_i hstatus
    intro hcancelled
    rw [hcancelled] at hstatus
    simp at hstatus
  · split <;> simp

private theorem requests_contribution {c : Contribution} (hc : b.db.contribution? c.id = some c)
    (howner : member = some c.memberId) (hpositive : 0 < contributionOpenAmount c)
    (hended : ∀ q ∈ b.db.payments, Charges b.db (.contribution c.id) q → Ended q) :
    createContributionPix b clock member c.id = askContribution b c := by
  have hlive : c.cancelledAt = none := by
    unfold contributionOpenAmount at hpositive
    cases hcancelled : c.cancelledAt with
    | none => rfl
    | some t => simp [hcancelled] at hpositive
  have hopen : ¬ c.amount ≤ contributionPaidAmount c := by
    unfold contributionOpenAmount at hpositive
    rw [hlive] at hpositive
    simp only [Option.isSome_none, Bool.false_eq_true, if_false] at hpositive
    omega
  unfold createContributionPix
  rw [hc]
  dsimp only
  rw [if_neg (not_not.mpr howner)]
  split
  · rename_i hpaid
    exact absurd (contributionFinancialStatus_eq_paid.mp hpaid).2 hopen
  · rename_i hcancelled
    exact absurd hcancelled (live_not_cancelled hlive)
  · cases hlast : contributionPayment? b.db c with
    | none => rfl
    | some existing =>
      have hexisting := contributionPayment_ended hc hlast hended
      dsimp only
      rw [if_neg (not_not.mpr hexisting.1), if_neg (not_waiting hexisting),
        if_neg (not_not.mpr hexisting.2)]

private theorem requests_agreement {i : AgreementInstallment} {agreement : CollectionAgreement}
    (hi : b.db.agreementInstallment? i.id = some i)
    (hagreement : b.db.agreement? i.agreementId = some agreement)
    (happroved : agreement.status ∈ [AgreementStatus.APPROVED, AgreementStatus.SETTLED])
    (howner : member = some agreement.memberId) (hunpaid : i.status ≠ .PAID)
    (hpositive : 0 < agreementBalance i)
    (hempty : reservations b.db (.agreementInstallment i.id) = [])
    (hended : ∀ q ∈ b.db.payments, Charges b.db (.agreementInstallment i.id) q → Ended q) :
    createAgreementPix b member i.id = askAgreementInstallment b i := by
  unfold createAgreementPix
  dsimp only
  rw [hi]
  dsimp only
  rw [hagreement]
  dsimp only
  rw [if_neg (not_or.mpr ⟨not_not.mpr howner, not_not.mpr happroved⟩),
    if_neg (not_or.mpr ⟨not_le.mpr hpositive, hunpaid⟩), pendingReservation?_eq_none.mpr hempty]
  dsimp only
  split
  · rename_i backed hbacked
    obtain ⟨hmem, hyes⟩ := List.mem_filter.mp (latest?_mem hbacked)
    obtain ⟨href, -, hwaiting⟩ := of_decide_eq_true hyes
    exact absurd hwaiting (not_waiting (hended backed hmem href))
  · rfl

private theorem request_reserved {amount : Int} (hopen : OpenDebt b.db member d amount)
    (hended : ∀ q ∈ b.db.payments, Charges b.db d q → Ended q)
    (hfree : b.keyed? (chargeKey b d) = none) (hempty : reservations b.db d.reference = []) :
    requestCharge b clock member d = reservedFor b d amount := by
  cases hopen with
  | contribution c hc howner hpositive =>
    rw [requestCharge, requests_contribution hc howner hpositive hended, askContribution,
      if_neg (not_le.mpr hpositive), reserveContribution_created.mpr ⟨hfree, hempty, rfl, rfl⟩]
    rfl
  | agreementInstallment i agreement hi hagreement happroved howner hunpaid hpositive =>
    rw [requestCharge, requests_agreement hi hagreement happroved howner hunpaid hpositive hempty hended,
      askAgreementInstallment, reserveAgreementInstallment_created.mpr ⟨hfree, hempty, rfl, rfl⟩]
    rfl

private theorem reservedFor_fresh {amount : Int} (h : requestCharge b clock member d = reservedFor b d amount) :
    ReservesFresh b clock member d amount := by
  have hnew : ∀ q ∈ b.db.payments, q.id ≠ nextKey Payment.id b.db.payments := by
    intro q hq
    have : q.id < nextKey Payment.id b.db.payments := key_lt_nextKey hq
    omega
  cases d with
  | contribution id =>
    exact ⟨_, _, h, rfl, by simp [isReservation, contributionPayment, reservedPayment, Debt.reference],
      hnew, rfl, Function.update_self ..⟩
  | agreementInstallment id =>
    exact ⟨_, _, h, rfl, by simp [isReservation, agreementPayment, reservedPayment, Debt.reference],
      hnew, rfl, Function.update_self ..⟩

/-- A request for an open debt whose charges have ended reserves a new payment exactly when no payment
carries its key. -/
theorem reservesFresh_iff {amount : Int} (hs : SoundCharges b) (hopen : OpenDebt b.db member d amount)
    (hended : ∀ q ∈ b.db.payments, Charges b.db d q → Ended q) :
    ReservesFresh b clock member d amount ↔ b.keyed? (chargeKey b d) = none := by
  constructor
  · rintro ⟨b', p, hrequest, -⟩
    have hasked := requestCharge_asked b clock member d
    rw [hrequest] at hasked
    generalize hresult : (b', ChargeAnswer.asking p) = result at hasked
    cases hasked with
    | nothing answer hidle => exact absurd (Prod.mk.inj hresult).2.symm (hidle p)
    | reserved _ hfree => exact hfree
  · intro hfree
    have hempty : reservations b.db d.reference = [] := by
      refine List.eq_nil_iff_forall_not_mem.mpr fun p hp => ?_
      exact keyed?_eq_none.mp hfree p (List.mem_filter.mp hp).1 (hs.keyed d p hp)
    exact reservedFor_fresh (request_reserved hopen hended hfree hempty)

end Requests

/-- After any history of charges there is at most one pending reservation of each debt, and an open debt
whose earlier charges all ended at the provider gets a new payment for the open amount exactly when no
payment carries its idempotency key. -/
theorem recharges_iff_key_free (env : Env) (b : ChargeBook) (hs : SoundCharges b)
    (events : List ChargeEvent) :
    (∀ d : Debt, (reservations (chargeHistory env b events).db d.reference).length ≤ 1) ∧
      ∀ (d : Debt) (clock : Int) (member : Option Nat) (amount : Int),
        OpenDebt (chargeHistory env b events).db member d amount →
        (∀ p ∈ (chargeHistory env b events).db.payments,
          Charges (chargeHistory env b events).db d p → Ended p) →
        (ReservesFresh (chargeHistory env b events) clock member d amount ↔
          (chargeHistory env b events).keyed? (chargeKey (chargeHistory env b events) d) = none) := by
  have hsound : SoundCharges (chargeHistory env b events) := hs.history events
  exact ⟨hsound.once, fun d clock member amount hopen hended => reservesFresh_iff hsound hopen hended⟩

section Samples

private def sampleContribution : Contribution where
  id := 1
  memberId := 1
  competence := 20000
  amount := 10000
  status := .PENDING
  paymentId := none
  dueDate := none
  paidAmount := none
  paidAt := none
  cancelledAt := none
  cancellationReason := none

private def sampleBook : ChargeBook where
  inbox := { db := { members := [{ id := 1 }], contributions := [sampleContribution] }, events := [] }
  idempotencyKey := fun _ => ""
  pixIdempotencyKey := fun _ => none

private def sampleEnv : Env where
  sha256 := fun _ => "digest"
  lateChargeEffectiveDate := none

private def cancelledOrder : RemoteOrder where
  payments := [{ id := some "PAY1", status := some "cancelled" }]

/-- The charge is made, bound, and ended by the provider. -/
private def sampleEvents : List ChargeEvent :=
  [.requestedContribution 0 (some 1) 1,
    .answeredContribution 1 1
      (.answered { orderId := some "ORD1", id := "PAY1", status := some "pending" } true),
    .delivered { delivery := .notified { id := "ended", type := "payment", dataId := "PAY1" }
                 clock := 0, provider := fun _ => some cancelledOrder }]

@[irreducible] private def cancelledBook : ChargeBook := chargeHistory sampleEnv sampleBook sampleEvents

private theorem sampleBook_sound : SoundCharges sampleBook := by
  refine ⟨⟨⟨?_, ?_, ?_, ?_, ?_, ?_, ?_, ?_, ?_, ⟨List.nodup_nil, ?_⟩⟩, List.nodup_nil⟩, fun d => ?_,
    fun d p hp => ?_⟩
  case refine_11 => exact Nat.zero_le 1
  case refine_12 => cases hp
  all_goals decide

private def answersCancelled : ChargeAnswer → Bool
  | .response p => p.status = "cancelled"
  | _ => false

/-- The one contribution is open, its one charge is cancelled, and it is what a request gets. -/
private def standsCancelled (b : ChargeBook) : Bool :=
  b.db.contributions = [{ sampleContribution with paymentId := some 1 }] ∧
    (b.db.payments.all fun p => hasProviderPayment p ∧ p.status = "cancelled") ∧
    (b.keyed? (chargeKey b (.contribution 1))).isSome ∧
    answersCancelled (requestCharge b 0 (some 1) (.contribution 1)).2

private theorem cancelledBook_stands : standsCancelled cancelledBook = true := by decide +kernel

/-- After the provider cancelled the first charge, the request is answered with it again. -/
theorem cancelled_charge_stays : SoundCharges sampleBook ∧
    OpenDebt (chargeHistory sampleEnv sampleBook sampleEvents).db (some 1) (.contribution 1) 10000 ∧
    (∀ p ∈ (chargeHistory sampleEnv sampleBook sampleEvents).db.payments,
      Charges (chargeHistory sampleEnv sampleBook sampleEvents).db (.contribution 1) p → Ended p) ∧
    ¬ ReservesFresh (chargeHistory sampleEnv sampleBook sampleEvents) 0 (some 1) (.contribution 1) 10000 ∧
    ∃ p, (requestCharge (chargeHistory sampleEnv sampleBook sampleEvents) 0 (some 1)
      (.contribution 1)).2 = .response p ∧ p.status = "cancelled" := by
  have hstands := cancelledBook_stands
  have hsound : SoundCharges cancelledBook := by
    rw [cancelledBook]
    exact sampleBook_sound.history sampleEvents
  rw [standsCancelled, decide_eq_true_eq] at hstands
  obtain ⟨hcontributions, hpayments, hkeyed, hanswer⟩ := hstands
  have hrow : cancelledBook.db.contribution? 1 = some { sampleContribution with paymentId := some 1 } := by
    rw [Db.contribution?, hcontributions]
    rfl
  have hopen : OpenDebt cancelledBook.db (some 1) (.contribution 1) 10000 :=
    .contribution { sampleContribution with paymentId := some 1 } hrow rfl (by decide)
  have hended : ∀ p ∈ cancelledBook.db.payments, Charges cancelledBook.db (.contribution 1) p → Ended p := by
    intro p hp _
    obtain ⟨hprovider, hstatus⟩ := of_decide_eq_true (List.all_eq_true.mp hpayments p hp)
    exact ⟨hprovider, by simp [terminalStatuses, hstatus]⟩
  have hblocked : ¬ ReservesFresh cancelledBook 0 (some 1) (.contribution 1) 10000 := by
    rw [reservesFresh_iff hsound hopen hended]
    exact Option.isSome_iff_ne_none.mp hkeyed
  rw [← cancelledBook]
  refine ⟨sampleBook_sound, hopen, hended, hblocked, ?_⟩
  cases hrequest : (requestCharge cancelledBook 0 (some 1) (.contribution 1)).2 with
  | response p =>
    rw [hrequest] at hanswer
    exact ⟨p, rfl, of_decide_eq_true hanswer⟩
  | refused status detail =>
    rw [hrequest] at hanswer
    cases hanswer
  | asking p =>
    rw [hrequest] at hanswer
    cases hanswer

private def endedCharge : Payment where
  id := 1
  provider := "mercado_pago"
  providerOrderId := some "ORD1"
  providerPaymentId := some "PAY1"
  amount := 10000
  status := "cancelled"
  externalReference := none
  pixTxid := none
  endToEndId := none
  providerStatusDetail := none
  confirmedAt := none
  expiresAt := none
  amountReceived := none
  ledgerPostedAt := none
  reference := some (.contribution 1)
  attemptStatus := none
  calculatedForDate := none
  financialSnapshotJson := none
  snapshotHash := none
  reconciliationStatus := none

/-- The contribution with a cancelled charge that does not carry the key of the debt. -/
private def unkeyedBook : ChargeBook :=
  { sampleBook with
    inbox := { db := { sampleBook.db with
        contributions := [{ sampleContribution with paymentId := some 1 }], payments := [endedCharge] }
               events := [] } }

private theorem unkeyedBook_reservations (ref : PaymentReference) : reservations unkeyedBook.db ref = [] := by
  refine List.filter_eq_nil_iff.mpr fun p hp => ?_
  obtain rfl := List.mem_singleton.mp hp
  simp [isReservation, endedCharge]

private theorem unkeyedBook_sound : SoundCharges unkeyedBook := by
  refine ⟨⟨⟨?_, ?_, ?_, ?_, ?_, ?_, ?_, ?_, ?_, ⟨List.nodup_nil, ?_⟩⟩, List.nodup_nil⟩, fun d => ?_,
    fun d p hp => ?_⟩
  case refine_11 =>
    rw [unkeyedBook_reservations]
    exact Nat.zero_le 1
  case refine_12 =>
    rw [unkeyedBook_reservations] at hp
    cases hp
  all_goals decide

theorem sample_recharges : (∀ d : Debt, (reservations unkeyedBook.db d.reference).length ≤ 1) ∧
    Ended endedCharge ∧ Charges unkeyedBook.db (.contribution 1) endedCharge ∧
    ReservesFresh unkeyedBook 0 (some 1) (.contribution 1) 10000 := by
  have h := recharges_iff_key_free sampleEnv unkeyedBook unkeyedBook_sound []
  have hopen : OpenDebt unkeyedBook.db (some 1) (.contribution 1) 10000 :=
    .contribution { sampleContribution with paymentId := some 1 } rfl rfl (by decide)
  have hends : Ended endedCharge := ⟨rfl, by decide⟩
  have hended : ∀ p ∈ unkeyedBook.db.payments, Charges unkeyedBook.db (.contribution 1) p → Ended p :=
    fun p hp _ => List.mem_singleton.mp hp ▸ hends
  have hnil : chargeHistory sampleEnv unkeyedBook [] = unkeyedBook := rfl
  rw [hnil] at h
  exact ⟨h.1, hends, .inl rfl, (h.2 (.contribution 1) 0 (some 1) 10000 hopen hended).mpr (by decide)⟩

end Samples

end Caixinha.Properties.PixRecharge
