import Caixinha.Effects.Settled

/-! When the settlement of a confirmed payment goes through: the postings of a positive amount, the
evidence row, and what each kind of obligation must look like. -/
namespace Caixinha.Effects

open Caixinha.Library Caixinha.Library.Table Fallible Caixinha.Model

variable {env : Env} {db : Db} {clock effectiveAt received amount : Int} {payment : Payment}
  {type : LedgerReferenceType} {confirmation : Confirmation} {app : Application}

section Posting

theorem postEntry_credit_ok (h : 0 < amount) : ∃ rows e,
    postEntry env db clock (paymentCredit payment type amount) =
      .ok ({ db with ledgerEntries := rows }, e) := by
  rw [postEntry, dif_pos (show 0 < (paymentCredit payment type amount).amount from h)]
  exact ⟨_, _, rfl⟩

theorem postOnce_ok (h : 0 < amount) : ∃ rows,
    postOnce env db clock (paymentCredit payment type amount) = .ok { db with ledgerEntries := rows } := by
  unfold postOnce
  split
  · exact ⟨_, rfl⟩
  · obtain ⟨rows, e, hpost⟩ : ∃ rows e, postEntry env db clock (paymentCredit payment type amount) =
      .ok ({ db with ledgerEntries := rows }, e) := postEntry_credit_ok h
    rw [hpost]
    exact ⟨rows, rfl⟩

theorem postPositive_ok (env : Env) (db : Db) (clock : Int) (payment : Payment)
    (type : LedgerReferenceType) (amount : Int) : ∃ rows,
    postPositive env db clock (paymentCredit payment type amount) =
      .ok { db with ledgerEntries := rows } := by
  unfold postPositive
  split
  · exact ⟨_, rfl⟩
  · rename_i hpositive
    obtain ⟨rows, e, hpost⟩ : ∃ rows e, postEntry env db clock (paymentCredit payment type amount) =
      .ok ({ db with ledgerEntries := rows }, e) := postEntry_credit_ok (not_le.mp hpositive)
    rw [hpost]
    exact ⟨rows, rfl⟩

theorem whenPositive_postOnce_ok (env : Env) (db : Db) (clock : Int) (payment : Payment)
    (type : LedgerReferenceType) (amount : Int) : ∃ rows,
    whenPositive amount db (postOnce env db clock (paymentCredit payment type amount)) =
      .ok { db with ledgerEntries := rows } := by
  unfold whenPositive
  split
  · rename_i hpositive
    exact postOnce_ok hpositive
  · exact ⟨_, rfl⟩

theorem creditPrincipal_ok (db : Db) (clock : Int) (account : MemberFinancialAccount)
    (payment : Payment) (amount : Int) : ∃ entries,
    creditPrincipal db clock account payment amount = .ok { db with memberEntries := entries } := by
  unfold creditPrincipal
  split
  · exact ⟨_, rfl⟩
  · rename_i hpositive
    rw [addMemberFinancialEntry, dif_pos (show 0 < (principalCredit payment amount).amount from
      not_le.mp hpositive)]
    exact ⟨_, rfl⟩

theorem creditBecamePaid_ok (db : Db) (clock : Int) (s : PaymentSettlement)
    {became : Option (MemberFinancialAccount × Contribution)}
    (h : ∀ account c, became = some (account, c) → 0 < c.amount) :
    ∃ db', creditBecamePaid db clock s became = .ok db' := by
  unfold creditBecamePaid
  split
  · exact ⟨_, rfl⟩
  · rename_i account c
    rw [addMemberFinancialEntry, dif_pos (show 0 < (contributionCredit c s).amount from h account c rfl)]
    exact ⟨_, rfl⟩

end Posting

section Recording

/-- What the columns of a settlement may hold. -/
def settledStatuses : List ObligationStatus := [.OPEN, .PENDING, .PARTIAL, .OVERDUE, .PAID]

/-- An application whose evidence row meets the constraints of its table. -/
structure WellApplied (received : Int) (app : Application) : Prop where
  principal : 0 ≤ app.principalApplied
  interest : 0 ≤ app.interestApplied
  penalty : 0 ≤ app.penaltyApplied
  within : app.principalApplied + app.interestApplied + app.penaltyApplied ≤ received
  components : ∀ k, app.components = some k → 0 ≤ k.normalInterestApplied ∧ 0 ≤ k.lateInterestApplied ∧
    0 ≤ k.fixedPenaltyApplied ∧ app.interestApplied = k.normalInterestApplied ∧
    app.penaltyApplied = k.lateInterestApplied + k.fixedPenaltyApplied
  before : app.statusBefore ∈ settledStatuses
  after : app.statusAfter ∈ settledStatuses
  agreement : ∀ e, app.agreementEvidence = some e →
    (e.installmentStatusBefore ∈ [.OPEN, .PARTIAL, .PAID] ∧
      e.installmentStatusAfter ∈ [.OPEN, .PARTIAL, .PAID]) ∧
    (e.agreementStatusBefore ∈ [.APPROVED, .SETTLED] ∧ e.agreementStatusAfter ∈ [.APPROVED, .SETTLED]) ∧
    0 ≤ e.paidAmountBefore ∧ 0 ≤ e.paidAmountAfter ∧ 0 ≤ e.paidPenaltyAmountBefore ∧
    0 ≤ e.paidPenaltyAmountAfter

theorem WellApplied.checked (h : WellApplied received app) (db : Db) (payment : Payment)
    (confirmation : Confirmation) (effectiveAt : Int) :
    checkSettlement (settlementRow db payment confirmation effectiveAt received app) = .ok () := by
  have hprincipal := h.principal
  have hinterest := h.interest
  have hpenalty := h.penalty
  have hwithin := h.within
  have hcomponents := h.components
  have hagreement := h.agreement
  unfold checkSettlement settlementRow
  simp only [bind_eq_ok, requireConstraint_eq_ok, exists_and_left, exists_const, Option.all_eq_true,
    decide_eq_true_eq]
  refine ⟨⟨by omega, by omega, hprincipal, hinterest, hpenalty, by omega⟩, by omega, trivial,
    fun k hk => (hcomponents k hk).1, fun k hk => (hcomponents k hk).2.1,
    fun k hk => (hcomponents k hk).2.2.1, fun k hk => (hcomponents k hk).2.2.2, h.before, h.after,
    fun e he => (hagreement e he).1, fun e he => (hagreement e he).2.1, fun e he => (hagreement e he).2.2⟩

/-- The evidence of a settlement is written when its row meets the constraints, the correction of the
late interest goes through and a contribution that became paid has an amount to credit. -/
theorem recordSettlement_ok (h : WellApplied received app)
    (hadjust : ∃ db', adjustAfterSettlement
      (recordedDb payment confirmation clock effectiveAt received app)
      (unsealedRow payment confirmation clock effectiveAt received app) = .ok db')
    (hpaid : ∀ account c, app.becamePaid = some (account, c) → 0 < c.amount) :
    ∃ r, recordSettlement env clock effectiveAt received confirmation payment app = .ok r := by
  obtain ⟨adjusted, hadjusted⟩ := hadjust
  obtain ⟨credited, hcredited⟩ := creditBecamePaid_ok adjusted clock
    (unsealedRow payment confirmation clock effectiveAt received app) hpaid
  unfold recordSettlement
  exact ⟨_, bind_eq_ok.mpr ⟨(), h.checked _ _ _ _, bind_eq_ok.mpr ⟨adjusted, hadjusted,
    bind_eq_ok.mpr ⟨credited, hcredited, rfl⟩⟩⟩⟩

/-- A settlement without late-charge components corrects no late interest. -/
theorem adjustAfterSettlement_plain {s : PaymentSettlement} (h : s.components = none) :
    adjustAfterSettlement db s = .ok db := by
  unfold adjustAfterSettlement
  rw [h]

/-- An unposted and unsettled payment settles when it can be applied and recorded. -/
theorem settle_ok (hsource : confirmation.source ≠ "") (hfound : db.payment? payment.id = some payment)
    (hunsettled : db.settlementOfPayment? payment.id = none) (hposted : payment.ledgerPostedAt = none)
    (hledger : ∀ k, payment.reference = some (.agreementInstallment k) →
      ledgerHas db .AGREEMENT_INSTALLMENT_PAYMENT (toString payment.id) = false)
    (hreceived : 0 ≤ receivedAmount payment)
    (happ : applyToObligation env db clock (effectiveInstant clock payment confirmation)
      (receivedAmount payment) confirmation payment = .ok app)
    (hrecord : ∃ r, recordSettlement env clock (effectiveInstant clock payment confirmation)
      (receivedAmount payment) confirmation payment app = .ok r) :
    ∃ r, settleConfirmedPixPayment env db clock payment.id confirmation = .ok r := by
  obtain ⟨r, hrecord⟩ := hrecord
  refine ⟨r, ?_⟩
  unfold settleConfirmedPixPayment
  simp only [bind_eq_ok, refuseIf_eq_ok, orRefuse_eq_ok, exists_and_left, exists_const]
  refine ⟨hsource, payment, hfound, ?_⟩
  rw [hunsettled]
  dsimp only
  simp only [bind_eq_ok, refuseIf_eq_ok, exists_and_left, exists_const]
  refine ⟨?_, by simp [hposted], not_lt.mpr hreceived, app, happ, hrecord⟩
  rintro ⟨hagreement, hlegacy⟩
  cases href : payment.reference with
  | none => simp [href] at hagreement
  | some reference =>
    cases reference with
    | contribution k => simp [href] at hagreement
    | loanInstallment k => simp [href] at hagreement
    | agreementInstallment k =>
      rw [hposted, hledger k href] at hlegacy
      simp at hlegacy

end Recording

section Contribution
variable {c : Contribution}

/-- The payment names the contribution, or names nothing and this one alone points at it. -/
def Pays (db : Db) (payment : Payment) (c : Contribution) : Prop :=
  (∃ k, payment.reference = some (.contribution k) ∧ db.contribution? k = some c) ∨
    (payment.reference = none ∧ db.contributions.filter (fun c => c.paymentId = some payment.id) = [c])

/-- The contribution is not cancelled, its member exists, and if the payment completes it, it has an
amount to credit. -/
structure ContributionPayable (db : Db) (received : Int) (c : Contribution) : Prop where
  live : c.cancelledAt = none
  member : ∃ member, db.member? c.memberId = some member
  creditable : c.amount ≤ contributionPaidAmount c ∨ received < c.amount - contributionPaidAmount c ∨
    0 < c.amount

private theorem contributionFinancialStatus_mem {paid asOf : Int} (h : c.cancelledAt = none) :
    contributionFinancialStatus c paid asOf ∈ settledStatuses := by
  unfold contributionFinancialStatus settledStatuses
  rw [h, Option.isSome_none, if_neg Bool.false_ne_true]
  split
  · simp
  split
  · simp
  split
  · rename_i hstatus
    have hlisted := hstatus.2
    simp only [List.mem_cons, List.not_mem_nil, or_false] at hlisted ⊢
    rcases hlisted with h | h | h <;> simp [h]
  · split <;> simp

private theorem applyToContribution_ok (env : Env) (clock effectiveAt : Int)
    (h : ContributionPayable db received c) (hreceived : 0 ≤ received)
    (hposted : payment.ledgerPostedAt = none) : ∃ app,
    applyToContribution env db clock effectiveAt received payment c = .ok app ∧ WellApplied received app ∧
      app.components = none ∧ ∀ account x, app.becamePaid = some (account, x) → 0 < x.amount := by
  obtain ⟨accounts, account, hlock⟩ := lockMemberFinancialAccount_ok h.member
  obtain ⟨rows, hrows⟩ := whenPositive_postOnce_ok env
    (Db.putContribution { db with accounts := accounts }
      (creditedContribution c (contributionApplied c received) effectiveAt)) clock payment
    .CONTRIBUTION_PAYMENT (contributionApplied c received)
  have hstatus : (creditedContribution c (contributionApplied c received) effectiveAt).status ∈
      settledStatuses := by
    rw [creditedContribution]
    exact contributionFinancialStatus_mem h.live
  unfold applyToContribution
  rw [hlock, ok_bind]
  simp only [h.live, Option.isSome_none, refuseIf, Bool.false_eq_true, if_false, ok_bind,
    postContributionPayment, hposted]
  rw [hrows, ok_bind]
  refine ⟨_, rfl, ⟨?_, le_rfl, le_rfl, ?_, by simp, contributionFinancialStatus_mem h.live, hstatus,
    by simp⟩, rfl, ?_⟩
  · simp only [contributionApplied]
    omega
  · simp only [contributionApplied]
    omega
  · intro account' x hbecame
    simp only at hbecame
    split at hbecame
    · rename_i hpaid
      obtain ⟨hbefore, hafter⟩ := hpaid
      rw [Ne, contributionFinancialStatus_eq_paid, not_and] at hbefore
      rw [creditedContribution_paid h.live] at hafter
      obtain ⟨-, rfl⟩ := Prod.mk.inj (Option.some.inj hbecame)
      have hcreditable := h.creditable
      have hopen := hbefore h.live
      simp only [creditedContribution, contributionApplied] at hafter ⊢
      omega
    · cases hbecame

/-- A payment of a live contribution settles. -/
theorem settle_contribution (hsource : confirmation.source ≠ "")
    (hfound : db.payment? payment.id = some payment)
    (hunsettled : db.settlementOfPayment? payment.id = none) (hposted : payment.ledgerPostedAt = none)
    (hreceived : 0 ≤ receivedAmount payment) (hpays : Pays db payment c)
    (h : ContributionPayable db (receivedAmount payment) c) :
    ∃ r, settleConfirmedPixPayment env db clock payment.id confirmation = .ok r := by
  obtain ⟨app, happ, hbalanced, hplain, hpaid⟩ := applyToContribution_ok env clock
    (effectiveInstant clock payment confirmation) h hreceived hposted
  refine settle_ok hsource hfound hunsettled hposted ?_ hreceived ?_
    (recordSettlement_ok hbalanced ⟨_, adjustAfterSettlement_plain hplain⟩ hpaid)
  · rintro k href
    rcases hpays with ⟨j, hreference, -⟩ | ⟨hreference, -⟩ <;> rw [hreference] at href <;> cases href
  · unfold applyToObligation lockedContribution lockedInstallment
    rcases hpays with ⟨j, hreference, hrow⟩ | ⟨hreference, hrows⟩
    · rw [hreference]
      dsimp only
      rw [hrow]
      exact happ
    · rw [hreference]
      dsimp only
      rw [hrows]
      exact happ

end Contribution

section Agreement
variable {agreement : CollectionAgreement} {inst : AgreementInstallment}

/-- The installment of an agreement that applies, with something open. -/
structure AgreementPayable (db : Db) (received : Int) (agreement : CollectionAgreement)
    (inst : AgreementInstallment) : Prop where
  found : db.agreement? inst.agreementId = some agreement
  member : ∃ member, db.member? agreement.memberId = some member
  received : 0 < received
  owes : inst.paidPenaltyAmount < inst.penaltyAmount ∨ inst.paidAmount < inst.principal
  paid : 0 ≤ inst.paidAmount ∧ 0 ≤ inst.paidPenaltyAmount
  status : inst.status ∈ [.OPEN, .PARTIAL, .PAID]
  applies : agreement.status ∈ [.APPROVED, .SETTLED]

private theorem applyToAgreementInstallment_ok (env : Env) (clock effectiveAt : Int) (payment : Payment)
    (h : AgreementPayable db received agreement inst) : ∃ app,
    applyToAgreementInstallment env db clock effectiveAt received payment agreement inst = .ok app ∧
      WellApplied received app ∧ app.components = none ∧ app.becamePaid = none := by
  obtain ⟨member, hmember⟩ := h.member
  have hreceived := h.received
  have howes := h.owes
  obtain ⟨hpaid, hpenalty⟩ := h.paid
  have happlied : 0 < min received (max 0 (inst.penaltyAmount - inst.paidPenaltyAmount) +
      max 0 (inst.principal - inst.paidAmount)) := by omega
  unfold applyToAgreementInstallment
  simp only [hmember, orRefuse, ok_bind, refuseIf, not_le.mpr happlied, if_false]
  have hpenaltyOpen : 0 ≤ max 0 (inst.penaltyAmount - inst.paidPenaltyAmount) := le_max_left _ _
  have hprincipalOpen : 0 ≤ max 0 (inst.principal - inst.paidAmount) := le_max_left _ _
  generalize max 0 (inst.penaltyAmount - inst.paidPenaltyAmount) = penaltyOpen at *
  generalize max 0 (inst.principal - inst.paidAmount) = principalOpen at *
  obtain ⟨rows, e, hpost⟩ : ∃ rows e, postEntry env (Db.putAgreementInstallment db _) clock
    (paymentCredit payment .AGREEMENT_INSTALLMENT_PAYMENT (min received (penaltyOpen + principalOpen))) =
      .ok ({ Db.putAgreementInstallment db _ with ledgerEntries := rows }, e) := postEntry_credit_ok happlied
  rw [hpost, ok_bind]
  have hkept : ∀ (settled : Prop) [Decidable settled],
      (if settled then .SETTLED else agreement.status) ∈ [AgreementStatus.APPROVED, .SETTLED] := by
    intro settled _
    split
    · simp
    · exact h.applies
  refine ⟨_, rfl, ⟨?_, le_rfl, ?_, ?_, by simp, ?_, ?_, ?_⟩, rfl, rfl⟩
  · dsimp only
    omega
  · dsimp only
    omega
  · dsimp only
    omega
  · have hstatus := h.status
    simp only [settledStatuses, List.mem_cons, List.not_mem_nil, or_false] at hstatus ⊢
    rcases hstatus with h | h | h <;> simp [h]
  · simp only [settledStatuses]
    split <;> simp
  · intro e he
    obtain rfl := Option.some.inj he
    refine ⟨⟨h.status, ?_⟩, ⟨h.applies, ?_⟩, hpaid, ?_, hpenalty, ?_⟩
    · dsimp only
      split <;> simp
    · exact hkept _
    · dsimp only
      omega
    · dsimp only
      omega

/-- The payment of an agreement installment settles. -/
theorem settle_agreement (hsource : confirmation.source ≠ "")
    (hfound : db.payment? payment.id = some payment)
    (hunsettled : db.settlementOfPayment? payment.id = none) (hposted : payment.ledgerPostedAt = none)
    (hledger : ledgerHas db .AGREEMENT_INSTALLMENT_PAYMENT (toString payment.id) = false)
    (href : payment.reference = some (.agreementInstallment inst.id))
    (hconfirmed : agreementConfirmed payment confirmation)
    (hpointers : (db.contributions.filter (fun c => c.paymentId = some payment.id)).length ≤ 1)
    (hinst : db.agreementInstallment? inst.id = some inst)
    (h : AgreementPayable db (receivedAmount payment) agreement inst) :
    ∃ r, settleConfirmedPixPayment env db clock payment.id confirmation = .ok r := by
  obtain ⟨app, happ, hbalanced, hplain, hpaid⟩ := applyToAgreementInstallment_ok env clock
    (effectiveInstant clock payment confirmation) payment h
  obtain ⟨pointer, hpointer⟩ : ∃ pointer, lockedContribution db payment = .ok pointer := by
    unfold lockedContribution
    rw [href]
    dsimp only
    generalize db.contributions.filter (fun c => c.paymentId = some payment.id) = pointers at hpointers
    rcases pointers with _ | ⟨x, _ | ⟨y, rest⟩⟩
    · exact ⟨_, rfl⟩
    · exact ⟨_, rfl⟩
    · simp at hpointers
  refine settle_ok hsource hfound hunsettled hposted (fun _ _ => hledger) h.received.le ?_
    (recordSettlement_ok hbalanced ⟨_, adjustAfterSettlement_plain hplain⟩ (by simp [hpaid]))
  unfold applyToObligation
  rw [hpointer, ok_bind, href]
  simp only [hconfirmed, not_true_eq_false, refuseIf, if_false, ok_bind, hinst, orRefuse,
    lockCollectionAgreement, h.found]
  exact happ

end Agreement

end Caixinha.Effects
