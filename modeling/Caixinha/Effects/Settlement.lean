import Caixinha.Effects.Charges

/-! What a settlement does: the ways it can go, the effect of each branch on the database, and
the evidence every branch ends in. -/
namespace Caixinha.Effects

open Caixinha.Library Caixinha.Library.Table Fallible Caixinha.Model

variable {env : Env} {db db' : Db} {clock effectiveAt received : Int} {payment : Payment}

/-- When a confirmed payment takes effect. -/
def effectiveInstant (clock : Int) (payment : Payment) (c : Confirmation) : Int :=
  ((c.confirmedAt.map (·.instant)) <|> payment.confirmedAt).getD clock

def receivedAmount (payment : Payment) : Int := payment.amountReceived.getD payment.amount

/-- A successful settlement found the one there was, or applied the payment and recorded it. -/
theorem settle_cases {paymentId : Nat} {c : Confirmation} {s : PaymentSettlement}
    (h : settleConfirmedPixPayment env db clock paymentId c = .ok (db', s)) :
    ∃ payment, db.payment? paymentId = some payment ∧ payment.id = paymentId ∧
      ((db.settlementOfPayment? paymentId = some s ∧ db' = db) ∨
      (db.settlementOfPayment? paymentId = none ∧ payment.ledgerPostedAt = none ∧
        0 ≤ receivedAmount payment ∧
        ∃ app, applyToObligation env db clock (effectiveInstant clock payment c)
            (receivedAmount payment) c payment = .ok app ∧
          recordSettlement env clock (effectiveInstant clock payment c) (receivedAmount payment) c
            payment app = .ok (db', s))) := by
  unfold settleConfirmedPixPayment at h
  simp only [bind_eq_ok, refuseIf_eq_ok, orRefuse_eq_ok, exists_and_left, exists_const] at h
  obtain ⟨-, payment, hpayment, h⟩ := h
  have hid : payment.id = paymentId := lookup_key hpayment
  rw [hid] at h
  refine ⟨payment, hpayment, hid, ?_⟩
  split at h
  · rename_i existing hexisting
    rw [pure_eq_ok, Prod.mk.injEq] at h
    obtain ⟨rfl, rfl⟩ := h
    exact .inl ⟨hexisting, rfl⟩
  · rename_i hnone
    simp only [bind_eq_ok, refuseIf_eq_ok, exists_and_left, exists_const] at h
    obtain ⟨-, hposted, hreceived, app, happ, hrec⟩ := h
    exact .inr ⟨hnone, by simpa using hposted, not_lt.mp hreceived, app, happ, hrec⟩

/-- The payment names the contribution, or names no contribution and is named by it. -/
def refersTo (c : Contribution) (p : Payment) : Bool :=
  match p.reference with
  | some (.contribution id) => id = c.id
  | _ => c.paymentId = some p.id

private theorem refersTo_of_ne {c : Contribution} (hne : ∀ id, payment.reference ≠ some (.contribution id)) :
    refersTo c payment = decide (c.paymentId = some payment.id) := by
  rcases hreference : payment.reference with _ | (id | id | id)
  · simp only [refersTo, hreference]
  · exact absurd hreference (hne id)
  · simp only [refersTo, hreference]
  · simp only [refersTo, hreference]

theorem lockedContribution_some {c : Contribution} (h : lockedContribution db payment = .ok (some c)) :
    c ∈ db.contributions ∧ refersTo c payment := by
  unfold lockedContribution at h
  split at h
  · rename_i id href
    rw [Except.ok.injEq] at h
    have hkey : c.id = id := lookup_key h
    simp [refersTo, href, hkey, lookup_mem h]
  · rename_i hne
    have hmem : c ∈ db.contributions.filter (fun c => c.paymentId = some payment.id) := by
      split at h
      · simp at h
      · rename_i x hx
        simp only [Except.ok.injEq, Option.some.injEq] at h
        simp [hx, h]
      · cases h
    rw [List.mem_filter] at hmem
    exact ⟨hmem.1, (refersTo_of_ne hne).trans hmem.2⟩

/-- The branch a payment takes. -/
theorem applyToObligation_cases {c : Confirmation} {app : Application}
    (h : applyToObligation env db clock effectiveAt received c payment = .ok app) :
    (∃ inst agreement, payment.reference = some (.agreementInstallment inst.id) ∧
      db.agreementInstallment? inst.id = some inst ∧ db.agreement? inst.agreementId = some agreement ∧
      applyToAgreementInstallment env db clock effectiveAt received payment agreement inst = .ok app) ∨
    (∃ contribution, lockedContribution db payment = .ok (some contribution) ∧
      applyToContribution env db clock effectiveAt received payment contribution = .ok app) ∨
    (∃ inst, payment.reference = some (.loanInstallment inst.id) ∧
      db.installment? inst.id = some inst ∧
      applyToInstallment env db clock effectiveAt received c.confirmedAt payment inst = .ok app) := by
  unfold applyToObligation at h
  rw [bind_eq_ok] at h
  obtain ⟨contribution, hcontribution, h⟩ := h
  split at h
  · rename_i id href
    simp only [bind_eq_ok, refuseIf_eq_ok, orRefuse_eq_ok, lockCollectionAgreement, exists_and_left,
      exists_const] at h
    obtain ⟨-, inst, hinst, agreement, hagreement, happ⟩ := h
    obtain rfl : inst.id = id := lookup_key hinst
    exact .inl ⟨inst, agreement, href, hinst, hagreement, happ⟩
  · split at h
    · rename_i contribution _
      exact .inr (.inl ⟨contribution, hcontribution, h⟩)
    · rename_i inst hinst
      unfold lockedInstallment at hinst
      split at hinst
      · rename_i id href
        obtain rfl : inst.id = id := lookup_key hinst
        exact .inr (.inr ⟨inst, href, hinst, h⟩)
      · cases hinst
    · cases h

/-- The posting of a contribution payment: its row, unless the ledger has it already. -/
theorem postContributionPayment_spec {amount : Int}
    (hposted : payment.ledgerPostedAt = none)
    (h : postContributionPayment env db clock payment amount = .ok db') :
    (ledgerHas db .CONTRIBUTION_PAYMENT (toString payment.id) ∧ db' = db) ∨
      ∃ e, db' = { db with ledgerEntries := db.ledgerEntries ++ [e] } ∧ Posting db.ledgerEntries e ∧
        PaymentRow payment e ∧ e.referenceType = .CONTRIBUTION_PAYMENT ∧ e.amount.val = amount ∧
        ledgerHas db .CONTRIBUTION_PAYMENT (toString payment.id) = false := by
  rw [postContributionPayment, hposted, Option.isSome_none, if_neg Bool.false_ne_true] at h
  exact postOnce_spec h

/-- The ledger rows a contribution payment leaves. -/
def ContributionRows (db : Db) (payment : Payment) (applied : Int) (rows : List LedgerEntry) : Prop :=
  (rows = [] ∧ (0 < applied → ledgerHas db .CONTRIBUTION_PAYMENT (toString payment.id))) ∨
    ∃ e, rows = [e] ∧ 0 < applied ∧ Posting db.ledgerEntries e ∧ PaymentRow payment e ∧
      e.referenceType = .CONTRIBUTION_PAYMENT ∧ e.amount.val = applied ∧
      ledgerHas db .CONTRIBUTION_PAYMENT (toString payment.id) = false

/-- What settling a contribution does before its evidence is recorded. -/
theorem applyToContribution_spec {c : Contribution} {app : Application}
    (hposted : payment.ledgerPostedAt = none)
    (h : applyToContribution env db clock effectiveAt received payment c = .ok app) :
    ∃ locked account rows, lockMemberFinancialAccount db c.memberId = .ok (locked, account) ∧
      c.cancelledAt = none ∧
      ContributionRows db payment (contributionApplied c received) rows ∧
      app = { db := { locked with
                contributions := replace Contribution.id db.contributions
                  (creditedContribution c (contributionApplied c received) effectiveAt)
                ledgerEntries := db.ledgerEntries ++ rows }
              memberId := c.memberId
              obligation := .contribution c.id
              receiptVersion := .v1
              principalApplied := contributionApplied c received
              statusBefore := contributionFinancialStatus c (contributionPaidAmount c) effectiveAt
              statusAfter :=
                (creditedContribution c (contributionApplied c received) effectiveAt).status
              becamePaid :=
                if contributionFinancialStatus c (contributionPaidAmount c) effectiveAt ≠ .PAID ∧
                  (creditedContribution c (contributionApplied c received) effectiveAt).status = .PAID
                then some (account,
                  creditedContribution c (contributionApplied c received) effectiveAt) else none } := by
  unfold applyToContribution at h
  simp only [bind_eq_ok, pure_eq_ok, refuseIf_eq_ok, Prod.exists, exists_and_left, exists_const] at h
  obtain ⟨locked, account, hlock, hcancelled, posted, hpost, rfl⟩ := h
  obtain ⟨accounts, rfl, -⟩ := lockMemberFinancialAccount_spec hlock
  have hcancelled : c.cancelledAt = none := by simpa using hcancelled
  unfold whenPositive at hpost
  split at hpost
  · rename_i hpos
    rcases postContributionPayment_spec hposted hpost with ⟨hhas, rfl⟩ | ⟨e, rfl, hp, hrow, ht, ha, hnot⟩
    · exact ⟨_, account, [], hlock, hcancelled, .inl ⟨rfl, fun _ => hhas⟩, by simp [Db.putContribution]⟩
    · exact ⟨_, account, [e], hlock, hcancelled, .inr ⟨e, rfl, hpos, hp, hrow, ht, ha, hnot⟩, rfl⟩
  · rename_i hnot
    rw [Except.ok.injEq] at hpost
    subst hpost
    exact ⟨_, account, [], hlock, hcancelled, .inl ⟨rfl, fun hpos => absurd hpos hnot⟩,
      by simp [Db.putContribution]⟩

section Record
variable {c : Confirmation} {app : Application} {s : PaymentSettlement}

theorem adjustAfterSettlement_spec (hkeyed : Keyed LoanInstallment.id db.loanInstallments)
    (h : adjustAfterSettlement db s = .ok db') :
    ((s.components = none ∨ s.obligation.loanInstallmentId = none) ∧ db' = db) ∨
      ∃ id, s.obligation = .loanInstallment id ∧ Charged id db db' := by
  unfold adjustAfterSettlement at h
  split at h
  · rename_i id hcomponents hobligation
    simp only [bind_eq_ok, Prod.exists] at h
    obtain ⟨adjusted, event, hadjust, inst, hinst, hflush⟩ := h
    refine .inr ⟨id, hobligation, ?_⟩
    have hcharged : Charged id db adjusted := by
      unfold materializeSettlementLateInterestAdjustment at hadjust
      rw [hobligation] at hadjust
      simp only [bind_eq_ok, lockInstallment, orRefuse_eq_ok] at hadjust
      obtain ⟨row, hrow, hadjust⟩ := hadjust
      have hid : row.id = id := lookup_key hrow
      split at hadjust
      · rw [pure_eq_ok, Prod.mk.injEq] at hadjust
        exact hadjust.1 ▸ Charged.refl id db
      · exact charged_materializeAdjustment hkeyed hrow hid hadjust
    rw [lockInstallment, orRefuse_eq_ok] at hinst
    refine hcharged.trans (charged_flush (hcharged.keyed hkeyed) hinst ?_ hflush)
    exact ChargedAs.of_withPenaltyTotal (lookup_key hinst)
  · rename_i hne
    rw [Except.ok.injEq] at h
    refine .inl ⟨?_, h.symm⟩
    cases hcomponents : s.components with
    | none => exact .inl rfl
    | some components =>
      cases hobligation : s.obligation with
      | loanInstallment id => exact absurd hobligation (hne _ _ hcomponents)
      | contribution id => exact .inr rfl
      | agreementInstallment id => exact .inr rfl

theorem creditBecamePaid_spec {became : Option (MemberFinancialAccount × Contribution)}
    (h : creditBecamePaid db clock s became = .ok db') :
    (became = none ∧ db' = db) ∨ ∃ account contribution e, became = some (account, contribution) ∧
      db' = { db with memberEntries := db.memberEntries ++ [e] } ∧
      EntryOf account (contributionCredit contribution s) e := by
  cases became with
  | none =>
    rw [creditBecamePaid, Except.ok.injEq] at h
    exact .inl ⟨rfl, h.symm⟩
  | some pair =>
    simp only [creditBecamePaid, bind_eq_ok, pure_eq_ok, Prod.exists] at h
    obtain ⟨next, e, hadd, rfl⟩ := h
    obtain ⟨hdb, he⟩ := addMemberFinancialEntry_spec hadd
    exact .inr ⟨pair.1, pair.2, e, rfl, hdb, he⟩

@[simp] theorem confirmedPayment_id : (confirmedPayment payment c clock effectiveAt received).id =
    payment.id := by
  unfold confirmedPayment persistRemotePayload
  split <;> rfl

@[simp] theorem confirmedPayment_reference :
    (confirmedPayment payment c clock effectiveAt received).reference = payment.reference := by
  unfold confirmedPayment persistRemotePayload
  split <;> rfl

@[simp] theorem releaseAttempt_id (o : Obligation) (applied : Int) :
    (releaseAttempt payment c o applied).id = payment.id := by
  unfold releaseAttempt
  split <;> rfl

@[simp] theorem releaseAttempt_reference (o : Obligation) (applied : Int) :
    (releaseAttempt payment c o applied).reference = payment.reference := by
  unfold releaseAttempt
  split <;> rfl

def appliedAmount (app : Application) : Int :=
  app.principalApplied + app.interestApplied + app.penaltyApplied

/-- The payment once its settlement is recorded. -/
def settledPayment (payment : Payment) (c : Confirmation) (clock effectiveAt received : Int)
    (app : Application) : Payment :=
  releaseAttempt (confirmedPayment payment c clock effectiveAt received) c app.obligation
    (appliedAmount app)

/-- The row a settlement inserts, before its receipt. -/
def unsealedRow (payment : Payment) (c : Confirmation) (clock effectiveAt received : Int)
    (app : Application) : PaymentSettlement :=
  settlementRow app.db (confirmedPayment payment c clock effectiveAt received) c effectiveAt received app

/-- The row a settlement leaves. -/
def settledRow (env : Env) (payment : Payment) (c : Confirmation) (clock effectiveAt received : Int)
    (app : Application) : PaymentSettlement :=
  writeReceipt env app.db (confirmedPayment payment c clock effectiveAt received)
    (unsealedRow payment c clock effectiveAt received app)

/-- The database when the late interest is corrected. -/
def recordedDb (payment : Payment) (c : Confirmation) (clock effectiveAt received : Int)
    (app : Application) : Db :=
  { app.db with
    payments := replace Payment.id app.db.payments
      (confirmedPayment payment c clock effectiveAt received)
    settlements := app.db.settlements ++ [unsealedRow payment c clock effectiveAt received app] }

/-- Everything recording a settlement writes. -/
theorem recordSettlement_spec (hkeyed : Keyed LoanInstallment.id app.db.loanInstallments)
    (h : recordSettlement env clock effectiveAt received c payment app = .ok (db', s)) :
    ∃ charged entries,
      checkSettlement (unsealedRow payment c clock effectiveAt received app) = .ok () ∧
      adjustAfterSettlement (recordedDb payment c clock effectiveAt received app)
        (unsealedRow payment c clock effectiveAt received app) = .ok charged ∧
      creditBecamePaid charged clock (unsealedRow payment c clock effectiveAt received app)
        app.becamePaid = .ok { charged with memberEntries := app.db.memberEntries ++ entries } ∧
      s = settledRow env payment c clock effectiveAt received app ∧
      db' = { app.db with
        loanInstallments := charged.loanInstallments
        lateChargeEvents := charged.lateChargeEvents
        memberEntries := app.db.memberEntries ++ entries
        payments := replace Payment.id app.db.payments
          (settledPayment payment c clock effectiveAt received app)
        settlements := app.db.settlements ++ [s] } := by
  unfold recordSettlement at h
  simp only [bind_eq_ok, pure_eq_ok, Prod.mk.injEq] at h
  obtain ⟨u, hcheck, charged, hadjust, credited, hcredit, hdb, hs⟩ := h
  change adjustAfterSettlement (recordedDb payment c clock effectiveAt received app)
    (unsealedRow payment c clock effectiveAt received app) = .ok charged at hadjust
  have hkeyed' : Keyed LoanInstallment.id
    (recordedDb payment c clock effectiveAt received app).loanInstallments := hkeyed
  have hcharged : charged = { recordedDb payment c clock effectiveAt received app with
      loanInstallments := charged.loanInstallments
      lateChargeEvents := charged.lateChargeEvents } := by
    rcases adjustAfterSettlement_spec hkeyed' hadjust with ⟨-, hsame⟩ | ⟨id, -, hc⟩
    · rw [hsame]
    · exact hc.only
  obtain ⟨entries, hentries⟩ : ∃ entries,
      credited = { charged with memberEntries := app.db.memberEntries ++ entries } := by
    have hmembers : charged.memberEntries = app.db.memberEntries := by rw [hcharged]; rfl
    rcases creditBecamePaid_spec hcredit with ⟨-, hsame⟩ | ⟨account, contribution, e, -, hnew, -⟩
    · exact ⟨[], by rw [hsame, ← hmembers]; simp⟩
    · exact ⟨[e], by rw [hnew, hmembers]⟩
  subst hentries
  have hs' : s = settledRow env payment c clock effectiveAt received app := by
    rw [← hs, hcharged]
    rfl
  refine ⟨charged, entries, hcheck, hadjust, hcredit, hs', ?_⟩
  have hreplace : replace PaymentSettlement.id (app.db.settlements ++
      [unsealedRow payment c clock effectiveAt received app]) s = app.db.settlements ++ [s] :=
    replace_append_new rfl (by rw [hs']; rfl)
  have hpayment : replace Payment.id (replace Payment.id app.db.payments
        (confirmedPayment payment c clock effectiveAt received))
      (settledPayment payment c clock effectiveAt received app) =
      replace Payment.id app.db.payments
        (settledPayment payment c clock effectiveAt received app) :=
    replace_replace (by simp [settledPayment]) _
  rw [← hdb, ← hreplace, ← hpayment, ← hs, hcharged]
  rfl

end Record

end Caixinha.Effects
