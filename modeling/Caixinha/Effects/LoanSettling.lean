import Caixinha.Effects.ChargeBooks
import Caixinha.Effects.Settling

/-! When the settlement of a loan installment goes through, and the quote of a day before it. -/
namespace Caixinha.Effects

open Caixinha.Library Caixinha.Library.Table Caixinha.Library.DatedSum Fallible Caixinha.Model

variable {env : Env} {db db' : Db} {clock effectiveAt received day : Int} {payment : Payment}
  {confirmation : Confirmation} {id : Nat} {inst : LoanInstallment} {loan : Loan}
  {effectiveDate : Option Int}

section Loans

/-- The loan of an installment, not paid yet. -/
structure OpenLoan (db : Db) (inst : LoanInstallment) (loan : Loan) : Prop where
  found : db.loan? inst.loanId = some loan
  member : ∃ member, db.member? loan.memberId = some member
  status : loan.status ≠ .PAID
  unpaid : loan.paidAt = none

private theorem loanEvidenceOf_ok (h : OpenLoan db inst loan) (after : Loan)
    (hrevision : after.stateRevision = loan.stateRevision + 1)
    (hpaid : after.status = .PAID ↔ after.paidAt.isSome) (instBefore instAfter : LoanInstallment) :
    ∃ e, loanEvidenceOf loan after instBefore instAfter = .ok e := by
  unfold loanEvidenceOf
  simp only [bind_eq_ok, refuseIf_eq_ok, pure_eq_ok, exists_and_left, exists_const]
  refine ⟨not_not.mpr hrevision, by simp [h.status, h.unpaid], ?_, ?_, _, rfl⟩
  · rintro ⟨hyes, hnone⟩
    rw [hpaid, ← Option.not_isNone, hnone] at hyes
    simp at hyes
  · rintro ⟨hno, hsome⟩
    exact hno (hpaid.mpr hsome)

private theorem completed_paid (h : OpenLoan db inst loan) (books : Db) (clock : Int) :
    (ensureLoanCompletion books clock loan).status = .PAID ↔
      (ensureLoanCompletion books clock loan).paidAt.isSome := by
  unfold ensureLoanCompletion
  dsimp only
  split
  · simp
  · simp [h.status, h.unpaid]

private theorem completed_revision (books : Db) (clock : Int) :
    (ensureLoanCompletion books clock loan).stateRevision = loan.stateRevision := by
  unfold ensureLoanCompletion
  dsimp only
  split <;> rfl

private theorem versioned_paid (h : OpenLoan db inst loan) (books : Db) (clock effectiveAt : Int) :
    (loanAfterVersioned books clock effectiveAt loan).status = .PAID ↔
      (loanAfterVersioned books clock effectiveAt loan).paidAt.isSome := by
  have hcompleted := completed_paid h books clock
  unfold loanAfterVersioned touchLoan
  split
  · rename_i hpaid
    simp [hpaid]
  · exact hcompleted

private theorem versioned_revision (books : Db) (clock effectiveAt : Int) :
    (loanAfterVersioned books clock effectiveAt loan).stateRevision = loan.stateRevision + 1 := by
  have hcompleted : (ensureLoanCompletion books clock loan).stateRevision = loan.stateRevision :=
    completed_revision books clock
  unfold loanAfterVersioned touchLoan
  split
  · exact congrArg (· + 1) hcompleted
  · exact congrArg (· + 1) hcompleted

private theorem installmentFinancialStatus_mem (inst : LoanInstallment) (asOf : Int) :
    installmentFinancialStatus inst asOf ∈ settledStatuses := by
  unfold installmentFinancialStatus settledStatuses
  split
  · simp
  split
  · simp
  split <;> simp

end Loans

section Legacy

/-- The payment of an installment of before the late charges: something is received and due. -/
private theorem applyToLegacyInstallment_ok (env : Env) (clock effectiveAt : Int) (payment : Payment)
    (account : MemberFinancialAccount) (books : Db) (h : OpenLoan db inst loan) (hreceived : 0 < received)
    (hdue : 0 < installmentDue inst) : ∃ app,
    applyToLegacyInstallment env books clock effectiveAt received payment account loan inst = .ok app ∧
      WellApplied received app ∧ app.components = none ∧ app.becamePaid = none := by
  unfold applyToLegacyInstallment applyPayment
  rw [installmentDue] at hdue
  have hpenaltyOpen : 0 ≤ max 0 (inst.penaltyAmount - inst.paidPenaltyAmount) := le_max_left _ _
  have hbaseOpen : 0 ≤ max 0 (inst.amount - inst.paidAmount) := le_max_left _ _
  generalize max 0 (inst.penaltyAmount - inst.paidPenaltyAmount) = penaltyOpen at *
  generalize max 0 (inst.amount - inst.paidAmount) = baseOpen at *
  have hpositive : ¬ min penaltyOpen (min received (penaltyOpen + baseOpen)) + min baseOpen
      (min received (penaltyOpen + baseOpen) - min penaltyOpen (min received (penaltyOpen + baseOpen))) ≤ 0 := by
    omega
  simp only [refuseIf, if_neg hpositive, ok_bind]
  generalize hpenalty : min penaltyOpen (min received (penaltyOpen + baseOpen)) = penalty at *
  generalize hbase : min baseOpen (min received (penaltyOpen + baseOpen) - penalty) = base at *
  obtain ⟨first, hfirst⟩ := whenPositive_postOnce_ok env (Db.putInstallment books _) clock payment
    .LOAN_PENALTY_PAYMENT penalty
  rw [hfirst, ok_bind]
  obtain ⟨second, hsecond⟩ := whenPositive_postOnce_ok env
    { Db.putInstallment books _ with ledgerEntries := first } clock payment .LOAN_INTEREST_PAYMENT
    (min base (max 0 (inst.interest - min inst.interest inst.paidAmount)))
  rw [hsecond, ok_bind]
  obtain ⟨entries, hentries⟩ := creditPrincipal_ok { Db.putInstallment books _ with ledgerEntries := second }
    clock account payment
    (max 0 (base - min base (max 0 (inst.interest - min inst.interest inst.paidAmount))))
  rw [hentries, ok_bind]
  obtain ⟨evidence, hevidence⟩ := loanEvidenceOf_ok h (touchLoan (ensureLoanCompletion
    { Db.putInstallment books _ with ledgerEntries := second, memberEntries := entries } clock loan))
    (congrArg (· + 1) (completed_revision _ clock)) (completed_paid h _ clock) inst _
  rw [hevidence, ok_bind]
  refine ⟨_, rfl, ⟨le_max_left _ _, ?_, ?_, ?_, by simp, installmentFinancialStatus_mem _ _,
    installmentFinancialStatus_mem _ _, by simp⟩, rfl, rfl⟩
  · dsimp only
    omega
  · dsimp only
    omega
  · dsimp only
    omega

end Legacy

section Versioned

/-- The components due are split over a payment of at most their total. -/
private theorem allocate_split {due : LoanInstallmentObligation} (h : Payable due) {applied : Int}
    (happlied : 0 ≤ applied) (hwithin : applied ≤ due.totalDue) :
    applied = (allocate due applied).base + (allocate due applied).penalty ∧
      (0 ≤ (allocate due applied).principal ∧ 0 ≤ (allocate due applied).normalInterest) ∧
      (0 ≤ (allocate due applied).fixedPenalty ∧ (allocate due applied).fixedPenalty ≤ due.fixedPenaltyDue) ∧
      0 ≤ (allocate due applied).lateInterest ∧ (allocate due applied).lateInterest ≤ due.lateInterestDue := by
  obtain ⟨hprincipal, hnormal, hfixed, hlate, htotal⟩ := h
  simp only [allocate, Allocation.base, Allocation.penalty]
  omega

private theorem withPenaltyTotal_lateCharge (inst : LoanInstallment) :
    inst.withPenaltyTotal.lateCharge = inst.lateCharge := by
  unfold LoanInstallment.withPenaltyTotal
  split <;> rfl

private theorem allocateTo_lateCharge (inst : LoanInstallment) (a : Allocation)
    (effectiveAt financialDate remaining : Int) :
    (allocateTo inst a effectiveAt financialDate remaining).lateCharge = inst.lateCharge.map (fun p => { p with
      paidFixedPenaltyAmount := p.paidFixedPenaltyAmount + a.fixedPenalty
      paidLateInterestAmount := p.paidLateInterestAmount + a.lateInterest }) := by
  unfold allocateTo
  dsimp only
  split <;> exact withPenaltyTotal_lateCharge _

private theorem allocateTo_row (inst : LoanInstallment) (a : Allocation)
    (effectiveAt financialDate remaining : Int) :
    (allocateTo inst a effectiveAt financialDate remaining).id = inst.id := by
  unfold allocateTo LoanInstallment.withPenaltyTotal
  dsimp only
  split <;> split <;> rfl

private theorem allocateTo_status (inst : LoanInstallment) (a : Allocation)
    (effectiveAt financialDate remaining : Int) :
    (allocateTo inst a effectiveAt financialDate remaining).status ∈ settledStatuses := by
  unfold allocateTo settledStatuses
  dsimp only
  split
  · simp
  · dsimp only
    split <;> simp

/-- The columns after a payment of what is due. -/
private theorem allocated_checked (h : ChargeBooks day id db inst) {a : Allocation}
    (hfixed : 0 ≤ a.fixedPenalty ∧ a.fixedPenalty ≤ (dueOn db inst day).fixedPenaltyDue)
    (hlate : 0 ≤ a.lateInterest ∧ a.lateInterest ≤ (dueOn db inst day).lateInterestDue)
    (effectiveAt financialDate remaining : Int) :
    ∀ p, (allocateTo inst a effectiveAt financialDate remaining).lateCharge = some p →
      checkProjection p = .ok () := by
  intro p hp
  rw [allocateTo_lateCharge, Option.map_eq_some_iff] at hp
  obtain ⟨q, hq, rfl⟩ := hp
  have hprojection : inst.projection = q := by rw [LoanInstallment.projection, hq, Option.getD_some]
  obtain ⟨hroomFixed, hroomLate⟩ := h.room
  obtain ⟨hpaidFixed, -⟩ := h.paidFixed
  obtain ⟨hpaidLate, -⟩ := h.paidLate
  rw [hprojection] at hroomFixed hroomLate hpaidFixed hpaidLate
  unfold checkProjection
  simp only [bind_eq_ok, requireConstraint_eq_ok, exists_and_left, exists_const]
  omega

/-- What an application leaves of its installment for the correction of the late interest. -/
structure Adjustable (day : Int) (id : Nat) (app : Application) (after : LoanInstallment) : Prop where
  obligation : app.obligation = .loanInstallment id
  row : app.db.installment? id = some after
  checked : ∀ p, after.lateCharge = some p → checkProjection p = .ok ()
  cursor : ∀ c, after.projection.accruedThroughDate = some c → c ≤ day

/-- A payment of what an installment owes under late charge v1 can be applied. -/
private theorem applyToVersionedInstallment_ok (env : Env) (clock : Int) (payment : Payment)
    (account : MemberFinancialAccount) {books : Db} {confirmed : Timestamp} (haware : confirmed.aware)
    (hday : financialCivilDate confirmed.instant = day) (h : ChargeBooks day inst.id db inst)
    (hloan : OpenLoan books inst loan) (hdue : inst.dueDate ≤ day)
    (howes : 0 < (dueOn db inst day).totalDue) (hreceived : 0 < received) :
    ∃ app after, applyToVersionedInstallment env db clock received (some confirmed) payment account loan inst =
        .ok app ∧ WellApplied received app ∧ app.becamePaid = none ∧ Adjustable day inst.id app after := by
  obtain ⟨mid, event, charged, created, hassess, haccrue, x, hx⟩ := h.charge env.lateChargeEffectiveDate
  have hrow := hx.books.row
  have hid := hx.books.id_eq
  have hdue' : x.dueDate ≤ day := by rw [hx.only]; exact hdue
  have hobligation := loanInstallmentObligation_due hdue' (hid ▸ hx.books.through_nonneg)
  have hpositive := howes.trans_le (hx.dueOn_le rfl)
  have hsplit := fun applied => @allocate_split _ (payable_dueOn charged x day) applied
  have hcolumns := @allocated_checked _ _ _ _ hx.books
  generalize dueOn charged x day = due at hobligation hpositive hsplit hcolumns
  obtain ⟨hbase, hprincipal, hfixed, hlate⟩ := hsplit (min received due.totalDue) (by omega) (min_le_right _ _)
  have happlied : ¬ min received due.totalDue ≤ 0 := by omega
  have hchecked := hcolumns hfixed hlate confirmed.instant day (due.totalDue - min received due.totalDue)
  unfold applyToVersionedInstallment
  simp only [orRefuse, ok_bind, refuseIf, haware, not_true_eq_false, if_false, hday, hassess, haccrue,
    lockInstallment, hrow, hobligation, if_neg happlied, if_neg (not_not.mpr hbase),
    flushInstallment_ok hchecked]
  have hwithin := min_le_left received due.totalDue
  generalize allocate due (min received due.totalDue) = a at *
  generalize due.totalDue - min received due.totalDue = remaining at *
  have hself : lookup LoanInstallment.id (replace LoanInstallment.id charged.loanInstallments
      (allocateTo x a confirmed.instant day remaining)) inst.id =
        some (allocateTo x a confirmed.instant day remaining) := by
    have hfound : lookup LoanInstallment.id charged.loanInstallments
        (allocateTo x a confirmed.instant day remaining).id = some x := by
      rw [allocateTo_row, hid]
      exact hrow
    have hwritten := lookup_replace_self hfound
    rwa [allocateTo_row, hid] at hwritten
  have hcursor : ∀ c, (allocateTo x a confirmed.instant day remaining).projection.accruedThroughDate = some c →
      c ≤ day := by
    intro c hc
    refine hx.books.cursor c ?_
    rw [LoanInstallment.projection, allocateTo_lateCharge] at hc
    rw [LoanInstallment.projection]
    cases hcharge : x.lateCharge with
    | none => simpa [hcharge] using hc
    | some p => simpa [hcharge] using hc
  obtain ⟨first, hfirst⟩ := postPositive_ok env
    (charged.putInstallment (allocateTo x a confirmed.instant day remaining)) clock payment
    .LOAN_INTEREST_PAYMENT a.normalInterest
  rw [hfirst, ok_bind]
  obtain ⟨second, hsecond⟩ := postPositive_ok env
    { charged.putInstallment (allocateTo x a confirmed.instant day remaining) with ledgerEntries := first }
    clock payment .LOAN_PENALTY_PAYMENT a.penalty
  rw [hsecond, ok_bind]
  obtain ⟨entries, hentries⟩ := creditPrincipal_ok
    { charged.putInstallment (allocateTo x a confirmed.instant day remaining) with ledgerEntries := second }
    clock account payment a.principal
  rw [hentries, ok_bind]
  obtain ⟨evidence, hevidence⟩ := loanEvidenceOf_ok hloan
    (loanAfterVersioned { charged.putInstallment (allocateTo x a confirmed.instant day remaining) with
      ledgerEntries := second, memberEntries := entries } clock confirmed.instant loan)
    (versioned_revision _ clock _) (versioned_paid hloan _ clock _) inst
    (allocateTo x a confirmed.instant day remaining)
  refine ⟨_, allocateTo x a confirmed.instant day remaining, bind_eq_ok.mpr ⟨evidence, hevidence, rfl⟩,
    ⟨hprincipal.1, hprincipal.2, ?_, ?_, ?_, installmentFinancialStatus_mem _ _, allocateTo_status _ _ _ _ _,
      by simp⟩, rfl, rfl, hself, hchecked, hcursor⟩
  · exact add_nonneg hfixed.1 hlate.1
  · rw [hbase, Allocation.base] at hwithin
    dsimp only
    omega
  · intro k hk
    obtain rfl := Option.some.inj hk
    exact ⟨hprincipal.2, hlate.1, hfixed.1, rfl, add_comm _ _⟩

/-- Nothing is corrected of a payment of the last day on the books. -/
private theorem adjustAfterSettlement_ok {s : PaymentSettlement} {after : LoanInstallment}
    (hobligation : s.obligation = .loanInstallment id) (hrow : db.installment? id = some after)
    (hchecked : ∀ p, after.lateCharge = some p → checkProjection p = .ok ())
    (hcursor : ∀ c, after.projection.accruedThroughDate = some c → c ≤ s.financialDate) :
    ∃ db', adjustAfterSettlement db s = .ok db' := by
  have hadjust : materializeSettlementLateInterestAdjustment db s = .ok (db, none) := by
    unfold materializeSettlementLateInterestAdjustment materializeAdjustment
    rw [hobligation]
    simp only [lockInstallment, hrow, orRefuse, ok_bind]
    split
    · rfl
    split
    · rfl
    · rename_i c hc
      rw [if_pos (Int.lt_add_one_of_le (hcursor c hc))]
      rfl
  unfold adjustAfterSettlement
  rw [hobligation]
  split
  · rename_i k _ heq
    obtain rfl := Obligation.loanInstallment.inj heq
    have hflush : ∀ p, after.withPenaltyTotal.lateCharge = some p → checkProjection p = .ok () := by
      rw [withPenaltyTotal_lateCharge]
      exact hchecked
    exact ⟨_, bind_eq_ok.mpr ⟨_, hadjust, bind_eq_ok.mpr ⟨after, by rw [lockInstallment, hrow]; rfl,
      flushInstallment_ok hflush db⟩⟩⟩
  · exact ⟨_, rfl⟩

end Versioned

section Quote

private theorem loanInstallmentObligation_payable
    (hledger : inst.dueDate ≤ day → 0 ≤ lateThrough db inst.id day) :
    ∃ due, loanInstallmentObligation db inst day = .ok due ∧ Payable due := by
  rcases lt_or_ge day inst.dueDate with hearly | hdue
  · exact ⟨_, loanInstallmentObligation_early hearly, ⟨le_rfl, le_rfl, le_rfl, le_rfl, rfl⟩⟩
  · exact ⟨_, loanInstallmentObligation_due hdue (hledger hdue), payable_dueOn db inst day⟩

/-- The debt of a day is quoted. -/
theorem ChargeBooks.quote (env : Env) (h : ChargeBooks day inst.id db inst) (hnumber : 1 ≤ inst.number) :
    ∃ charged due snapshot after, attemptSnapshot env db inst day = .ok (charged, due, snapshot) ∧
      Recharged day inst.id db inst charged after := by
  obtain ⟨mid, event, charged, created, hassess, haccrue, x, hx⟩ := h.charge env.lateChargeEffectiveDate
  have hid := hx.books.id_eq
  obtain ⟨due, hdue, hpayable⟩ := @loanInstallmentObligation_payable charged day x
    fun _ => hid ▸ hx.books.through_nonneg
  obtain ⟨snapshot, hsnapshot⟩ := buildLoanInstallmentSnapshot_ok hpayable hnumber inst.loanId day
  refine ⟨charged, due, snapshot, x, ?_, hx⟩
  unfold attemptSnapshot
  simp only [hassess, haccrue, lockInstallment, hx.books.row, orRefuse, ok_bind, hdue, hsnapshot]
  rfl

/-- Of an installment of before the late charges nothing is materialized. -/
theorem quote_legacy (heligible : isLateChargeEligible inst.dueDate env.lateChargeEffectiveDate = false)
    (hinst : db.installment? inst.id = some inst) (hnumber : 1 ≤ inst.number)
    (hledger : inst.dueDate ≤ day → 0 ≤ lateThrough db inst.id day) :
    ∃ due snapshot, attemptSnapshot env db inst day = .ok (db, due, snapshot) := by
  have hassess : materializeFixedPenalty db inst.id day env.lateChargeEffectiveDate = .ok (db, none) := by
    unfold materializeFixedPenalty
    split
    · rfl
    · simp only [lockInstallment, hinst, orRefuse, ok_bind, heligible, Bool.false_eq_true, not_false_eq_true,
        if_true]
      rfl
  have haccrue : materializeDailyLateInterest db inst.id day env.lateChargeEffectiveDate = .ok (db, []) := by
    unfold materializeDailyLateInterest
    split
    · rfl
    · simp only [lockInstallment, hinst, orRefuse, ok_bind, heligible, Bool.false_eq_true, not_false_eq_true,
        if_true]
      rfl
  obtain ⟨due, hdue, hpayable⟩ := loanInstallmentObligation_payable hledger
  obtain ⟨snapshot, hsnapshot⟩ := buildLoanInstallmentSnapshot_ok hpayable hnumber inst.loanId day
  refine ⟨due, snapshot, ?_⟩
  unfold attemptSnapshot
  simp only [hassess, haccrue, lockInstallment, hinst, orRefuse, ok_bind, hdue, hsnapshot]
  rfl

end Quote

section Settle
variable {confirmed : Timestamp}

private theorem applyToObligation_installment (hinst : db.installment? inst.id = some inst)
    (href : payment.reference = some (.loanInstallment inst.id))
    (hpointers : ∀ c ∈ db.contributions, c.paymentId ≠ some payment.id) :
    applyToObligation env db clock effectiveAt received confirmation payment =
      applyToInstallment env db clock effectiveAt received confirmation.confirmedAt payment inst := by
  have hnone : db.contributions.filter (fun c => c.paymentId = some payment.id) = [] :=
    List.filter_eq_nil_iff.mpr fun c hc => by simpa using hpointers c hc
  unfold applyToObligation lockedContribution lockedInstallment
  rw [href]
  dsimp only
  rw [hnone, hinst]
  rfl

/-- The payment of an installment of before the late charges settles. -/
theorem settle_legacy (hsource : confirmation.source ≠ "") (hfound : db.payment? payment.id = some payment)
    (hunsettled : db.settlementOfPayment? payment.id = none) (hposted : payment.ledgerPostedAt = none)
    (href : payment.reference = some (.loanInstallment inst.id))
    (hpointers : ∀ c ∈ db.contributions, c.paymentId ≠ some payment.id)
    (heligible : isLateChargeEligible inst.dueDate env.lateChargeEffectiveDate = false)
    (hinst : db.installment? inst.id = some inst) (hloan : OpenLoan db inst loan)
    (hreceived : 0 < receivedAmount payment) (hdue : 0 < installmentDue inst) :
    ∃ r, settleConfirmedPixPayment env db clock payment.id confirmation = .ok r := by
  obtain ⟨accounts, account, hlock⟩ := lockMemberFinancialAccount_ok hloan.member
  obtain ⟨app, happ, hbalanced, hplain, hpaid⟩ := applyToLegacyInstallment_ok env clock
    (effectiveInstant clock payment confirmation) payment account { db with accounts := accounts } hloan
    hreceived hdue
  refine settle_ok hsource hfound hunsettled hposted ?_ hreceived.le ?_
    (recordSettlement_ok hbalanced ⟨_, adjustAfterSettlement_plain hplain⟩ (by simp [hpaid]))
  · intro k hk
    rw [href] at hk
    cases hk
  · rw [applyToObligation_installment hinst href hpointers, applyToInstallment]
    simp only [hloan.found, orRefuse, ok_bind, hlock, heligible, Bool.false_eq_true, if_false]
    exact happ

/-- The payment of what an installment owes under late charge v1 settles. -/
theorem settle_versioned (hsource : confirmation.source ≠ "")
    (hfound : db.payment? payment.id = some payment)
    (hunsettled : db.settlementOfPayment? payment.id = none) (hposted : payment.ledgerPostedAt = none)
    (href : payment.reference = some (.loanInstallment inst.id))
    (hpointers : ∀ c ∈ db.contributions, c.paymentId ≠ some payment.id)
    (heligible : isLateChargeEligible inst.dueDate env.lateChargeEffectiveDate = true)
    (hconfirmed : confirmation.confirmedAt = some confirmed) (haware : confirmed.aware)
    (hday : financialCivilDate confirmed.instant = day) (h : ChargeBooks day inst.id db inst)
    (hloan : OpenLoan db inst loan) (hreceived : 0 < receivedAmount payment) (hdue : inst.dueDate ≤ day)
    (howes : 0 < (dueOn db inst day).totalDue) :
    ∃ r, settleConfirmedPixPayment env db clock payment.id confirmation = .ok r := by
  obtain ⟨accounts, account, hlock⟩ := lockMemberFinancialAccount_ok hloan.member
  have hbooks : ChargeBooks day inst.id { db with accounts := accounts } inst := h.congr rfl rfl rfl rfl
  obtain ⟨app, after, happ, hbalanced, hpaid, hadjustable⟩ := applyToVersionedInstallment_ok env clock payment
    account haware hday hbooks hloan hdue howes hreceived
  have heffective : effectiveInstant clock payment confirmation = confirmed.instant := by
    rw [effectiveInstant, hconfirmed]
    rfl
  refine settle_ok hsource hfound hunsettled hposted ?_ hreceived.le ?_ (recordSettlement_ok hbalanced
    (adjustAfterSettlement_ok hadjustable.obligation hadjustable.row hadjustable.checked ?_) (by simp [hpaid]))
  · intro k hk
    rw [href] at hk
    cases hk
  · rw [applyToObligation_installment h.row href hpointers, applyToInstallment]
    simp only [hloan.found, orRefuse, ok_bind, hlock, heligible, if_true, hconfirmed]
    exact happ
  · intro c hc
    have hdate : (unsealedRow payment confirmation clock (effectiveInstant clock payment confirmation)
        (receivedAmount payment) app).financialDate = day := by
      rw [PaymentSettlement.financialDate, ← hday, ← heffective]
      rfl
    rw [hdate]
    exact hadjustable.cursor c hc

end Settle

end Caixinha.Effects
