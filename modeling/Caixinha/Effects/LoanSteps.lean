import Caixinha.Effects.LoanDebts
import Caixinha.Effects.Operations

/-! What one settlement or reversal changes in the installments of loans and in the loans. -/
namespace Caixinha.Effects

open Caixinha.Library Caixinha.Library.Table Fallible Caixinha.Model

/-- The columns of an installment that no payment of it changes. -/
structure SameContract (x y : LoanInstallment) : Prop where
  id_eq : y.id = x.id
  loanId : y.loanId = x.loanId
  number : y.number = x.number
  dueDate : y.dueDate = x.dueDate
  amount : y.amount = x.amount
  principal : y.principal = x.principal
  interest : y.interest = x.interest

namespace SameContract
variable {x y z : LoanInstallment} {id : Nat}

theorem refl (x : LoanInstallment) : SameContract x x := ⟨rfl, rfl, rfl, rfl, rfl, rfl, rfl⟩

theorem trans (h : SameContract x y) (h' : SameContract y z) : SameContract x z :=
  ⟨h'.id_eq.trans h.id_eq, h'.loanId.trans h.loanId, h'.number.trans h.number, h'.dueDate.trans h.dueDate,
    h'.amount.trans h.amount, h'.principal.trans h.principal, h'.interest.trans h.interest⟩

theorem of_charged (h : ChargedAs id x y) : SameContract x y ∧ y.paidAmount = x.paidAmount := by
  obtain ⟨hy, -⟩ := h
  refine ⟨⟨?_, ?_, ?_, ?_, ?_, ?_, ?_⟩, ?_⟩ <;> rw [hy]

theorem allocateTo (x : LoanInstallment) (a : Allocation) (effectiveAt financialDate remaining : Int) :
    SameContract x (allocateTo x a effectiveAt financialDate remaining) := by
  unfold Model.allocateTo LoanInstallment.withPenaltyTotal
  cases x.lateCharge <;> dsimp only [Option.map] <;> split <;> exact ⟨rfl, rfl, rfl, rfl, rfl, rfl, rfl⟩

end SameContract

section Changed
variable {db db' : Db} {inst y : LoanInstallment} {loan loan' : Loan} {k id : Nat}

/-- An installment and its loan changed, with the terms kept and the revision of the loan counted. -/
structure InstallmentChanged (db : Db) (inst : LoanInstallment) (loan : Loan) (db' : Db)
    (y : LoanInstallment) (loan' : Loan) : Prop where
  before : db.installment? inst.id = some inst
  row : db'.installment? inst.id = some y
  terms : SameContract inst y
  others : ∀ k, k ≠ inst.id → db'.installment? k = db.installment? k
  loanBefore : db.loan? inst.loanId = some loan
  loans : db'.loans = replace Loan.id db.loans loan'
  loanId : loan'.id = loan.id
  revision : loan'.stateRevision = loan.stateRevision + 1

theorem InstallmentChanged.loan_after (h : InstallmentChanged db inst loan db' y loan') :
    db'.loan? inst.loanId = some loan' := by
  have hid : loan'.id = inst.loanId := h.loanId.trans (lookup_key h.loanBefore)
  rw [Db.loan?, h.loans, ← hid]
  refine lookup_replace_self (x := loan) ?_
  rw [hid]
  exact h.loanBefore

/-- A loan stays as it is or counts one revision more. -/
theorem InstallmentChanged.loan_cases (h : InstallmentChanged db inst loan db' y loan') {l' : Loan}
    (hl : db'.loan? k = some l') :
    db.loan? k = some l' ∨ ∃ l, db.loan? k = some l ∧ l'.stateRevision = l.stateRevision + 1 := by
  by_cases hk : k = inst.loanId
  · subst hk
    rw [h.loan_after, Option.some.injEq] at hl
    exact .inr ⟨loan, h.loanBefore, hl ▸ h.revision⟩
  · have hid : loan'.id = inst.loanId := h.loanId.trans (lookup_key h.loanBefore)
    refine .inl ?_
    rwa [Db.loan?, h.loans, lookup_replace_ne (hid ▸ hk)] at hl

theorem Charged.installment?_other (h : Charged id db db') (hk : k ≠ id) :
    db'.installment? k = db.installment? k := by
  have hrel := h.installment? k
  cases hx : db.installment? k with
  | none =>
    rw [hx] at hrel
    cases hy : db'.installment? k with
    | none => rfl
    | some y => rw [hy] at hrel; cases hrel
  | some x =>
    rw [hx] at hrel
    cases hy : db'.installment? k with
    | none => rw [hy] at hrel; cases hrel
    | some y =>
      rw [hy] at hrel
      cases hrel with
      | some hxy =>
        have hne : x.id ≠ id := by
          rw [lookup_key hx]
          exact hk
        rw [hxy.2 hne]

theorem Charged.installment?_some {x : LoanInstallment} (h : Charged id db db') (hx : db.installment? k = some x) :
    ∃ y, db'.installment? k = some y ∧ ChargedAs id x y := by
  have hrel := h.installment? k
  rw [hx] at hrel
  cases hy : db'.installment? k with
  | none => rw [hy] at hrel; cases hrel
  | some y =>
    rw [hy] at hrel
    cases hrel with
    | some hxy => exact ⟨y, rfl, hxy⟩

end Changed

section Settled
variable {env : Env} {db db' : Db} {clock effectiveAt received : Int} {payment : Payment} {c : Confirmation}
  {app : Application} {s : PaymentSettlement} {inst : LoanInstallment} {before after : Loan}

theorem loanEvidenceOf_revision {x y : LoanInstallment} {e : LoanEvidence}
    (h : loanEvidenceOf before after x y = .ok e) :
    after.stateRevision = before.stateRevision + 1 ∧ e.stateRevisionAfter = after.stateRevision := by
  unfold loanEvidenceOf at h
  simp only [bind_eq_ok, pure_eq_ok, refuseIf_eq_ok, exists_and_left, exists_const, not_not] at h
  obtain ⟨hrevision, -, -, -, rfl⟩ := h
  exact ⟨hrevision, rfl⟩

theorem ensureLoanCompletion_id (db : Db) (clock : Int) (loan : Loan) :
    (ensureLoanCompletion db clock loan).id = loan.id := by
  unfold ensureLoanCompletion
  dsimp only
  split <;> rfl

theorem loanAfterVersioned_id (db : Db) (clock effectiveAt : Int) (loan : Loan) :
    (loanAfterVersioned db clock effectiveAt loan).id = loan.id := by
  unfold loanAfterVersioned touchLoan
  split
  · exact ensureLoanCompletion_id db clock loan
  · exact ensureLoanCompletion_id db clock loan

/-- What a settlement paid of an installment: under late charge v1 no more principal than was open on its
date, and before it what the paid columns leave. -/
def PaidOf (env : Env) (db : Db) (inst y : LoanInstallment) (s : PaymentSettlement) : Prop :=
  if isLateChargeEligible inst.dueDate env.lateChargeEffectiveDate then
    s.principalApplied ≤ max 0 (inst.principal - appliedOn db inst.id s.financialDate)
  else
    ∃ base, 0 ≤ base ∧ base ≤ max 0 (inst.amount - inst.paidAmount) ∧ y.paidAmount = inst.paidAmount + base ∧
      s.amounts.interestApplied = legacyInterest inst base ∧
      s.principalApplied = max 0 (base - legacyInterest inst base)

/-- What settling an installment changes. -/
structure InstallmentSettled (env : Env) (db : Db) (inst : LoanInstallment) (loan : Loan) (db' : Db)
    (y : LoanInstallment) (loan' : Loan) (s : PaymentSettlement) : Prop where
  changed : InstallmentChanged db inst loan db' y loan'
  obligation : s.obligation = .loanInstallment inst.id
  nonneg : 0 ≤ s.principalApplied
  evidence : ∃ e, s.loanEvidence = some e ∧ e.stateRevisionAfter = loan'.stateRevision
  paid : PaidOf env db inst y s

/-- No more is due of the principal of an installment than its settlements leave. -/
theorem loanInstallmentObligation_principal {day : Int} {due : LoanInstallmentObligation}
    (h : loanInstallmentObligation db inst day = .ok due) :
    due.principalDue ≤ max 0 (inst.principal - appliedOn db inst.id day) := by
  unfold loanInstallmentObligation at h
  split at h
  · rw [pure_eq_ok] at h
    rw [← h]
    exact le_max_left _ _
  · simp only [bind_eq_ok, pure_eq_ok] at h
    obtain ⟨late, -, rfl⟩ := h
    exact le_rfl

theorem applyPayment_spec {amount penalty base : Int} {y : LoanInstallment}
    (h : applyPayment inst amount clock = (y, penalty, base)) (hpos : 0 < penalty + base) :
    SameContract inst y ∧ y.paidAmount = inst.paidAmount + base ∧ 0 ≤ base ∧
      base ≤ max 0 (inst.amount - inst.paidAmount) := by
  unfold applyPayment at h
  simp only [Prod.mk.injEq] at h
  obtain ⟨rfl, hpenalty, hbase⟩ := h
  refine ⟨⟨rfl, rfl, rfl, rfl, rfl, rfl, rfl⟩, ?_, ?_, ?_⟩
  · rw [hbase]
  · omega
  · omega

/-- What recording a settlement leaves of the installment its branch wrote. -/
theorem recordSettlement_installments {id : Nat} {x : LoanInstallment}
    (hkeyed : Keyed LoanInstallment.id app.db.loanInstallments)
    (hobligation : app.obligation = .loanInstallment id) (hx : app.db.installment? id = some x)
    (h : recordSettlement env clock effectiveAt received c payment app = .ok (db', s)) :
    (∃ y, db'.installment? id = some y ∧ ChargedAs id x y) ∧
      (∀ k, k ≠ id → db'.installment? k = app.db.installment? k) ∧ db'.loans = app.db.loans := by
  obtain ⟨charged, entries, -, hadjust, -, -, hdb⟩ := recordSettlement_spec hkeyed h
  have hkeyed' : Keyed LoanInstallment.id
      (recordedDb payment c clock effectiveAt received app).loanInstallments := hkeyed
  have hrows : ∀ k, db'.installment? k = charged.installment? k := fun k => by rw [hdb]; rfl
  refine ⟨?_, ?_, by rw [hdb]⟩
  · rcases adjustAfterSettlement_spec hkeyed' hadjust with ⟨-, hsame⟩ | ⟨k, hk, hc⟩
    · refine ⟨x, ?_, ChargedAs.refl id x⟩
      rw [hrows, hsame]
      exact hx
    · obtain rfl : k = id := by simpa using hk.symm.trans hobligation
      rw [hrows]
      exact hc.installment?_some hx
  · intro k hne
    rcases adjustAfterSettlement_spec hkeyed' hadjust with ⟨-, hsame⟩ | ⟨j, hj, hc⟩
    · rw [hrows, hsame]
      rfl
    · obtain rfl : j = id := by simpa using hj.symm.trans hobligation
      rw [hrows, hc.installment?_other hne]
      rfl

/-- Everything settling an installment changes in the installments and in the loans. -/
theorem installmentSettled (hs : Sound db) (hinst : db.installment? inst.id = some inst)
    (happ : applyToInstallment env db clock effectiveAt received c.confirmedAt payment inst = .ok app)
    (heffective : ∀ at_, c.confirmedAt = some at_ → effectiveAt = at_.instant)
    (h : recordSettlement env clock effectiveAt received c payment app = .ok (db', s)) :
    ∃ loan y loan', InstallmentSettled env db inst loan db' y loan' s := by
  obtain ⟨new, happlied, -, -, -, hobligation⟩ := installment_applied hs happ
  have hkeyed : Keyed LoanInstallment.id app.db.loanInstallments :=
    keyed_of_keys happlied.installments hs.installments
  obtain ⟨-, -, hrecorded, -⟩ := recordSettlement_money hkeyed h
  have hprincipal : s.principalApplied = app.principalApplied := by
    rw [PaymentSettlement.principalApplied, hrecorded.amounts]
  have hinterest : s.amounts.interestApplied = app.interestApplied := by rw [hrecorded.amounts]
  have hdate : s.financialDate = financialCivilDate effectiveAt := by
    rw [PaymentSettlement.financialDate, hrecorded.confirmedAt]
  have hnonneg : 0 ≤ s.principalApplied := (checkSettlement_amounts hrecorded.sound).1.principal_nonneg
  have hobligation' : s.obligation = .loanInstallment inst.id := hrecorded.obligation.trans hobligation
  unfold applyToInstallment at happ
  simp only [bind_eq_ok, orRefuse_eq_ok, Prod.exists] at happ
  obtain ⟨loan, hloan, locked, account, hlock, happ⟩ := happ
  obtain ⟨accounts, rfl, -⟩ := lockMemberFinancialAccount_spec hlock
  split at happ
  · rename_i heligible
    obtain ⟨at_, charged, x, due, a, after, interestRows, penaltyRows, entries, loanAfter, evidence, hat,
      -, hcharged, -, ha, -, hafter, -, -, -, -, hloanAfter, hevidence, rfl⟩ :=
      applyToVersionedInstallment_spec happ
    obtain ⟨hrevision, hevidenceAfter⟩ := loanEvidenceOf_revision hevidence
    have hcharge := hcharged.charged hs.installments
    obtain ⟨x', hx', hcharged'⟩ := hcharge.installment?_some hinst
    obtain rfl : x' = x := Option.some.inj (hx'.symm.trans hcharged.row)
    obtain ⟨hterms, -⟩ := SameContract.of_charged hcharged'
    have hafterTerms : SameContract x' after := hafter ▸ SameContract.allocateTo x' a _ _ _
    have hid : after.id = inst.id := hafterTerms.id_eq.trans hterms.id_eq
    have hrow : lookup LoanInstallment.id (replace LoanInstallment.id charged.loanInstallments after) inst.id =
        some after := by
      rw [← hid]
      refine lookup_replace_self (x := x') ?_
      rw [hid]
      exact hx'
    obtain ⟨⟨y, hy, hyAfter⟩, hothers, hloans⟩ := recordSettlement_installments hkeyed rfl hrow h
    refine ⟨loan, y, loanAfter, ⟨hinst, hy, hterms.trans (hafterTerms.trans (SameContract.of_charged hyAfter).1), ?_,
      hloan, ?_, ?_, hrevision⟩, hobligation', hnonneg, ⟨evidence, hrecorded.loanEvidence, hevidenceAfter⟩, ?_⟩
    · intro k hk
      rw [hothers k hk]
      exact (lookup_replace_ne (hid ▸ hk)).trans (hcharge.installment?_other hk)
    · rw [hloans, hcharge.only]
    · rw [hloanAfter]
      exact loanAfterVersioned_id _ _ _ _
    · have hdue := loanInstallmentObligation_principal hcharged.obligation
      have hsame : appliedOn charged x'.id (financialCivilDate at_.instant) =
          appliedOn db inst.id s.financialDate := by
        rw [hdate, heffective at_ hat, hterms.id_eq, appliedOn, appliedOn, hcharge.only]
        rfl
      rw [hsame, hterms.principal] at hdue
      rw [PaidOf, if_pos heligible, hprincipal]
      refine le_trans ?_ hdue
      rw [ha]
      exact min_le_left _ _
  · rename_i heligible
    obtain ⟨after, penalty, base, penaltyRows, interestRows, entries, loanAfter, evidence, hpay, hpos, -, -, -,
      hloanAfter, hevidence, rfl⟩ := applyToLegacyInstallment_spec happ
    obtain ⟨hrevision, hevidenceAfter⟩ := loanEvidenceOf_revision hevidence
    obtain ⟨hterms, hpaid, hbase, hbaseLe⟩ := applyPayment_spec hpay hpos
    have hrow : lookup LoanInstallment.id (replace LoanInstallment.id db.loanInstallments after) inst.id =
        some after := by
      rw [← hterms.id_eq]
      refine lookup_replace_self (x := inst) ?_
      rw [hterms.id_eq]
      exact hinst
    obtain ⟨⟨y, hy, hyAfter⟩, hothers, hloans⟩ := recordSettlement_installments hkeyed rfl hrow h
    obtain ⟨hyTerms, hyPaid⟩ := SameContract.of_charged hyAfter
    refine ⟨loan, y, loanAfter, ⟨hinst, hy, hterms.trans hyTerms, ?_, hloan, hloans, ?_, hrevision⟩, hobligation',
      hnonneg, ⟨evidence, hrecorded.loanEvidence, hevidenceAfter⟩, ?_⟩
    · intro k hk
      rw [hothers k hk]
      exact lookup_replace_ne (hterms.id_eq ▸ hk)
    · rw [hloanAfter]
      exact ensureLoanCompletion_id _ _ _
    · rw [PaidOf, if_neg heligible]
      exact ⟨base, hbase, hbaseLe, hyPaid.trans hpaid, hinterest, hprincipal⟩

end Settled

section Reversed
variable {env : Env} {db db' : Db} {clock reversedAt : Int} {payment : Payment} {settlement : PaymentSettlement}
  {r : PaymentReversal} {adminId : Nat} {reason : String} {inst y : LoanInstallment} {loan loan' : Loan}

/-- What reversing a settlement of an installment changes: only the last revision of the loan is taken back. -/
structure InstallmentReversed (db : Db) (inst : LoanInstallment) (loan : Loan) (db' : Db)
    (y : LoanInstallment) (loan' : Loan) (settlement : PaymentSettlement) : Prop where
  changed : InstallmentChanged db inst loan db' y loan'
  obligation : settlement.obligation = .loanInstallment inst.id
  evidence : ∃ e, settlement.loanEvidence = some e ∧ loan.stateRevision = e.stateRevisionAfter
  paid : y.paidAmount =
    inst.paidAmount - (settlement.amounts.principalApplied + settlement.amounts.interestApplied)

theorem validateLoanSettlement_evidence {id : Nat} {values : AppliedAmounts} {e : LoanEvidence}
    (h : validateLoanSettlement env payment settlement id = .ok (values, e)) : settlement.loanEvidence = some e := by
  unfold validateLoanSettlement at h
  simp only [bind_eq_ok, pure_eq_ok, orRefuse_eq_ok, Prod.mk.injEq] at h
  obtain ⟨-, -, -, -, e', he, snapshot, -, -, -, -, -, -, -, v, -, h⟩ := h
  obtain ⟨-, -, -, -, -, -, -, -, -, -, -, rfl⟩ := h
  exact he

theorem restoredInstallment_terms (inst : LoanInstallment) (values : AppliedAmounts)
    (components : Option LateChargeComponents) (e : LoanEvidence) :
    SameContract inst (restoredInstallment inst values components e) := ⟨rfl, rfl, rfl, rfl, rfl, rfl, rfl⟩

/-- Everything reversing a payment of an installment changes in the installments and in the loans. -/
theorem installmentReversed {installmentId : Nat} (hs : Sound db)
    (hobligation : settlement.obligation = .loanInstallment installmentId)
    (h : reverseLoanPayment env db clock payment settlement installmentId adminId reason reversedAt =
      .ok (db', r)) :
    db'.settlements = db.settlements ∧
      ∃ inst loan y loan', InstallmentReversed db inst loan db' y loan' settlement := by
  obtain ⟨e, locked, account, plan, x, hvalid, hlock, hplan, hx, hwrite⟩ := reverseLoanPayment_spec h
  obtain ⟨accounts, rfl, -⟩ := lockMemberFinancialAccount_spec hlock
  obtain rfl : plan.inst.id = installmentId := lookup_key hplan.installment
  have hkeyed : Keyed LoanInstallment.id
      { db with accounts := db.accounts ++ accounts }.loanInstallments := hs.installments
  obtain ⟨pairs, components, entries, adjusted, snapshot, -, -, -, -, -, -, -, -, hadjust, -, rfl⟩ :=
    writeLoanReversal_spec hkeyed hx.id_eq hobligation hwrite
  have hterms := restoredInstallment_terms plan.inst x.amounts settlement.components e
  have hrestored : lookup LoanInstallment.id (replace LoanInstallment.id db.loanInstallments
      (restoredInstallment plan.inst x.amounts settlement.components e)) plan.inst.id =
        some (restoredInstallment plan.inst x.amounts settlement.components e) :=
    lookup_replace_self (x := plan.inst) hplan.installment
  have hpaid : (restoredInstallment plan.inst x.amounts settlement.components e).paidAmount =
      plan.inst.paidAmount - (settlement.amounts.principalApplied + settlement.amounts.interestApplied) := by
    rw [← hx.amounts]
    rfl
  have hrows : (∃ y, adjusted.installment? plan.inst.id = some y ∧
        ChargedAs plan.inst.id (restoredInstallment plan.inst x.amounts settlement.components e) y) ∧
      ∀ k, k ≠ plan.inst.id → adjusted.installment? k = db.installment? k := by
    rcases adjustAfterReversal_spec (keyed_replace hs.installments) hadjust hobligation with
      ⟨-, hsame⟩ | ⟨-, hc⟩
    · rw [hsame]
      exact ⟨⟨_, hrestored, ChargedAs.refl _ _⟩, fun k hk => lookup_replace_ne hk⟩
    · exact ⟨hc.installment?_some hrestored, fun k hk =>
        (hc.installment?_other hk).trans (lookup_replace_ne hk)⟩
  obtain ⟨⟨y, hy, hcharged⟩, hothers⟩ := hrows
  obtain ⟨hyTerms, hyPaid⟩ := SameContract.of_charged hcharged
  exact ⟨rfl, plan.inst, plan.loan, y, restoredLoan plan.loan e,
    ⟨hplan.installment, hy, hterms.trans hyTerms, hothers, hplan.loan, rfl, rfl, rfl⟩, hobligation,
    ⟨e, validateLoanSettlement_evidence hvalid, hplan.loanRevision⟩, hyPaid.trans hpaid⟩

end Reversed

section Step
variable {env : Env} {db db' : Db} {clock : Int}

/-- What a settlement or a reversal can do to the installments and to the loans: nothing, pay one
installment, or take back what a settlement paid of one. -/
inductive LoanStep (env : Env) (db db' : Db) : Prop where
  | aside {acted new} (grows : Grows acted db db' new)
    (installments : db'.loanInstallments = db.loanInstallments) (loans : db'.loans = db.loans)
    (settlements : ∀ s ∈ new.settlements, ∀ id, s.obligation ≠ .loanInstallment id)
    (reversals : ∀ r ∈ new.reversals, ∀ s ∈ db.settlements, s.id = r.settlementId →
      ∀ id, s.obligation ≠ .loanInstallment id)
  | settled {acted new inst loan y loan' s} (grows : Grows acted db db' new)
    (settlements : new.settlements = [s]) (reversals : new.reversals = [])
    (settled : InstallmentSettled env db inst loan db' y loan' s)
  | reversed {acted new inst loan y loan' s r} (grows : Grows acted db db' new)
    (settlements : new.settlements = []) (reversals : new.reversals = [r])
    (mem : s ∈ db.settlements) (settlement : r.settlementId = s.id)
    (reversed : InstallmentReversed db inst loan db' y loan' s)

theorem LoanStep.refl (env : Env) (db : Db) : LoanStep env db db :=
  @LoanStep.aside env db db noPayment {}
    { users := rfl, members := rfl, contributions := rfl, installments := rfl
      payments := PaymentsKept.refl _ _, accounts := by simp, entries := by simp, ledger := by simp
      postings := .nil _, settlements := by simp, settlement := by simp, reversals := by simp
      reversal := by simp, own := .aside (by simp) (by simp) } rfl rfl (by simp) (by simp)

theorem LoanStep.sound (h : LoanStep env db db') (hs : Sound db) : Sound db' := by
  cases h with
  | aside hg => exact hg.sound hs
  | settled hg => exact hg.sound hs
  | reversed hg => exact hg.sound hs

/-- Every installment after a step has the contract of one before it. -/
theorem LoanStep.contract (h : LoanStep env db db') (hs : Sound db) {y : LoanInstallment}
    (hy : y ∈ db'.loanInstallments) : ∃ x ∈ db.loanInstallments, SameContract x y := by
  have hkeyed : Keyed LoanInstallment.id db'.loanInstallments := (h.sound hs).installments
  have hrow : db'.installment? y.id = some y := lookup_of_mem hkeyed hy
  have hchanged : ∀ {inst y' : LoanInstallment} {loan loan' : Loan}, InstallmentChanged db inst loan db' y' loan' →
      ∃ x ∈ db.loanInstallments, SameContract x y := by
    intro inst y' loan loan' hc
    by_cases hid : y.id = inst.id
    · rw [hid, hc.row, Option.some.injEq] at hrow
      exact ⟨inst, lookup_mem hc.before, hrow ▸ hc.terms⟩
    · rw [hc.others _ hid] at hrow
      exact ⟨y, lookup_mem hrow, .refl y⟩
  cases h with
  | aside _ hinstallments => exact ⟨y, hinstallments ▸ hy, .refl y⟩
  | settled _ _ _ hsettled => exact hchanged hsettled.changed
  | reversed _ _ _ _ _ hreversed => exact hchanged hreversed.changed

theorem Grows.noReversals {acted : Payment → Prop} {new : Additions} (h : Grows acted db db' new)
    (hsame : db'.reversals = db.reversals) : new.reversals = [] := by
  have := h.reversals
  rw [hsame] at this
  simpa using this

theorem Grows.noSettlements {acted : Payment → Prop} {new : Additions} (h : Grows acted db db' new)
    (hsame : db'.settlements = db.settlements) : new.settlements = [] := by
  have := h.settlements
  rw [hsame] at this
  simpa using this

/-- Recording a settlement that is not of a loan changes no loan. -/
theorem recordSettlement_aside {effectiveAt received : Int} {payment : Payment} {c : Confirmation}
    {app : Application} {s : PaymentSettlement}
    (hkeyed : Keyed LoanInstallment.id app.db.loanInstallments)
    (hobligation : ∀ id, app.obligation ≠ .loanInstallment id)
    (h : recordSettlement env clock effectiveAt received c payment app = .ok (db', s)) :
    db'.loanInstallments = app.db.loanInstallments ∧ db'.loans = app.db.loans ∧
      db'.reversals = app.db.reversals ∧ s.obligation = app.obligation := by
  obtain ⟨-, -, hrecorded, -⟩ := recordSettlement_money hkeyed h
  obtain ⟨charged, entries, -, hadjust, -, -, hdb⟩ := recordSettlement_spec hkeyed h
  have hkeyed' : Keyed LoanInstallment.id
      (recordedDb payment c clock effectiveAt received app).loanInstallments := hkeyed
  refine ⟨?_, by rw [hdb], by rw [hdb], hrecorded.obligation⟩
  rcases adjustAfterSettlement_spec hkeyed' hadjust with ⟨-, hsame⟩ | ⟨id, hid, -⟩
  · rw [hdb, hsame]
    rfl
  · exact absurd hid (hobligation id)

/-- A settlement pays one installment or leaves the loans alone. -/
theorem loanStep_settle {paymentId : Nat} {c : Confirmation} {s : PaymentSettlement} (hs : Sound db)
    (h : settleConfirmedPixPayment env db clock paymentId c = .ok (db', s)) :
    LoanStep env db db' := by
  obtain ⟨payment, hpayment, rfl, ⟨-, rfl⟩ | ⟨hnone, hposted, hreceived, app, happ, hrecord⟩⟩ := settle_cases h
  · exact .refl env db'
  · rcases applyToObligation_cases happ with ⟨inst, agreement, -, -, -, hbranch⟩ |
      ⟨x, hfound, hbranch⟩ | ⟨inst, -, hinst, hbranch⟩
    · obtain ⟨new, hgrows, hnew, -, -⟩ := agreement_settled hs hpayment hnone hbranch hrecord
      obtain ⟨row, after, agreementAfter, -, -, -, -, -, -, -, rfl⟩ := applyToAgreementInstallment_spec hbranch
      obtain ⟨hinstallments, hloans, hreversals, hobligation⟩ :=
        recordSettlement_aside hs.installments (by simp) hrecord
      refine .aside hgrows hinstallments hloans ?_ ?_
      · simp [hnew, hobligation]
      · simp [hgrows.noReversals hreversals]
    · obtain ⟨new, hgrows, hnew, -, -⟩ :=
        contribution_settled hs hpayment hnone hposted hreceived hfound hbranch hrecord
      obtain ⟨locked, account, rows, hlock, -, -, rfl⟩ := applyToContribution_spec hposted hbranch
      obtain ⟨accounts, rfl, -⟩ := lockMemberFinancialAccount_spec hlock
      obtain ⟨hinstallments, hloans, hreversals, hobligation⟩ :=
        recordSettlement_aside hs.installments (by simp) hrecord
      refine .aside hgrows hinstallments hloans ?_ ?_
      · simp [hnew, hobligation]
      · simp [hgrows.noReversals hreversals]
    · obtain ⟨new, hgrows, hnew, -, -⟩ := installment_settled hs hpayment hnone hbranch hrecord
      have heffective : ∀ at_, c.confirmedAt = some at_ → effectiveInstant clock payment c = at_.instant := by
        intro at_ hat
        simp [effectiveInstant, hat]
      obtain ⟨loan, y, loan', hsettled⟩ := installmentSettled hs hinst hbranch heffective hrecord
      refine .settled hgrows hnew (hgrows.noReversals ?_) hsettled
      obtain ⟨added, happlied, -⟩ := installment_applied hs hbranch
      have hkeyed : Keyed LoanInstallment.id app.db.loanInstallments :=
        keyed_of_keys happlied.installments hs.installments
      obtain ⟨charged, entries, -, -, -, -, hdb⟩ := recordSettlement_spec hkeyed hrecord
      rw [hdb]
      change app.db.reversals = db.reversals
      rw [happlied.reversals, happlied.noReversal, List.append_nil]

/-- A reversal leaves the installments and the loans alone, except for those of its own obligation. -/
theorem reverseObligation_rows {payment : Payment} {settlement : PaymentSettlement} {r : PaymentReversal}
    {adminId : Nat} {reason : String} {reversedAt : Int} (hs : Sound db)
    (h : reverseObligation env db clock payment settlement adminId reason reversedAt = .ok (db', r)) :
    db'.settlements = db.settlements ∧
      ((db'.loanInstallments = db.loanInstallments ∧ db'.loans = db.loans ∧
          ∀ id, settlement.obligation ≠ .loanInstallment id) ∨
        ∃ inst loan y loan', InstallmentReversed db inst loan db' y loan' settlement) := by
  unfold reverseObligation at h
  split at h
  · rename_i id hobligation
    obtain ⟨hsame, hreversed⟩ := installmentReversed hs hobligation h
    exact ⟨hsame, .inr hreversed⟩
  · rename_i id hobligation
    obtain ⟨e, agreement, inst, original, x, -, -, -, hx, hwrite⟩ := reverseAgreementPayment_spec hs.ledger h
    obtain ⟨compensating, components, snapshot, -, -, -, -, -, -, rfl⟩ := writeAgreementReversal_spec hx.id_eq hwrite
    exact ⟨rfl, .inl ⟨rfl, rfl, by simp [hobligation]⟩⟩
  · rename_i id hobligation
    obtain ⟨x, locked, account, credit, originals, pairs, components, entries, -, hreversible, -, -, -, -, -, rfl⟩ :=
      reverseContributionPayment_spec h
    obtain ⟨accounts, rfl, -⟩ := lockMemberFinancialAccount_spec hreversible.lock
    exact ⟨rfl, .inl ⟨rfl, rfl, by simp [hobligation]⟩⟩

theorem reverse_settlements {paymentId adminId : Nat} {reason : String} {now : Option Timestamp}
    {r : PaymentReversal} (hs : Sound db)
    (h : reversePayment env db clock paymentId adminId reason now = .ok (db', r)) :
    db'.settlements = db.settlements := by
  obtain ⟨payment, -, -, ⟨-, rfl⟩ | ⟨-, -, settlement, -, hbranch⟩⟩ := reverse_cases h
  · rfl
  · exact (reverseObligation_rows hs hbranch).1

/-- A reversal takes back what a settlement paid of an installment or leaves the loans alone. -/
theorem loanStep_reverse {paymentId adminId : Nat} {reason : String} {now : Option Timestamp}
    {r : PaymentReversal} (hs : Sound db)
    (h : reversePayment env db clock paymentId adminId reason now = .ok (db', r)) : LoanStep env db db' := by
  have hkept := reverse_settlements hs h
  have hwhole := reverse_effect hs h
  obtain ⟨payment, hpayment, rfl, ⟨-, rfl⟩ | ⟨hnone, hmay, settlement, hsettlement, hbranch⟩⟩ := reverse_cases h
  · exact .refl env db'
  · obtain ⟨payment', hpayment', -, ⟨hfound, -⟩ | ⟨-, -, settlement', new, hsettlement', hgrows, hnew, hreversal, -⟩⟩ :=
      hwhole
    · rw [hnone] at hfound
      cases hfound
    obtain rfl : payment' = payment := Option.some.inj (hpayment'.symm.trans hpayment)
    obtain rfl : settlement' = settlement := Option.some.inj (hsettlement'.symm.trans hsettlement)
    obtain ⟨hmem, -⟩ := settlementOfPayment?_spec hsettlement
    obtain ⟨-, ⟨hinstallments, hloans, hobligation⟩ | ⟨inst, loan, y, loan', hreversed⟩⟩ :=
      reverseObligation_rows hs hbranch
    · refine .aside hgrows hinstallments hloans (by simp [hgrows.noSettlements hkept]) ?_
      intro r' hr' s hs' hid id
      rw [hnew, List.mem_singleton] at hr'
      have hsame : s = settlement' := eq_of_mem_of_key hs.settlements hs' hmem
        (by rw [hid, hr', hreversal.settlementId])
      rw [hsame]
      exact hobligation id
    · exact .reversed hgrows (hgrows.noSettlements hkept) hnew hmem hreversal.settlementId hreversed

end Step

end Caixinha.Effects
