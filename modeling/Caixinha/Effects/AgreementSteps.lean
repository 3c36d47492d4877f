import Caixinha.Effects.Approval
import Caixinha.Library.DecimalOrder

/-! Worker runs, agreement payments and their reversals keep the terms of every agreement; only an
accrual moves the penalty of a replaced row. -/
namespace Caixinha.Effects

open Caixinha.Library Caixinha.Library.Table Caixinha.Library.Decimal Fallible Caixinha.Model

section Accrual
variable {db db' : Db} {onDate increment : Int} {rate : Number} {i j : LoanInstallment}

/-- The run adds at least a cent to the penalty of the row: the row is overdue and not paid, days
passed since the last accrual, and base, rate and days make half a cent or more. -/
def Accrues (inst : LoanInstallment) (onDate : Int) (rate : Number) : Prop :=
  inst.dueDate < onDate ∧ inst.status ≠ .PAID ∧ penaltyDays inst onDate ≠ 0 ∧ rate.coefficient ≠ 0 ∧
    Number.le ⟨5, -3⟩ (penaltyProduct inst onDate rate)

instance (inst : LoanInstallment) (onDate : Int) (rate : Number) :
    Decidable (Accrues inst onDate rate) := inferInstanceAs (Decidable (_ ∧ _))

theorem accrueInstallment_spec (h : accrueInstallment onDate rate i = .ok (j, increment)) :
    SameRow i j ∧ j.penaltyAmount = i.penaltyAmount + increment ∧
      (increment ≠ 0 ↔ Accrues i onDate rate) := by
  have hidle : (i, (0 : Int)) = (j, increment) → ¬ Accrues i onDate rate →
      SameRow i j ∧ j.penaltyAmount = i.penaltyAmount + increment ∧
        (increment ≠ 0 ↔ Accrues i onDate rate) := by
    rintro heq hnot
    obtain ⟨rfl, rfl⟩ := Prod.mk.inj heq
    exact ⟨SameRow.refl i, by omega, by simpa using hnot⟩
  unfold accrueInstallment at h
  split at h
  · rename_i hopen
    unfold calculateDailyPenalty at h
    simp only [bind_eq_ok, refuseIf_eq_ok, not_lt, exists_and_left, exists_const] at h
    obtain ⟨hrate, h⟩ := h
    split at h
    · rename_i hclosed
      exact hidle (pure_eq_ok.mp h) fun hacc => hclosed.elim hacc.2.1 fun hle => by
        have := hacc.1
        omega
    · split at h
      · rename_i hstill
        exact hidle (pure_eq_ok.mp h) fun hacc => hstill.elim hacc.2.2.1 hacc.2.2.2.1
      · rename_i hmoves
        simp only [bind_eq_ok, pure_eq_ok, Prod.mk.injEq] at h
        obtain ⟨cents, hcents, rfl, rfl⟩ := h
        refine ⟨⟨_, _, rfl⟩, rfl, ?_⟩
        have hround : cents = centsHalfUp (penaltyProduct i onDate rate) := by
          unfold quantizedMoney quantizeCents at hcents
          split at hcents
          · rename_i found hfound
            rw [Except.ok.injEq] at hcents
            rw [← hcents]
            exact (checkCents_eq_some.mp hfound).2.symm
          · cases hcents
        have hproduct : 0 ≤ (penaltyProduct i onDate rate).coefficient := by
          unfold penaltyProduct mul
          refine round_nonneg (Int.mul_nonneg (round_nonneg (Int.mul_nonneg ?_ hrate) _) ?_) _
          · exact le_max_left _ _
          · exact le_max_left _ _
        rw [hround, centsHalfUp_ne_zero hproduct]
        rw [not_or] at hmoves
        exact ⟨fun hle => ⟨hopen.1, hopen.2, hmoves.1, hmoves.2, hle⟩, fun hacc => hacc.2.2.2.2⟩
  · rename_i hnot
    exact hidle (Except.ok.inj h) fun hacc => hnot ⟨hacc.1, hacc.2.1⟩

/-- What a worker run writes. -/
theorem accrue_spec (h : accrueOverduePenalties db onDate rate = .ok db') :
    TermsKept db db' ∧ List.Forall₂ (fun i j => SameRow i j ∧ ∃ increment,
      j.penaltyAmount = i.penaltyAmount + increment ∧ (increment ≠ 0 ↔ Accrues i onDate rate))
      db.loanInstallments db'.loanInstallments := by
  unfold accrueOverduePenalties at h
  simp only [bind_eq_ok, pure_eq_ok, refuseIf_eq_ok, exists_and_left, exists_const] at h
  obtain ⟨-, rows, hrows, rfl⟩ := h
  have hall := forall₂_of_mapM hrows
  refine ⟨{ participations := rfl, loans := ?_, rows := ?_, agreements := ?_, replacements := ?_ }, ?_⟩
  · refine List.forall₂_map_right_iff.mpr (List.forall₂_same.mpr fun loan _ => ?_)
    split
    · exact ⟨_, rfl⟩
    · exact SameLoan.refl loan
  · exact List.forall₂_map_right_iff.mpr (hall.imp fun _ _ hij => (accrueInstallment_spec hij).1)
  · exact List.forall₂_same.mpr fun a _ => SameAgreement.refl a
  · exact List.forall₂_same.mpr fun i _ => SameReplacement.refl i
  · exact List.forall₂_map_right_iff.mpr (hall.imp fun _ _ hij =>
      ⟨(accrueInstallment_spec hij).1, _, (accrueInstallment_spec hij).2⟩)

end Accrual

section Payments
variable {env : Env} {db db' : Db} {clock : Int} {c : Confirmation} {paymentId adminId : Nat}
  {s : PaymentSettlement} {r : PaymentReversal} {reason : String} {now : Option Timestamp}

/-- Writing back an installment and its agreement keeps every term. -/
private theorem termsKept_write {inst inst' : AgreementInstallment}
    {agreement agreement' : CollectionAgreement} (ht : AgreementTables db)
    (hinst : db.agreementInstallment? inst.id = some inst)
    (hagreement : db.agreement? inst.agreementId = some agreement) (hsame : SameReplacement inst inst')
    (hsame' : ∃ status n, agreement' = { agreement with status, stateRevision := n })
    (hdecided : Decided agreement → Decided agreement')
    (hparticipations : db'.participations = db.participations) (hloans : db'.loans = db.loans)
    (hrows : db'.loanInstallments = db.loanInstallments)
    (hagreements : db'.agreements = replace CollectionAgreement.id db.agreements agreement')
    (hreplacements : db'.agreementInstallments =
      replace AgreementInstallment.id db.agreementInstallments inst') : TermsKept db db' where
  participations := hparticipations
  loans := hloans ▸ List.forall₂_same.mpr fun l _ => SameLoan.refl l
  rows := hrows ▸ List.forall₂_same.mpr fun i _ => SameRow.refl i
  agreements := by
    obtain ⟨status, n, rfl⟩ := hsame'
    rw [hagreements]
    have hfound : lookup CollectionAgreement.id db.agreements agreement.id = some agreement := by
      rw [lookup_key hagreement]
      exact hagreement
    have hbefore := ht.decided inst (lookup_mem hinst) agreement (lookup_mem hagreement)
      (lookup_key hagreement)
    exact forall₂_replace SameAgreement.refl ht.agreements hfound
      ⟨⟨_, _, rfl⟩, fun h => hdecided h, fun _ => hbefore⟩
  replacements := by
    obtain ⟨_, _, _, _, rfl⟩ := hsame
    rw [hreplacements]
    exact forall₂_replace SameReplacement.refl ht.replacements hinst ⟨_, _, _, _, rfl⟩

/-- A settlement without late-charge components leaves the rows of the loans. -/
private theorem record_rows_kept {payment : Payment} {app : Application} {effectiveAt received : Int}
    {c : Confirmation} {charged : Db}
    (hcomponents : app.components = none)
    (h : adjustAfterSettlement (recordedDb payment c clock effectiveAt received app)
      (unsealedRow payment c clock effectiveAt received app) = .ok charged) :
    charged.loanInstallments = app.db.loanInstallments := by
  unfold adjustAfterSettlement at h
  have hnone : (unsealedRow payment c clock effectiveAt received app).components = none := hcomponents
  rw [hnone] at h
  rw [← Except.ok.inj h]
  rfl

/-- A settlement that can be reversed was of an agreement that applied. -/
private theorem validateAgreementSettlement_status {payment : Payment} {settlement : PaymentSettlement}
    {installmentId : Nat} {values : AppliedAmounts} {e : AgreementEvidence}
    {agreement : CollectionAgreement} {inst : AgreementInstallment}
    (h : validateAgreementSettlement env db payment settlement installmentId =
      .ok (values, e, agreement, inst)) : e.agreementStatusBefore = .APPROVED ∨
        e.agreementStatusBefore = .SETTLED := by
  unfold validateAgreementSettlement at h
  simp only [bind_eq_ok, pure_eq_ok, refuseIf_eq_ok, orRefuse_eq_ok, Prod.mk.injEq, exists_and_left,
    exists_const] at h
  obtain ⟨-, -, -, row, -, found, -, -, snapshot, -, v, -, h⟩ := h
  obtain ⟨-, -, -, e', -, hstatus, -, -, -, -, -, -, -, -, -, -, rfl, -, -⟩ := h
  have hbefore := not_not.mp (not_or.mp hstatus).1
  simpa using hbefore

/-- Paying an agreement installment keeps every term, and the rows of all loans. -/
theorem settle_termsKept (ht : AgreementTables db)
    (href : ∀ p, db.payment? paymentId = some p → ∃ id, p.reference = some (.agreementInstallment id))
    (h : settleConfirmedPixPayment env db clock paymentId c = .ok (db', s)) :
    TermsKept db db' ∧ db'.loanInstallments = db.loanInstallments := by
  obtain ⟨payment, hp, -, ⟨-, rfl⟩ | ⟨-, -, -, app, happ, hrecord⟩⟩ := settle_cases h
  · exact ⟨TermsKept.refl _, rfl⟩
  · obtain ⟨id, href⟩ := href payment hp
    unfold applyToObligation at happ
    rw [href] at happ
    simp only [bind_eq_ok, refuseIf_eq_ok, orRefuse_eq_ok, lockCollectionAgreement, exists_and_left,
      exists_const] at happ
    obtain ⟨-, -, -, inst, hinst, agreement, hagreement, hbranch⟩ := happ
    obtain rfl : inst.id = id := lookup_key hinst
    obtain ⟨row, after, agreementAfter, -, hafter, hagreementAfter, -, -, -, -, happ_eq⟩ :=
      applyToAgreementInstallment_spec hbranch
    have hkeyed : Keyed LoanInstallment.id app.db.loanInstallments := by
      rw [happ_eq]
      exact ht.rows
    obtain ⟨charged, entries, -, hadjust, -, -, hdb⟩ := recordSettlement_spec hkeyed hrecord
    have hcharged : charged.loanInstallments = db.loanInstallments := by
      rw [record_rows_kept (by rw [happ_eq]) hadjust, happ_eq]
    have hsame : SameReplacement inst after := by
      rw [hafter]
      exact ⟨_, _, _, _, rfl⟩
    have hsame' : ∃ status n, agreementAfter = { agreement with status, stateRevision := n } := by
      rw [hagreementAfter]
      exact ⟨_, _, rfl⟩
    have hdecided : Decided agreement → Decided agreementAfter := by
      rw [hagreementAfter]
      unfold creditedAgreement
      dsimp only
      split
      · exact fun _ => .inr rfl
      · exact id
    have hrows : db'.loanInstallments = db.loanInstallments := by
      rw [hdb]
      exact hcharged
    refine ⟨termsKept_write ht hinst hagreement hsame hsame' hdecided ?_ ?_ hrows ?_ ?_, hrows⟩
    all_goals rw [hdb, happ_eq]

/-- Reversing the payment of an agreement installment does too. -/
theorem reverse_termsKept (ht : AgreementTables db)
    (hobligation : ∀ s, db.settlementOfPayment? paymentId = some s →
      ∃ id, s.obligation = .agreementInstallment id)
    (h : reversePayment env db clock paymentId adminId reason now = .ok (db', r)) :
    TermsKept db db' ∧ db'.loanInstallments = db.loanInstallments := by
  obtain ⟨payment, -, -, ⟨-, rfl⟩ | ⟨-, -, settlement, hsettlement, hreverse⟩⟩ := reverse_cases h
  · exact ⟨TermsKept.refl _, rfl⟩
  · obtain ⟨id, hobligation⟩ := hobligation settlement hsettlement
    unfold reverseObligation at hreverse
    rw [hobligation] at hreverse
    unfold reverseAgreementPayment at hreverse
    simp only [bind_eq_ok, Prod.exists] at hreverse
    obtain ⟨values, e, agreement, inst, hvalid, -, -, original, -, hwrite⟩ := hreverse
    obtain ⟨-, -, -, hinst, hagreement, -⟩ := validateAgreementSettlement_amounts hvalid
    have hbefore := validateAgreementSettlement_status hvalid
    obtain ⟨compensating, components, snapshot, -, -, -, -, -, -, hdb⟩ :=
      writeAgreementReversal_spec rfl hwrite
    obtain rfl : inst.id = id := lookup_key hinst
    have hdecided : Decided agreement → Decided (restoredAgreement agreement e) := fun _ => hbefore
    have hsame : SameReplacement inst (restoredAgreementInstallment inst e) := ⟨_, _, _, _, rfl⟩
    have hsame' : ∃ status n, restoredAgreement agreement e =
        { agreement with status, stateRevision := n } := ⟨_, _, rfl⟩
    have hrows : db'.loanInstallments = db.loanInstallments := by rw [hdb]
    refine ⟨termsKept_write ht hinst hagreement hsame hsame' hdecided ?_ ?_ hrows ?_ ?_, hrows⟩
    all_goals rw [hdb]

end Payments
end Caixinha.Effects
