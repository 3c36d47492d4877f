import Caixinha.Effects.Contributions

/-! What settling and reversing a payment of an agreement installment writes. -/
namespace Caixinha.Effects

open Caixinha.Library Caixinha.Library.Table Fallible Caixinha.Model

variable {env : Env} {db db' : Db} {clock effectiveAt received reversedAt : Int}
  {payment : Payment} {settlement : PaymentSettlement} {r : PaymentReversal}
  {adminId installmentId : Nat} {reason : String} {inst : AgreementInstallment}
  {agreement : CollectionAgreement} {app : Application}

section Settlement

/-- How an agreement installment takes a payment: penalty first, then principal. -/
structure AgreementSplit where
  penalty : Int
  principal : Int
  deriving DecidableEq, Repr

def AgreementSplit.applied (split : AgreementSplit) : Int := split.penalty + split.principal

def agreementDue (inst : AgreementInstallment) : Int :=
  max 0 (inst.penaltyAmount - inst.paidPenaltyAmount) + max 0 (inst.principal - inst.paidAmount)

def agreementSplit (inst : AgreementInstallment) (received : Int) : AgreementSplit :=
  let applied := min received (agreementDue inst)
  let penalty := min (max 0 (inst.penaltyAmount - inst.paidPenaltyAmount)) applied
  { penalty, principal := min (max 0 (inst.principal - inst.paidAmount)) (applied - penalty) }

/-- The installment once it has taken a payment. -/
def creditedInstallment (inst : AgreementInstallment) (split : AgreementSplit) (effectiveAt : Int) :
    AgreementInstallment :=
  let paid := { inst with
    paidPenaltyAmount := inst.paidPenaltyAmount + split.penalty
    paidAmount := inst.paidAmount + split.principal }
  let status : ObligationStatus := if agreementDue paid = 0 then .PAID else .PARTIAL
  { paid with status, paidAt := if status = .PAID then some effectiveAt else inst.paidAt }

/-- The agreement once one of its installments, already in `db`, has taken a payment. -/
def creditedAgreement (db : Db) (agreement : CollectionAgreement) : CollectionAgreement :=
  let items := db.agreementInstallments.filter (fun i => i.agreementId = agreement.id)
  touchCollectionAgreement { agreement with
    status := if ¬ items.isEmpty ∧ items.all (fun i => i.status = .PAID) then .SETTLED
      else agreement.status }

/-- The evidence of what a payment changed. -/
def agreementEvidence (inst after : AgreementInstallment) (agreement agreementAfter : CollectionAgreement) :
    AgreementEvidence where
  installmentStatusBefore := inst.status
  installmentStatusAfter := after.status
  installmentPaidAtBefore := inst.paidAt
  installmentPaidAtAfter := after.paidAt
  paidAmountBefore := inst.paidAmount
  paidAmountAfter := after.paidAmount
  paidPenaltyAmountBefore := inst.paidPenaltyAmount
  paidPenaltyAmountAfter := after.paidPenaltyAmount
  agreementStatusBefore := agreement.status
  agreementStatusAfter := agreementAfter.status
  stateRevisionBefore := agreement.stateRevision
  stateRevisionAfter := agreementAfter.stateRevision

theorem agreementSplit_applied (inst : AgreementInstallment) (received : Int) (h : 0 < received) :
    (agreementSplit inst received).applied = min received (agreementDue inst) := by
  unfold agreementSplit AgreementSplit.applied agreementDue
  dsimp only
  omega

/-- Everything settling an agreement installment does before its evidence is recorded. -/
theorem applyToAgreementInstallment_spec
    (h : applyToAgreementInstallment env db clock effectiveAt received payment agreement inst =
      .ok app) :
    ∃ (row : LedgerEntry) (after : AgreementInstallment) (agreementAfter : CollectionAgreement),
      0 < min received (agreementDue inst) ∧
      after = creditedInstallment inst (agreementSplit inst received) effectiveAt ∧
      agreementAfter = creditedAgreement (db.putAgreementInstallment after) agreement ∧
      Posting db.ledgerEntries row ∧ PaymentRow payment row ∧
      row.referenceType = .AGREEMENT_INSTALLMENT_PAYMENT ∧
      row.amount.val = min received (agreementDue inst) ∧
      app = { db := { db with
                agreementInstallments := replace AgreementInstallment.id db.agreementInstallments after
                agreements := replace CollectionAgreement.id db.agreements agreementAfter
                ledgerEntries := db.ledgerEntries ++ [row] }
              memberId := agreement.memberId
              obligation := .agreementInstallment inst.id
              receiptVersion := .v5
              principalApplied := (agreementSplit inst received).principal
              penaltyApplied := (agreementSplit inst received).penalty
              statusBefore := inst.status, statusAfter := after.status
              agreementEvidence := some (agreementEvidence inst after agreement agreementAfter) } := by
  unfold applyToAgreementInstallment at h
  simp only [bind_eq_ok, pure_eq_ok, refuseIf_eq_ok, orRefuse_eq_ok, Prod.exists, exists_and_left,
    exists_const] at h
  obtain ⟨member, hmember, hpos, posted, row, hpost, happ⟩ := h
  have hid : member.id = agreement.memberId := lookup_key hmember
  obtain ⟨rfl, hposting, hrow, htype, hamount⟩ := paymentRow_of_postEntry hpost
  refine ⟨row, _, _, not_le.mp hpos, rfl, rfl, hposting, hrow, htype, hamount, ?_⟩
  rw [← happ, hid]
  rfl

end Settlement

section Reversal

/-- The one ledger row of a settled agreement payment, the only row under its id. -/
theorem findAgreementLedger_eq_ok (hs : LedgerSound db.ledgerEntries) {paymentId : Nat} {amount : Int}
    {row : LedgerEntry} : findAgreementLedger db paymentId amount = .ok row ↔
      SoleOriginal db paymentId .AGREEMENT_INSTALLMENT_PAYMENT amount row := by
  unfold findAgreementLedger
  dsimp only
  constructor
  · intro h
    split at h
    · rename_i original hfilter
      simp only [bind_eq_ok, pure_eq_ok, refuseIf_eq_ok, exists_and_left, exists_const, not_or,
        not_not] at h
      obtain ⟨-, hextras, ⟨haccount, hdirection, horiginal, hamount⟩, hintact, rfl⟩ := h
      have hmem : original ∈ (paymentLedgerRows db paymentId).filter
          (fun e => e.referenceType = .AGREEMENT_INSTALLMENT_PAYMENT ∧ e.reversalOfId = none) := by
        rw [hfilter]
        exact List.mem_singleton_self _
      rw [List.mem_filter] at hmem
      have hrows := eq_singleton_of_ids (keyed_paymentLedgerRows hs paymentId) hmem.1 hextras
      exact ⟨hrows, (by simpa using hmem.2 : _ ∧ _).1, haccount, hdirection, hamount,
        by simpa using horiginal, by simpa using hintact⟩
    · cases h
  · intro h
    rw [h.rows, List.filter_cons_of_pos (by simpa using ⟨h.type, h.original⟩), List.filter_nil]
    simp [refuseIf, ok_bind, h.account, h.direction, h.amount, h.original, h.intact]

/-- The present state is the one the settlement left, and its equations close. -/
structure AgreementStateKept (inst : AgreementInstallment) (agreement : CollectionAgreement)
    (values : AppliedAmounts) (e : AgreementEvidence) : Prop where
  paidAt : inst.paidAt = e.installmentPaidAtAfter
  status : inst.status = e.installmentStatusAfter
  paidAmount : inst.paidAmount = e.paidAmountAfter
  paidPenaltyAmount : inst.paidPenaltyAmount = e.paidPenaltyAmountAfter
  agreementStatus : agreement.status = e.agreementStatusAfter
  revision : agreement.stateRevision = e.stateRevisionAfter
  principal : inst.paidAmount - values.principalApplied = e.paidAmountBefore
  penalty : inst.paidPenaltyAmount - values.penaltyApplied = e.paidPenaltyAmountBefore

theorem checkAgreementState_eq_ok {values : AppliedAmounts} {e : AgreementEvidence} :
    checkAgreementState inst agreement values e = .ok () ↔
      AgreementStateKept inst agreement values e := by
  unfold checkAgreementState
  simp only [bind_eq_ok, refuseIf_eq_ok, exists_and_left, exists_const, not_or, not_not]
  constructor
  · rintro ⟨h1, ⟨h2, h3, h4⟩, ⟨h5, h6⟩, h7, h8⟩
    exact ⟨h1, h2, h3, h4, h5, h6, h7, h8⟩
  · rintro ⟨h1, h2, h3, h4, h5, h6, h7, h8⟩
    exact ⟨h1, ⟨h2, h3, h4⟩, ⟨h5, h6⟩, h7, h8⟩

/-- Everything an agreement reversal writes. -/
theorem writeAgreementReversal_spec {e : AgreementEvidence} {original : LedgerEntry}
    {x : PaymentReversal} (hid : x.id = nextKey PaymentReversal.id db.reversals)
    (h : writeAgreementReversal env db clock payment settlement inst agreement e original x =
      .ok (db', r)) :
    ∃ (compensating : LedgerEntry) (components : List PaymentReversalComponent)
      (snapshot : Json.Value),
      SoundAmounts x.amounts ∧ (∀ y ∈ db.reversals, y.paymentId ≠ x.paymentId) ∧
      (∀ y ∈ db.reversals, y.settlementId ≠ x.settlementId) ∧
      Posting db.ledgerEntries compensating ∧ Compensates original compensating ∧
      r = sealedReversal env x snapshot ∧
      db' = { db with
        agreementInstallments := replace AgreementInstallment.id db.agreementInstallments
          (restoredAgreementInstallment inst e)
        agreements := replace CollectionAgreement.id db.agreements (restoredAgreement agreement e)
        ledgerEntries := db.ledgerEntries ++ [compensating]
        reversalComponents := components
        reversals := db.reversals ++ [r] } := by
  unfold writeAgreementReversal at h
  simp only [bind_eq_ok, pure_eq_ok, refuseIf_eq_ok, Prod.exists, exists_and_left, exists_const] at h
  obtain ⟨inserted, hinsert, compensated, compensating, hcompensate, -, hseal⟩ := h
  obtain ⟨rfl, hsound, hfirst, hfirst'⟩ := insertReversal_eq_ok.mp hinsert
  obtain ⟨components, rfl, hposting, hc⟩ := compensate_spec hcompensate
  rw [sealReversal_eq db.reversals hid rfl, Prod.mk.injEq] at hseal
  obtain ⟨rfl, rfl⟩ := hseal
  exact ⟨compensating, components, _, hsound, hfirst, hfirst', hposting, hc, rfl, rfl⟩

/-- An agreement reversal is written when its row is new and its original is intact. -/
theorem writeAgreementReversal_ok {e : AgreementEvidence} {original : LedgerEntry}
    {x : PaymentReversal} (hs : LedgerSound db.ledgerEntries) (hsound : SoundAmounts x.amounts)
    (hfirst : ∀ y ∈ db.reversals, y.paymentId ≠ x.paymentId)
    (hfirst' : ∀ y ∈ db.reversals, y.settlementId ≠ x.settlementId)
    (hmem : original ∈ db.ledgerEntries) (horiginal : original.reversalOfId = none)
    (hintact : hasReversal db original = false)
    (hrevision : agreement.stateRevision = e.stateRevisionAfter) :
    ∃ db' r, writeAgreementReversal env db clock payment settlement inst agreement e original x =
      .ok (db', r) := by
  have hinsert := insertReversal_eq_ok.mpr ⟨rfl, hsound, hfirst, hfirst'⟩
  obtain ⟨compensated, compensating, hcompensate⟩ : ∃ db' row,
      compensate env clock x.id (some "Compensação de Ledger Agreement incompatível.")
        { db with reversals := db.reversals ++ [x] } original = .ok (db', row) :=
    compensate_original hs hmem horiginal hintact
  have hnext : ¬ (restoredAgreement agreement e).stateRevision ≠ e.stateRevisionAfter + 1 := by
    simp [restoredAgreement, touchCollectionAgreement, hrevision]
  unfold writeAgreementReversal
  rw [hinsert, ok_bind, hcompensate, ok_bind]
  simp only [refuseIf, if_neg hnext, ok_bind]
  exact ⟨_, _, rfl⟩

/-- The receipt of a settlement is the snapshot of its columns and of its ledger rows. -/
theorem validateAgreementSettlement_amounts {values : AppliedAmounts} {e : AgreementEvidence}
    (h : validateAgreementSettlement env db payment settlement installmentId =
      .ok (values, e, agreement, inst)) :
    values = settlement.amounts ∧ SoundAmounts settlement.amounts ∧
      payment.reference = some (.agreementInstallment installmentId) ∧
      db.agreementInstallment? installmentId = some inst ∧
      db.agreement? inst.agreementId = some agreement ∧ settlement.amounts.penaltyApplied = 0 := by
  unfold validateAgreementSettlement lockCollectionAgreement at h
  simp only [bind_eq_ok, pure_eq_ok, refuseIf_eq_ok, orRefuse_eq_ok, Prod.mk.injEq, exists_and_left,
    exists_const] at h
  obtain ⟨-, -, href, row, hinst, found, hagreement, -, snapshot, -, v, hmoney, h⟩ := h
  obtain ⟨-, -, -, e', -, -, -, -, -, -, -, -, -, -, -, rfl, -, rfl, rfl⟩ := h
  obtain ⟨rfl, hsound, -, -, hprincipal⟩ := validateMoney_eq_ok.mp hmoney
  exact ⟨rfl, hsound, not_not.mp href, hinst, hagreement, (hprincipal rfl).2⟩

/-- Everything the reversal of an agreement payment checks. -/
theorem reverseAgreementPayment_spec (hs : LedgerSound db.ledgerEntries)
    (h : reverseAgreementPayment env db clock payment settlement installmentId adminId reason
      reversedAt = .ok (db', r)) :
    ∃ (e : AgreementEvidence) (agreement : CollectionAgreement) (inst : AgreementInstallment)
      (original : LedgerEntry) (x : PaymentReversal),
      validateAgreementSettlement env db payment settlement installmentId =
        .ok (settlement.amounts, e, agreement, inst) ∧
      AgreementStateKept inst agreement settlement.amounts e ∧
      SoleOriginal db payment.id .AGREEMENT_INSTALLMENT_PAYMENT settlement.amounts.amountApplied
        original ∧
      ReversalOf db payment settlement adminId reason reversedAt x ∧
      writeAgreementReversal env db clock payment settlement inst agreement e original x =
        .ok (db', r) := by
  unfold reverseAgreementPayment at h
  simp only [bind_eq_ok, Prod.exists] at h
  obtain ⟨values, e, agreement, inst, hvalid, u, hstate, original, horiginal, hwrite⟩ := h
  obtain ⟨rfl, -⟩ := validateAgreementSettlement_amounts hvalid
  exact ⟨e, agreement, inst, original, _, hvalid, checkAgreementState_eq_ok.mp hstate,
    (findAgreementLedger_eq_ok hs).mp horiginal, reversalOf_reversalRow rfl _, hwrite⟩

end Reversal

end Caixinha.Effects
