import Caixinha.Effects.Standing
import Caixinha.Effects.SettlementReceipt

/-! Reversing a payment of an agreement installment right after it settled restores the installment
and its agreement, unless the payment paid a penalty. -/
namespace Caixinha.Properties.AgreementUndo

open Caixinha.Library Caixinha.Library.Json Caixinha.Library.Table Fallible
open Caixinha.Model Caixinha.Effects

variable {env : Env} {db db' undone : Db} {clock effectiveAt : Int} {payment p : Payment}
  {inst : AgreementInstallment} {agreement : CollectionAgreement} {c : Confirmation}
  {s : PaymentSettlement} {row : LedgerEntry} {r : PaymentReversal}

/-- The installment, its agreement and the balance of CAIXINHA are as they were, the revision of the
agreement two further on. -/
structure Restored (db undone : Db) (inst : AgreementInstallment) (agreement : CollectionAgreement) :
    Prop where
  installment : undone.agreementInstallment? inst.id = some inst
  agreement : undone.agreement? agreement.id =
    some { agreement with stateRevision := agreement.stateRevision + 2 }
  balance : undone.caixinhaBalance = db.caixinhaBalance

/-- The installment a settlement leaves. -/
abbrev paidInstallment (inst : AgreementInstallment) (payment : Payment) (effectiveAt : Int) :
    AgreementInstallment :=
  creditedInstallment inst (agreementSplit inst (receivedAmount payment)) effectiveAt

/-- The agreement a settlement leaves. -/
abbrev paidAgreement (db : Db) (inst : AgreementInstallment) (agreement : CollectionAgreement)
    (payment : Payment) (effectiveAt : Int) : CollectionAgreement :=
  creditedAgreement (db.putAgreementInstallment (paidInstallment inst payment effectiveAt)) agreement

/-- What a payment that settled an agreement installment left. -/
structure AgreementSettled (env : Env) (db db' : Db) (payment p : Payment) (inst : AgreementInstallment)
    (agreement : CollectionAgreement) (effectiveAt : Int) (s : PaymentSettlement) (row : LedgerEntry) :
    Prop where
  positive : 0 < min (receivedAmount payment) (agreementDue inst)
  paid : PaidAs payment (receivedAmount payment) p
  payments : db'.payments = replace Payment.id db.payments p
  installments : db'.agreementInstallments = replace AgreementInstallment.id db.agreementInstallments
    (paidInstallment inst payment effectiveAt)
  agreements : db'.agreements = replace CollectionAgreement.id db.agreements
    (paidAgreement db inst agreement payment effectiveAt)
  users : db'.users = db.users
  reversals : db'.reversals = db.reversals
  settlements : db'.settlements = db.settlements ++ [s]
  settlement : db'.settlementOfPayment? payment.id = some s
  ledger : db'.ledgerEntries = db.ledgerEntries ++ [row]
  posting : Posting db.ledgerEntries row
  posted : PaymentRow payment row ∧ row.referenceType = .AGREEMENT_INSTALLMENT_PAYMENT ∧
    row.amount.val = s.amounts.amountApplied
  paymentId : s.paymentId = payment.id
  memberId : s.memberId = agreement.memberId
  obligation : s.obligation = .agreementInstallment inst.id
  version : s.receiptVersion = .v5
  components : s.components = none
  amounts : s.amounts.amountReceived = receivedAmount payment ∧ s.amounts.interestApplied = 0 ∧
    s.amounts.principalApplied = (agreementSplit inst (receivedAmount payment)).principal ∧
    s.amounts.penaltyApplied = (agreementSplit inst (receivedAmount payment)).penalty
  sound : checkSettlement s = .ok ()
  evidence : s.agreementEvidence = some (agreementEvidence inst
    (paidInstallment inst payment effectiveAt) agreement
    (paidAgreement db inst agreement payment effectiveAt))
  receipt : Sealed env db' p s

/-- Settling a payment of an agreement installment. -/
theorem settle_agreement (hs : Sound db) (hp : db.payment? payment.id = some payment)
    (hnone : db.settlementOfPayment? payment.id = none)
    (href : payment.reference = some (.agreementInstallment inst.id))
    (hinst : db.agreementInstallment? inst.id = some inst)
    (hagreement : db.agreement? inst.agreementId = some agreement)
    (h : settleConfirmedPixPayment env db clock payment.id c = .ok (db', s)) :
    Sound db' ∧ ∃ p row, AgreementSettled env db db' payment p inst agreement
      (effectiveInstant clock payment c) s row := by
  obtain ⟨payment', hp', -, ⟨hfound, -⟩ | ⟨-, -, -, app, happ, hrecord⟩⟩ := settle_cases h
  · rw [hnone] at hfound
    cases hfound
  · obtain rfl : payment = payment' := Option.some.inj (hp.symm.trans hp')
    unfold applyToObligation at happ
    rw [href] at happ
    simp only [bind_eq_ok, refuseIf_eq_ok, orRefuse_eq_ok, lockCollectionAgreement, exists_and_left,
      exists_const] at happ
    obtain ⟨-, -, -, inst', hinst', agreement', hagreement', hbranch⟩ := happ
    obtain rfl : inst = inst' := Option.some.inj (hinst.symm.trans hinst')
    obtain rfl : agreement = agreement' := Option.some.inj (hagreement.symm.trans hagreement')
    obtain ⟨new, hg, -⟩ := agreement_settled hs hp hnone hbranch hrecord
    refine ⟨hg.sound hs, ?_⟩
    obtain ⟨row, after, agreementAfter, hpos, rfl, rfl, hposting, hrow, htype, hamount, happ_eq⟩ :=
      applyToAgreementInstallment_spec hbranch
    obtain ⟨charged, entries, hcheck, -, -, hsettled, hdb⟩ := recordSettlement_spec
      (by rw [happ_eq]; exact hs.installments) hrecord
    have hrecorded : RecordedAs payment c (effectiveInstant clock payment c) (receivedAmount payment)
      app s := hsettled ▸ settledRow_recordedAs hcheck
    have hsealed : Sealed env db' (settledPayment payment c clock (effectiveInstant clock payment c)
        (receivedAmount payment) app) s := by
      rw [hsettled]
      exact settledRow_sealed (by rw [hdb])
    have hsplit := agreementSplit_applied inst (receivedAmount payment) (by omega)
    have hamounts := hrecorded.amounts
    rw [happ_eq] at hamounts hdb
    refine ⟨settledPayment payment c clock (effectiveInstant clock payment c) (receivedAmount payment)
      app, row, ?_⟩
    exact
      { positive := hpos
        paid := settledPayment_paidAs clock
        payments := by rw [hdb, happ_eq]
        installments := by rw [hdb]
        agreements := by rw [hdb]
        users := by rw [hdb]
        reversals := by rw [hdb]
        settlements := by rw [hdb]
        settlement := by
          rw [Db.settlementOfPayment?] at hnone
          rw [hdb, Db.settlementOfPayment?, List.find?_append, hnone]
          simp [hrecorded.paymentId]
        ledger := by rw [hdb]
        posting := hposting
        posted := by
          refine ⟨hrow, htype, ?_⟩
          rw [hamount, ← hsplit, hamounts, AgreementSplit.applied]
          simp only [appliedAmount]
          ring
        paymentId := hrecorded.paymentId
        memberId := by rw [hrecorded.memberId, happ_eq]
        obligation := by rw [hrecorded.obligation, happ_eq]
        version := by rw [hrecorded.version, happ_eq]
        components := by rw [hrecorded.components, happ_eq]
        amounts := by
          rw [hamounts]
          exact ⟨rfl, rfl, rfl, rfl⟩
        sound := hrecorded.sound
        evidence := by rw [hrecorded.agreementEvidence, happ_eq]
        receipt := hsealed }

/-- The evidence the table accepts for an agreement. -/
structure SoundEvidence (e : AgreementEvidence) : Prop where
  installment : e.installmentStatusBefore ∈ [ObligationStatus.OPEN, .PARTIAL, .PAID] ∧
    e.installmentStatusAfter ∈ [ObligationStatus.OPEN, .PARTIAL, .PAID]
  agreement : e.agreementStatusBefore ∈ [AgreementStatus.APPROVED, .SETTLED] ∧
    e.agreementStatusAfter ∈ [AgreementStatus.APPROVED, .SETTLED]
  nonneg : 0 ≤ e.paidAmountBefore ∧ 0 ≤ e.paidAmountAfter ∧ 0 ≤ e.paidPenaltyAmountBefore ∧
    0 ≤ e.paidPenaltyAmountAfter

theorem checkSettlement_evidence {e : AgreementEvidence} (h : checkSettlement s = .ok ())
    (he : s.agreementEvidence = some e) : SoundEvidence e := by
  unfold checkSettlement at h
  simp only [bind_eq_ok, requireConstraint_eq_ok, exists_and_left, exists_const, he, Option.all_some,
    decide_eq_true_eq] at h
  obtain ⟨-, -, -, -, -, -, -, -, -, hinstallment, hagreement, hnonneg⟩ := h
  exact ⟨hinstallment, hagreement, hnonneg⟩

section Receipt
variable {e : AgreementEvidence}

/-- What the reversal reads back from the receipt of an agreement settlement. -/
structure AgreementReceipt (snapshot : Value) (p : Payment) (s : PaymentSettlement) (instId : Nat)
    (e : AgreementEvidence) : Prop where
  type : sameJson (field (field snapshot "obligation") "type") (.str "AGREEMENT_INSTALLMENT")
  installment : sameJson (field (field snapshot "obligation") "agreement_installment_id") (idJson instId)
  member : sameJson (field (field snapshot "obligation") "member_id") (idJson s.memberId)
  payment : sameJson (field (field snapshot "payment") "id") (idJson p.id)
  referenceType : sameJson (field (field snapshot "payment") "reference_type")
    (nullable (.str ·.type) p.reference)
  referenceId : sameJson (field (field snapshot "payment") "reference_id")
    (nullable (.str ·.text) p.reference)
  installmentState : sameJson (field snapshot "agreement_installment_state")
    (agreementInstallmentStateJson e)
  agreementState : sameJson (field snapshot "collection_agreement_state")
    (collectionAgreementStateJson e)

theorem agreementReceipt_sortKeys {instId : Nat} (hversion : s.receiptVersion = .v5)
    (hobligation : s.obligation = .agreementInstallment instId) (hevidence : s.agreementEvidence = some e) :
    AgreementReceipt (sortKeys (receiptOf db p s)) p s instId e := by
  have hdoc : Distinct (receiptOf db p s) := distinct_settlementReceipt p s db p.id
  obtain ⟨hpayment, hobject, -⟩ := field_receiptOf db p s
  have hin := sameJson_nested hdoc hobject (distinct_obligationJson s)
  have hpaid := sameJson_nested hdoc hpayment (distinct_paymentJson p)
  have hstates : field (receiptOf db p s) "agreement_installment_state" =
        agreementInstallmentStateJson e ∧
      field (receiptOf db p s) "collection_agreement_state" = collectionAgreementStateJson e := by
    rw [receiptOf, settlementReceiptSnapshot, hversion, hevidence]
    exact ⟨rfl, rfl⟩
  have htype : field (obligationJson s) "type" = .str "AGREEMENT_INSTALLMENT" := by
    rw [obligationJson, hobligation]
    rfl
  have hinstallment : field (obligationJson s) "agreement_installment_id" = idJson instId := by
    rw [obligationJson, hobligation]
    rfl
  exact
    { type := htype ▸ hin "type"
      installment := hinstallment ▸ hin "agreement_installment_id"
      member := hin "member_id"
      payment := hpaid "id"
      referenceType := hpaid "reference_type"
      referenceId := hpaid "reference_id"
      installmentState := hstates.1 ▸ sameJson_field hdoc _
      agreementState := hstates.2 ▸ sameJson_field hdoc _ }

end Receipt

section Validate

variable (h : AgreementSettled env db db' payment p inst agreement effectiveAt s row)
include h

theorem AgreementSettled.installment_row (hinst : db.agreementInstallment? inst.id = some inst) :
    db'.agreementInstallment? inst.id = some (paidInstallment inst payment effectiveAt) := by
  rw [Db.agreementInstallment?, h.installments]
  exact lookup_replace_self hinst

theorem AgreementSettled.agreement_row (hagreement : db.agreement? inst.agreementId = some agreement) :
    db'.agreement? inst.agreementId = some (paidAgreement db inst agreement payment effectiveAt) := by
  have hid : agreement.id = inst.agreementId := lookup_key hagreement
  rw [← hid] at hagreement ⊢
  rw [Db.agreement?, h.agreements]
  exact lookup_replace_self hagreement

/-- A settlement without a penalty component passes every check of its reversal. -/
theorem AgreementSettled.validated (href : payment.reference = some (.agreementInstallment inst.id))
    (hinst : db.agreementInstallment? inst.id = some inst)
    (hagreement : db.agreement? inst.agreementId = some agreement)
    (hpenalty : s.amounts.penaltyApplied = 0) :
    validateAgreementSettlement env db' p s inst.id =
      .ok (s.amounts, agreementEvidence inst (paidInstallment inst payment effectiveAt) agreement
        (paidAgreement db inst agreement payment effectiveAt),
        paidAgreement db inst agreement payment effectiveAt,
        paidInstallment inst payment effectiveAt) := by
  have hevidence := checkSettlement_evidence h.sound h.evidence
  obtain ⟨hsound, -⟩ := checkSettlement_amounts h.sound
  obtain ⟨hreceived, hinterest, hprincipal, hsplit⟩ := h.amounts
  have hmoney : validateMoney s p false = .ok s.amounts := by
    refine validateMoney_eq_ok.mpr ⟨rfl, hsound, ?_, ?_, fun _ => ⟨hinterest, hpenalty⟩⟩
    · intro parts hparts
      rw [h.components] at hparts
      cases hparts
    · rw [receivedAmount, h.paid.amountReceived, Option.getD_some, hreceived]
  unfold validateAgreementSettlement lockCollectionAgreement
  simp only [bind_eq_ok, pure_eq_ok, refuseIf_eq_ok, orRefuse_eq_ok, Prod.mk.injEq, exists_and_left,
    exists_const]
  have hreceipt : AgreementReceipt (sortKeys (receiptOf db' p s)) p s inst.id _ :=
    agreementReceipt_sortKeys h.version h.obligation h.evidence
  refine ⟨by simp [h.version], by simp [h.paymentId, h.paid.id_eq], by simp [h.paid.reference, href], _,
    h.installment_row hinst, _, h.agreement_row hagreement, ?_, _, h.receipt.load _ _, _, hmoney,
    by simp [hinterest], ?_, ?_, _, h.evidence, ?_, ?_, ?_, ?_, ?_, ?_, ?_, ?_, ?_, ?_, rfl, rfl, rfl, rfl⟩
  · rw [h.memberId]
    exact not_not.mpr rfl
  · have := hsound.applied_eq
    omega
  · have := hsound.received_eq
    omega
  · exact fun hor => hor.elim (· hevidence.agreement.1) (· hevidence.agreement.2)
  · exact fun hor => hor.elim (· hevidence.installment.1) (· hevidence.installment.2)
  · simp [agreementEvidence, creditedAgreement, touchCollectionAgreement]
  · have := hevidence.nonneg
    omega
  · rw [hprincipal]
    exact not_not.mpr rfl
  · rw [hsplit]
    exact not_not.mpr rfl
  · have hsame : sameJson (sortKeys (receiptOf db' p s))
        (settlementReceiptSnapshot p s (ledgerSnapshot db' p.id)) = true := sameJson_sortKeys _
    rintro (hdiffer | htext)
    · exact hdiffer hsame
    · exact htext h.receipt.text
  · rintro (hno | hno | hno)
    · exact hno hreceipt.type
    · exact hno hreceipt.installment
    · exact hno hreceipt.member
  · rintro (hno | hno | hno)
    · exact hno hreceipt.payment
    · exact hno hreceipt.referenceType
    · exact hno hreceipt.referenceId
  · rintro (hno | hno)
    · exact hno hreceipt.installmentState
    · exact hno hreceipt.agreementState

/-- Nothing of what the settlement left has changed. -/
theorem AgreementSettled.state_kept : AgreementStateKept (paidInstallment inst payment effectiveAt)
    (paidAgreement db inst agreement payment effectiveAt) s.amounts (agreementEvidence inst
      (paidInstallment inst payment effectiveAt) agreement
      (paidAgreement db inst agreement payment effectiveAt)) := by
  obtain ⟨-, -, hprincipal, hpenalty⟩ := h.amounts
  refine ⟨rfl, rfl, rfl, rfl, rfl, rfl, ?_, ?_⟩
  · rw [hprincipal]
    exact add_sub_cancel_right _ _
  · rw [hpenalty]
    exact add_sub_cancel_right _ _

/-- When no row referred to the payment before, its own row is the only one that does. -/
theorem AgreementSettled.sole (hledger : LedgerSound db.ledgerEntries)
    (hfree : ∀ e ∈ db.ledgerEntries, e.referenceId ≠ toString payment.id) :
    SoleOriginal db' p.id .AGREEMENT_INSTALLMENT_PAYMENT s.amounts.amountApplied row := by
  obtain ⟨hrow, htype, hamount⟩ := h.posted
  refine ⟨?_, htype, hrow.account, hrow.direction, hamount, hrow.original, ?_⟩
  · have hnone : db.ledgerEntries.filter (fun e => e.referenceId = toString payment.id) = [] :=
      List.filter_eq_nil_iff.mpr fun e he => by simpa using hfree e he
    rw [paymentLedgerRows, h.ledger, h.paid.id_eq, List.filter_append, hnone, List.nil_append,
      List.filter_cons_of_pos (by simpa using hrow.reference), List.filter_nil]
  · rw [hasReversal, h.ledger, List.any_eq_false]
    intro e he
    rcases List.mem_append.mp he with he | he
    · rw [h.posting.id_eq]
      simpa using hledger.not_reverses_next he
    · rw [List.mem_singleton.mp he, hrow.original]
      simp

/-- No reversal is of this payment or of its settlement. -/
theorem AgreementSettled.first (hs : Sound db) (hs' : Sound db')
    (hnone : db.settlementOfPayment? payment.id = none) :
    ∀ r ∈ db.reversals, r.paymentId ≠ payment.id ∧ r.settlementId ≠ s.id := by
  intro r hr
  obtain ⟨y, hy, hid, hpayment⟩ := hs.reversed r hr
  rw [Db.settlementOfPayment?, List.find?_eq_none] at hnone
  have hother : y.paymentId ≠ payment.id := by simpa using hnone y hy
  refine ⟨hpayment ▸ hother, fun hsame => hother ?_⟩
  have hys : y = s := eq_of_mem_of_key hs'.settlements (by simp [h.settlements, hy])
    (by simp [h.settlements]) (hid.trans hsame)
  rw [hys, h.paymentId]

/-- The installment and the agreement a reversal writes are those there were. -/
theorem AgreementSettled.restores {compensating : LedgerEntry}
    (hinst : db.agreementInstallment? inst.id = some inst)
    (hagreement : db.agreement? inst.agreementId = some agreement)
    (hinstallments : undone.agreementInstallments = replace AgreementInstallment.id
      db'.agreementInstallments (restoredAgreementInstallment (paidInstallment inst payment effectiveAt)
        (agreementEvidence inst (paidInstallment inst payment effectiveAt) agreement
          (paidAgreement db inst agreement payment effectiveAt))))
    (hagreements : undone.agreements = replace CollectionAgreement.id db'.agreements
      (restoredAgreement (paidAgreement db inst agreement payment effectiveAt)
        (agreementEvidence inst (paidInstallment inst payment effectiveAt) agreement
          (paidAgreement db inst agreement payment effectiveAt))))
    (hledger : undone.ledgerEntries = db'.ledgerEntries ++ [compensating])
    (hcompensates : Compensates row compensating) : Restored db undone inst agreement := by
  have hid : agreement.id = inst.agreementId := lookup_key hagreement
  refine ⟨?_, ?_, ?_⟩
  · have hback : restoredAgreementInstallment (paidInstallment inst payment effectiveAt)
        (agreementEvidence inst (paidInstallment inst payment effectiveAt) agreement
          (paidAgreement db inst agreement payment effectiveAt)) = inst := rfl
    rw [Db.agreementInstallment?, hinstallments, hback]
    exact lookup_replace_self (h.installment_row hinst)
  · have hrow := h.agreement_row hagreement
    rw [← hid] at hrow
    rw [Db.agreement?, hagreements]
    exact lookup_replace_self hrow
  · rw [Db.caixinhaBalance, Db.caixinhaBalance, hledger, h.ledger, accountBalance_append,
      accountBalance_append, accountBalance_singleton, accountBalance_singleton,
      if_pos h.posted.1.account, if_pos (hcompensates.account.trans h.posted.1.account),
      hcompensates.signed]
    ring

end Validate

section Reverse
variable {adminId : Nat} {reason : String} {now : Option Timestamp} {clock' : Int}

/-- Without a penalty component the reversal goes through and restores what there was. -/
theorem AgreementSettled.reversible (hs : Sound db) (hs' : Sound db')
    (h : AgreementSettled env db db' payment p inst agreement effectiveAt s row)
    (href : payment.reference = some (.agreementInstallment inst.id))
    (hinst : db.agreementInstallment? inst.id = some inst)
    (hagreement : db.agreement? inst.agreementId = some agreement)
    (hfree : ∀ e ∈ db.ledgerEntries, e.referenceId ≠ toString payment.id)
    (hnone : ∀ r ∈ db.reversals, r.paymentId ≠ payment.id ∧ r.settlementId ≠ s.id)
    (hpayment : db'.payment? payment.id = some p) (hmay : MayReverse db' p adminId reason now)
    (hpenalty : s.amounts.penaltyApplied = 0) :
    ∃ undone r, reversePayment env db' clock' payment.id adminId reason now = .ok (undone, r) ∧
      Restored db undone inst agreement := by
  have hsole := h.sole hs.ledger hfree
  obtain ⟨hsound, -⟩ := checkSettlement_amounts h.sound
  have hunreversed : db'.reversalOfPayment? payment.id = none := by
    rw [Db.reversalOfPayment?, h.reversals, List.find?_eq_none]
    intro r hr
    simpa using (hnone r hr).1
  obtain ⟨undone, r, hwrite⟩ : ∃ undone r, writeAgreementReversal env db' clock' p s
      (paidInstallment inst payment effectiveAt) (paidAgreement db inst agreement payment effectiveAt)
      (agreementEvidence inst (paidInstallment inst payment effectiveAt) agreement
        (paidAgreement db inst agreement payment effectiveAt)) row
      (reversalRow env db' p s adminId (strip reason) ((now.map (·.instant)).getD clock')
        (.agreementInstallmentDueDate inst.dueDate) s.amounts) = .ok (undone, r) := by
    refine writeAgreementReversal_ok hs'.ledger hsound ?_ ?_ hsole.mem.1 hsole.original hsole.intact
      h.state_kept.revision
    · rw [h.reversals]
      intro y hy
      rw [show (reversalRow env db' p s adminId _ _ _ s.amounts).paymentId = payment.id from h.paid.id_eq]
      exact (hnone y hy).1
    · rw [h.reversals]
      exact fun y hy => (hnone y hy).2
  refine ⟨undone, r, ?_, ?_⟩
  · rw [reversePayment_eq hpayment hmay hunreversed h.settlement, reverseObligation, h.obligation]
    simp only [reverseAgreementPayment, h.validated href hinst hagreement hpenalty, ok_bind,
      checkAgreementState_eq_ok.mpr h.state_kept, (findAgreementLedger_eq_ok hs'.ledger).mpr hsole]
    exact hwrite
  · obtain ⟨compensating, components, snapshot, -, -, -, -, hcompensates, -, rfl⟩ :=
      writeAgreementReversal_spec rfl hwrite
    exact h.restores hinst hagreement rfl rfl rfl hcompensates

/-- A reversal that goes through is of a settlement without a penalty component. -/
theorem AgreementSettled.reversed (hs' : Sound db')
    (h : AgreementSettled env db db' payment p inst agreement effectiveAt s row)
    (hnone : ∀ r ∈ db.reversals, r.paymentId ≠ payment.id ∧ r.settlementId ≠ s.id)
    (hreverse : reversePayment env db' clock' payment.id adminId reason now = .ok (undone, r)) :
    s.amounts.penaltyApplied = 0 := by
  obtain ⟨p', hp', -, ⟨hfound, -⟩ | ⟨-, -, s', hfound, hbranch⟩⟩ := reverse_cases hreverse
  · rw [Db.reversalOfPayment?, h.reversals] at hfound
    have hid := List.find?_some hfound
    exact absurd (by simpa using hid) (hnone r (List.mem_of_find?_eq_some hfound)).1
  · obtain rfl : s = s' := Option.some.inj (h.settlement.symm.trans hfound)
    rw [reverseObligation, h.obligation] at hbranch
    obtain ⟨e, agreement', inst', original, x, hvalid, -⟩ :=
      reverseAgreementPayment_spec hs'.ledger hbranch
    exact (validateAgreementSettlement_amounts hvalid).2.2.2.2.2

/-- A settlement of an agreement installment applies no penalty exactly when none is open. -/
theorem AgreementSettled.penalty_eq_zero
    (h : AgreementSettled env db db' payment p inst agreement effectiveAt s row) :
    s.amounts.penaltyApplied = 0 ↔ inst.penaltyAmount ≤ inst.paidPenaltyAmount := by
  obtain ⟨-, -, -, hpenalty⟩ := h.amounts
  have hpositive := h.positive
  rw [hpenalty, agreementSplit]
  dsimp only
  omega

end Reverse

/-- The reversal of a payment that just settled an agreement installment goes through and restores
the installment, its agreement and the balance exactly when no penalty was open. -/
theorem reversal_restores_iff (hs : Sound db) (hpayment : db.payment? payment.id = some payment)
    (hnone : db.settlementOfPayment? payment.id = none)
    (href : payment.reference = some (.agreementInstallment inst.id))
    (hinst : db.agreementInstallment? inst.id = some inst)
    (hagreement : db.agreement? inst.agreementId = some agreement)
    (hsettle : settleConfirmedPixPayment env db clock payment.id c = .ok (db', s))
    (hfree : ∀ e ∈ db.ledgerEntries, e.referenceId ≠ toString payment.id) {adminId : Nat}
    {reason : String} {now : Option Timestamp} (happroved : payment.status = "approved")
    (hadmin : validateAdmin db adminId = .ok ()) (hreason : ¬ shortReason reason)
    (hnow : ∀ t, now = some t → t.aware) (clock' : Int) :
    (∃ undone r, reversePayment env db' clock' payment.id adminId reason now = .ok (undone, r) ∧
      Restored db undone inst agreement) ↔ inst.penaltyAmount ≤ inst.paidPenaltyAmount := by
  obtain ⟨hs', p, row, h⟩ := settle_agreement hs hpayment hnone href hinst hagreement hsettle
  have hp : db'.payment? payment.id = some p := by
    rw [Db.payment?, h.payments, ← h.paid.id_eq]
    exact lookup_replace_self (h.paid.id_eq ▸ hpayment)
  have hfirst := h.first hs hs' hnone
  rw [← h.penalty_eq_zero]
  constructor
  · rintro ⟨undone, r, hreverse, -⟩
    exact h.reversed hs' hfirst hreverse
  · intro hpenalty
    have hmay : MayReverse db' p adminId reason now :=
      ⟨hreason, hnow, h.paid.status.trans happroved, by
        rw [validateAdmin, Db.user?, h.users]
        exact hadmin⟩
    exact h.reversible hs hs' href hinst hagreement hfree hfirst hp hmay hpenalty

private def sampleInstallment (penaltyAmount : Int) : AgreementInstallment where
  id := 1
  agreementId := 1
  number := 1
  dueDate := 20000
  principal := 10000
  penaltyAmount
  amount := 10000
  paidAmount := 0
  paidPenaltyAmount := 0
  paidAt := none
  status := .OPEN

private def sampleAgreement : CollectionAgreement where
  id := 1
  loanId := 1
  memberId := 1
  status := .APPROVED
  stateRevision := 0

private def samplePayment : Payment where
  id := 1
  provider := "mercado_pago"
  providerOrderId := none
  providerPaymentId := none
  amount := 4000
  status := "approved"
  externalReference := none
  pixTxid := none
  endToEndId := none
  providerStatusDetail := none
  confirmedAt := none
  expiresAt := none
  amountReceived := none
  ledgerPostedAt := none
  reference := some (.agreementInstallment 1)
  attemptStatus := none
  calculatedForDate := none
  financialSnapshotJson := none
  snapshotHash := none
  reconciliationStatus := none

private def sampleDb (penaltyAmount : Int) : Db where
  users := [{ id := 7, isActive := true, isAdmin := true, isMaster := true }]
  members := [{ id := 1 }]
  agreements := [sampleAgreement]
  agreementInstallments := [sampleInstallment penaltyAmount]
  payments := [samplePayment]

private def sampleEnv : Env where
  sha256 := fun _ => ""
  lateChargeEffectiveDate := none

private theorem sampleDb_sound (penaltyAmount : Int) : Sound (sampleDb penaltyAmount) := by
  constructor
  case ledger => constructor <;> simp [sampleDb, Keyed]
  all_goals simp [sampleDb, Keyed]

/-- A payment that found a penalty open settles, and its reversal is refused. -/
theorem open_penalty_refuses_reversal : Sound (sampleDb 500) ∧ ∃ settled s,
    settleConfirmedPixPayment sampleEnv (sampleDb 500) 5 1 { source := "webhook" } = .ok (settled, s) ∧
      s.amounts.penaltyApplied = 500 ∧ s.amounts.principalApplied = 3500 ∧
      validateAdmin settled 7 = .ok () ∧
      settled.ledgerEntries.map LedgerEntry.referenceType = [.AGREEMENT_INSTALLMENT_PAYMENT] ∧
      ∀ undone r, reversePayment sampleEnv settled 9 1 7 "wrong payer" none ≠ .ok (undone, r) := by
  obtain ⟨settled, s, hsettle, hpenalty, hprincipal, hadmin, hledger⟩ : ∃ settled s,
      settleConfirmedPixPayment sampleEnv (sampleDb 500) 5 1 { source := "webhook" } = .ok (settled, s) ∧
      s.amounts.penaltyApplied = 500 ∧ s.amounts.principalApplied = 3500 ∧
      validateAdmin settled 7 = .ok () ∧
      settled.ledgerEntries.map LedgerEntry.referenceType = [.AGREEMENT_INSTALLMENT_PAYMENT] :=
    ⟨_, _, rfl, rfl, rfl, rfl, rfl⟩
  refine ⟨sampleDb_sound 500, settled, s, hsettle, hpenalty, hprincipal, hadmin, hledger, ?_⟩
  intro undone r hreverse
  have hpayment : (sampleDb 500).payment? samplePayment.id = some samplePayment := rfl
  have hinst : (sampleDb 500).agreementInstallment? (sampleInstallment 500).id =
      some (sampleInstallment 500) := rfl
  obtain ⟨hs', p, row, h⟩ := settle_agreement (sampleDb_sound 500) hpayment rfl rfl hinst rfl hsettle
  have hzero := h.reversed hs' (h.first (sampleDb_sound 500) hs' rfl) hreverse
  omega

theorem sample_reversal_restores : ∃ settled s undone r,
    settleConfirmedPixPayment sampleEnv (sampleDb 0) 5 1 { source := "webhook" } = .ok (settled, s) ∧
      reversePayment sampleEnv settled 9 1 7 "wrong payer" none = .ok (undone, r) ∧
      Restored (sampleDb 0) undone (sampleInstallment 0) sampleAgreement := by
  obtain ⟨settled, s, hsettle⟩ : ∃ settled s, settleConfirmedPixPayment sampleEnv (sampleDb 0) 5 1
      { source := "webhook" } = .ok (settled, s) := ⟨_, _, rfl⟩
  have hreason : ¬ shortReason "wrong payer" := by decide
  have hnow : ∀ t : Timestamp, none = some t → t.aware := by simp
  have hpayment : (sampleDb 0).payment? samplePayment.id = some samplePayment := rfl
  have hinst : (sampleDb 0).agreementInstallment? (sampleInstallment 0).id = some (sampleInstallment 0) :=
    rfl
  have hagreement : (sampleDb 0).agreement? (sampleInstallment 0).agreementId = some sampleAgreement :=
    rfl
  have hadmin : validateAdmin (sampleDb 0) 7 = .ok () := rfl
  have hpenalty : (sampleInstallment 0).penaltyAmount ≤ (sampleInstallment 0).paidPenaltyAmount := by
    decide
  obtain ⟨undone, r, hreverse, hrestored⟩ := (reversal_restores_iff (sampleDb_sound 0) hpayment rfl rfl
    hinst hagreement hsettle (by simp [sampleDb]) rfl hadmin hreason hnow
    9).mpr hpenalty
  exact ⟨settled, s, undone, r, hsettle, hreverse, hrestored⟩

end Caixinha.Properties.AgreementUndo
