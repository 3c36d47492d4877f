import Caixinha.Effects.AgreementSteps
import Caixinha.Effects.Settled

/-! What charges, payments and reversals do to the installments of agreements: nothing, one payment
taken by an installment, or one taken back as its evidence says. -/
namespace Caixinha.Effects

open Caixinha.Library Caixinha.Library.Table Fallible Caixinha.Model

variable {env : Env} {db db' : Db} {clock : Int} {c : Confirmation} {paymentId adminId : Nat}
  {s : PaymentSettlement} {r : PaymentReversal} {reason : String} {now : Option Timestamp}

inductive InstallmentEffect (db db' : Db) : Prop
  | idle (hagreements : db'.agreements = db.agreements)
      (hinstallments : db'.agreementInstallments = db.agreementInstallments)
      (hsettlements : db'.settlements = db.settlements)
  | paid (inst : AgreementInstallment) (agreement : CollectionAgreement) (received effectiveAt : Int)
      (s : PaymentSettlement) (hinst : db.agreementInstallment? inst.id = some inst)
      (hagreement : db.agreement? inst.agreementId = some agreement) (hdue : 0 < agreementDue inst)
      (hinstallments : db'.agreementInstallments = replace AgreementInstallment.id
        db.agreementInstallments (creditedInstallment inst (agreementSplit inst received) effectiveAt))
      (hagreements : db'.agreements = replace CollectionAgreement.id db.agreements
        (creditedAgreement (db.putAgreementInstallment
          (creditedInstallment inst (agreementSplit inst received) effectiveAt)) agreement))
      (hsettlements : db'.settlements = db.settlements ++ [s])
      (hobligation : s.obligation = .agreementInstallment inst.id)
      (hevidence : s.agreementEvidence = some (agreementEvidence inst
        (creditedInstallment inst (agreementSplit inst received) effectiveAt) agreement
        (creditedAgreement (db.putAgreementInstallment
          (creditedInstallment inst (agreementSplit inst received) effectiveAt)) agreement)))
  | undone (inst : AgreementInstallment) (agreement : CollectionAgreement) (s : PaymentSettlement)
      (e : AgreementEvidence) (hs : s ∈ db.settlements)
      (hobligation : s.obligation = .agreementInstallment inst.id)
      (hevidence : s.agreementEvidence = some e) (hinst : db.agreementInstallment? inst.id = some inst)
      (hagreement : db.agreement? inst.agreementId = some agreement)
      (hinstallments : db'.agreementInstallments = replace AgreementInstallment.id
        db.agreementInstallments (restoredAgreementInstallment inst e))
      (hagreements : db'.agreements = replace CollectionAgreement.id db.agreements
        (restoredAgreement agreement e))
      (hsettlements : db'.settlements = db.settlements)

private theorem settled_step (ht : AgreementTables db) (hpays : paysInstallment db paymentId = true)
    (h : settleConfirmedPixPayment env db clock paymentId c = .ok (db', s)) :
    InstallmentEffect db db' ∧ AgreementTables db' := by
  have href : ∀ p, db.payment? paymentId = some p →
      ∃ id, p.reference = some (.agreementInstallment id) := by
    intro p hp
    rw [paysInstallment, hp, Option.any_some] at hpays
    split at hpays
    · rename_i id hid
      exact ⟨id, hid⟩
    · cases hpays
  refine ⟨?_, ht.kept (settle_termsKept ht href h).1⟩
  obtain ⟨payment, hp, -, ⟨-, rfl⟩ | ⟨-, -, -, app, happ, hrecord⟩⟩ := settle_cases h
  · exact .idle rfl rfl rfl
  · obtain ⟨id, href⟩ := href payment hp
    unfold applyToObligation at happ
    rw [href] at happ
    simp only [bind_eq_ok, refuseIf_eq_ok, orRefuse_eq_ok, lockCollectionAgreement, exists_and_left,
      exists_const] at happ
    obtain ⟨-, -, -, inst, hinst, agreement, hagreement, hbranch⟩ := happ
    obtain rfl : inst.id = id := lookup_key hinst
    obtain ⟨row, after, agreementAfter, hpos, rfl, rfl, -, -, -, -, happ_eq⟩ :=
      applyToAgreementInstallment_spec hbranch
    have hkeyed : Keyed LoanInstallment.id app.db.loanInstallments := by
      rw [happ_eq]
      exact ht.rows
    obtain ⟨charged, entries, hcheck, -, -, hsettled, hdb⟩ := recordSettlement_spec hkeyed hrecord
    have hrecorded : RecordedAs payment c (effectiveInstant clock payment c) (receivedAmount payment)
      app s := hsettled ▸ settledRow_recordedAs hcheck
    rw [happ_eq] at hdb
    refine .paid inst agreement (receivedAmount payment) (effectiveInstant clock payment c) s hinst
      hagreement (by omega) ?_ ?_ ?_ ?_ ?_
    · rw [hdb]
    · rw [hdb]
    · rw [hdb]
    · rw [hrecorded.obligation, happ_eq]
    · rw [hrecorded.agreementEvidence, happ_eq]

/-- The evidence a reversal reads is that of the settlement. -/
private theorem validateAgreementSettlement_evidence {payment : Payment} {settlement : PaymentSettlement}
    {installmentId : Nat} {values : AppliedAmounts} {e : AgreementEvidence}
    {agreement : CollectionAgreement} {inst : AgreementInstallment}
    (h : validateAgreementSettlement env db payment settlement installmentId =
      .ok (values, e, agreement, inst)) : settlement.agreementEvidence = some e := by
  unfold validateAgreementSettlement at h
  simp only [bind_eq_ok, pure_eq_ok, refuseIf_eq_ok, orRefuse_eq_ok, Prod.mk.injEq, exists_and_left,
    exists_const] at h
  obtain ⟨-, -, -, row, -, found, -, -, snapshot, -, v, -, h⟩ := h
  obtain ⟨-, -, -, e', he, -, -, -, -, -, -, -, -, -, -, -, rfl, -, -⟩ := h
  exact he

private theorem reversed_step (ht : AgreementTables db)
    (hsettled : settledInstallment db paymentId = true)
    (h : reversePayment env db clock paymentId adminId reason now = .ok (db', r)) :
    InstallmentEffect db db' ∧ AgreementTables db' := by
  have hobligation : ∀ s, db.settlementOfPayment? paymentId = some s →
      ∃ id, s.obligation = .agreementInstallment id := by
    intro s hs
    rw [settledInstallment, hs, Option.all_some] at hsettled
    split at hsettled
    · rename_i id hid
      exact ⟨id, hid⟩
    · cases hsettled
  refine ⟨?_, ht.kept (reverse_termsKept ht hobligation h).1⟩
  obtain ⟨payment, -, -, ⟨-, rfl⟩ | ⟨-, -, settlement, hsettlement, hreverse⟩⟩ := reverse_cases h
  · exact .idle rfl rfl rfl
  · obtain ⟨id, hobligation⟩ := hobligation settlement hsettlement
    unfold reverseObligation at hreverse
    rw [hobligation] at hreverse
    unfold reverseAgreementPayment at hreverse
    simp only [bind_eq_ok, Prod.exists] at hreverse
    obtain ⟨values, e, agreement, inst, hvalid, -, -, original, -, hwrite⟩ := hreverse
    obtain ⟨-, -, -, hinst, hagreement, -⟩ := validateAgreementSettlement_amounts hvalid
    obtain ⟨compensating, components, snapshot, -, -, -, -, -, -, hdb⟩ :=
      writeAgreementReversal_spec rfl hwrite
    obtain rfl : inst.id = id := lookup_key hinst
    have hmem : settlement ∈ db.settlements := by
      rw [Db.settlementOfPayment?] at hsettlement
      exact List.mem_of_find?_eq_some hsettlement
    refine .undone inst agreement settlement e hmem hobligation
      (validateAgreementSettlement_evidence hvalid) hinst hagreement ?_ ?_ ?_
    · rw [hdb]
    · rw [hdb]
    · rw [hdb]

/-- Every step of an installment history has one of the three effects. -/
theorem installmentStep_effect (ht : AgreementTables db) (step : InstallmentStep) :
    InstallmentEffect db (step.next env db) ∧ AgreementTables (step.next env db) := by
  have hstay : InstallmentEffect db db ∧ AgreementTables db := ⟨.idle rfl rfl rfl, ht⟩
  unfold InstallmentStep.next
  cases hok : step.apply env db with
  | error e => exact hstay
  | ok next =>
    cases step with
    | charge payment =>
      cases hok
      exact ⟨.idle rfl rfl rfl, ht.rows, ht.agreements, ht.replacements, ht.decided⟩
    | pay clock paymentId c =>
      change (if paysInstallment db paymentId then
        Prod.fst <$> settleConfirmedPixPayment env db clock paymentId c else .ok db) = .ok next at hok
      split at hok
      · rename_i hpays
        obtain ⟨⟨db', s⟩, hsettle, rfl⟩ := map_eq_ok.mp hok
        exact settled_step ht hpays hsettle
      · cases hok
        exact hstay
    | reverse clock paymentId adminId reason now =>
      change (if settledInstallment db paymentId then
        Prod.fst <$> reversePayment env db clock paymentId adminId reason now else .ok db) = .ok next
        at hok
      split at hok
      · rename_i hsettled
        obtain ⟨⟨db', r⟩, hreverse, rfl⟩ := map_eq_ok.mp hok
        exact reversed_step ht hsettled hreverse
      · cases hok
        exact hstay

end Caixinha.Effects
