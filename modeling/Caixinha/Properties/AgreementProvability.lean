import Caixinha.Effects.AgreementSteps
import Caixinha.Library.Runs

/-! An approved agreement stays provable: the rows it replaced keep their columns and no closing
refuses it, as long as the worker leaves those rows without a penalty. -/
namespace Caixinha.Properties.AgreementProvability

open Caixinha.Library Caixinha.Library.Table Fallible Caixinha.Library.Runs Caixinha.Model Caixinha.Effects
open Caixinha.Model.CycleClosing Caixinha.Effects.ClosingGaps

variable {env : Env} {start db db' : Db} {agreement : CollectionAgreement} {loan : Loan}
  {clock today : Int} {step : AgreementStep}

/-- The four columns of a replaced row that the closing reads. -/
def SameColumns (i j : LoanInstallment) : Prop :=
  j.amount = i.amount ∧ j.paidAmount = i.paidAmount ∧ j.penaltyAmount = i.penaltyAmount ∧
    j.paidPenaltyAmount = i.paidPenaltyAmount

/-- Since `start` the replaced rows kept their columns, what they owe is what the replacements add
up to, and no closing refuses the agreement. -/
structure Provable (env : Env) (start db : Db) (agreement : CollectionAgreement) : Prop where
  kept : ∀ i ∈ start.loanInstallments, i.loanId = agreement.loanId → i.status = .AGREED →
    ∃ j, db.installment? i.id = some j ∧ SameColumns i j
  balanced : oldOpen (installmentsOf db agreement.loanId) =
    replacementTotal (replacementsOf db agreement.id)
  provable : ∀ createdAt cycleId t, buildClosingEvidence env createdAt db cycleId t ≠
    .error (.closingContractGap "AGREEMENT_RESTRUCTURE_INTEGRITY_GAP" (toString agreement.id))

/-- The payment is of an agreement installment, and so is the settlement that is reversed. -/
def AgreementPayment (db : Db) : AgreementStep → Prop
  | .accrue _ _ => True
  | .pay _ paymentId _ => ∀ p, db.payment? paymentId = some p →
    ∃ id, p.reference = some (.agreementInstallment id)
  | .reverse _ paymentId _ _ _ => ∀ s, db.settlementOfPayment? paymentId = some s →
    ∃ id, s.obligation = .agreementInstallment id

/-- A worker run that goes through adds nothing to the replaced rows of the loan. -/
def LeavesReplaced (db : Db) (loanId : Nat) : AgreementStep → Prop
  | .accrue onDate rate => (∃ db', accrueOverduePenalties db onDate rate = .ok db') →
    ∀ i ∈ db.loanInstallments, i.loanId = loanId → i.status = .AGREED → ¬ Accrues i onDate rate
  | .pay .. => True
  | .reverse .. => True

/-- No other agreement of the loan applies. -/
def Sole (db : Db) (agreement : CollectionAgreement) : Prop :=
  ∀ a ∈ db.agreements, Decided a → a.loanId = agreement.loanId → a.id = agreement.id

/-- What every step after the approval starts from. -/
structure Standing (start db : Db) (agreement : CollectionAgreement) : Prop where
  tables : AgreementTables db
  terms : TermsKept start db
  sole : Sole db agreement

section Rows

/-- Row by row: the replaced ones keep their penalties. -/
def PenaltiesKept (start db : Db) (loanId : Nat) : Prop :=
  List.Forall₂ (fun i j => SameRow i j ∧
    (i.loanId = loanId → i.status = .AGREED → j.penaltyAmount = i.penaltyAmount))
    start.loanInstallments db.loanInstallments

/-- Rows that keep their terms keep their columns exactly when they keep their penalties. -/
theorem kept_iff (ht : AgreementTables start) (h : TermsKept start db) (loanId : Nat) :
    (∀ i ∈ start.loanInstallments, i.loanId = loanId → i.status = .AGREED →
      ∃ j, db.installment? i.id = some j ∧ SameColumns i j) ↔ PenaltiesKept start db loanId := by
  have hkeyed := (ht.kept h).rows
  constructor
  · intro hkept
    refine forall₂_of_mem h.rows fun i hi j hj hij => ⟨hij, fun hloan hagreed => ?_⟩
    obtain ⟨k, hk, -, -, hpenalty, -⟩ := hkept i hi hloan hagreed
    obtain ⟨_, _, rfl⟩ := hij
    have hsame := lookup_of_mem hkeyed hj
    have hkj := Option.some.inj (hk.symm.trans hsame)
    rw [← hkj]
    exact hpenalty
  · intro hkept i hi hloan hagreed
    obtain ⟨j, hj, ⟨penalty, day, rfl⟩, hpenalty⟩ := exists_of_forall₂ hkept hi
    have hfound : db.installment? i.id =
        some { i with penaltyAmount := penalty, lastPenaltyDate := day } := lookup_of_mem hkeyed hj
    exact ⟨_, hfound, rfl, rfl, hpenalty hloan hagreed, rfl⟩

end Rows

section Closing
variable {cycleId : Nat} {cutoff : Int} {b : CollectionAgreement}

theorem sole_kept (h : TermsKept start db) (hsole : Sole start agreement) : Sole db agreement := by
  intro b hb hdecided hloan
  obtain ⟨a, ha, ⟨status, n, rfl⟩, hiff⟩ := mem_of_forall₂ h.agreements hb
  exact hsole a ha (hiff.mpr hdecided) hloan

private theorem applicable_spec {a : CollectionAgreement}
    (h : a ∈ applicableAgreements db cycleId cutoff) :
    a ∈ db.agreements ∧ Decided a ∧ isCycleMember db cycleId a.memberId = true := by
  rw [applicableAgreements, List.mem_insertionSort, List.mem_filter] at h
  obtain ⟨hmem, h⟩ := h
  simp only [decide_eq_true_eq] at h
  exact ⟨hmem, h.2.1, h.1⟩

private theorem checkAgreement_avoids_other {a : CollectionAgreement} {replaced : List Nat}
    (hid : a.id ≠ agreement.id) :
    Avoids (IsGap "AGREEMENT_RESTRUCTURE_INTEGRITY_GAP" (toString agreement.id))
      (checkAgreement db cycleId replaced a) := by
  refine avoids_bind (avoids_gapIf fun _ => .inr fun hsame => ?_) fun _ _ => avoids_pure _
  exact hid (toString_key_inj hsame)

/-- When the agreement is valid unless its loan was replaced before, the closing does not refuse
it: no agreement checked before it is of its loan. -/
theorem supersededLoans_avoids_own (ht : AgreementTables db) (hsole : Sole db agreement)
    (hvalid : ∀ a ∈ db.agreements, a.id = agreement.id → isCycleMember db cycleId a.memberId = true →
      ∀ replaced, agreement.loanId ∉ replaced → structurallyValid db cycleId replaced a = true) :
    Avoids (IsGap "AGREEMENT_RESTRUCTURE_INTEGRITY_GAP" (toString agreement.id))
      (supersededLoans db cycleId cutoff) := by
  have hkeyed : Keyed CollectionAgreement.id (applicableAgreements db cycleId cutoff) := by
    have hfiltered : Keyed CollectionAgreement.id (db.agreements.filter (fun a =>
        isCycleMember db cycleId a.memberId ∧ (a.status = .APPROVED ∨ a.status = .SETTLED) ∧
          a.decidedAt.any (· ≤ cutoff))) := ht.agreements.sublist (List.filter_sublist.map _)
    exact ((List.perm_insertionSort _ _).map CollectionAgreement.id).nodup_iff.mpr hfiltered
  unfold supersededLoans
  by_cases hfound : ∃ a ∈ applicableAgreements db cycleId cutoff, a.id = agreement.id
  case neg =>
    exact avoids_foldlM_invariant (fun _ => True) (fun _ _ _ _ _ _ => trivial)
      (fun _ a ha _ => checkAgreement_avoids_other fun hid => hfound ⟨a, ha, hid⟩) trivial
  case pos =>
    obtain ⟨a, ha, hid⟩ := hfound
    obtain ⟨before, after, hsplit⟩ := List.append_of_mem ha
    rw [hsplit] at hkeyed ⊢
    have hother : ∀ b, b ∈ before ∨ b ∈ after → b.id ≠ agreement.id := by
      intro b hb hsame
      rw [Keyed, List.map_append, List.map_cons, List.nodup_append, List.nodup_cons] at hkeyed
      obtain ⟨-, ⟨hafter, -⟩, hbefore⟩ := hkeyed
      rw [← hid] at hsame
      rcases hb with hb | hb
      · exact hbefore _ (List.mem_map_of_mem hb) _ (List.mem_cons_self ..) hsame
      · exact hafter (hsame ▸ List.mem_map_of_mem hb)
    rw [List.foldlM_append]
    refine avoids_bind ?_ fun replaced hreplaced => ?_
    · exact avoids_foldlM_invariant (fun _ => True) (fun _ _ _ _ _ _ => trivial)
        (fun _ b hb _ => checkAgreement_avoids_other (hother b (.inl hb))) trivial
    · have hnot : agreement.loanId ∉ replaced := by
        refine foldlM_invariant_mem (fun replaced => agreement.loanId ∉ replaced) ?_
          List.not_mem_nil hreplaced
        intro replaced b next hb hreplaced hnext
        have hmem : b ∈ applicableAgreements db cycleId cutoff := by
          rw [hsplit]
          exact List.mem_append_left _ hb
        obtain ⟨hb', hdecided, -⟩ := applicable_spec hmem
        have hloan : agreement.loanId ≠ b.loanId := fun hsame =>
          hother b (.inl hb) (hsole b hb' hdecided hsame.symm)
        simp only [checkAgreement, bind_eq_ok, pure_eq_ok] at hnext
        obtain ⟨-, -, rfl⟩ := hnext
        simpa using ⟨hreplaced, hloan⟩
      rw [List.foldlM_cons]
      refine avoids_bind ?_ fun next _ => ?_
      · obtain ⟨hmem, -, hmember⟩ := applicable_spec ha
        refine avoids_bind (avoids_gapIf fun hinvalid => ?_) fun _ _ => avoids_pure _
        exact absurd (hvalid a hmem hid hmember replaced hnot) hinvalid
      · exact avoids_foldlM_invariant (fun _ => True) (fun _ _ _ _ _ _ => trivial)
          (fun _ b hb _ => checkAgreement_avoids_other (hother b (.inr hb))) trivial

/-- No closing refuses an agreement that its approval left, as long as its terms and the penalties of
the replaced rows are kept. -/
theorem provable_of_kept (hreq : Requested db agreement loan)
    (hzone : financialCivilDate clock ≤ today + 1)
    (happrove : decideAgreement db clock today agreement.id true = .ok start)
    (hstanding : Standing start db' agreement) (hkept : PenaltiesKept start db' agreement.loanId) :
    Provable env start db' agreement := by
  have hid : loan.id = agreement.loanId := lookup_key hreq.debt
  obtain ⟨parts, -, -, -, hstart⟩ := decideAgreement_spec hreq happrove
  have htables := approved_tables hreq happrove
  have hrows : List.Forall₂ (PenaltyKept agreement.loanId) start.loanInstallments
      db'.loanInstallments := by
    refine forall₂_of_mem hkept fun i hi j _ hij => ⟨hij.1, fun hloan hunpaid => hij.2 hloan ?_⟩
    rw [hstart] at hi
    obtain ⟨row, -, rfl⟩ := List.mem_map.mp hi
    unfold agreedInstallment at hloan hunpaid ⊢
    split
    · rfl
    · rename_i hother
      rw [if_neg hother] at hloan hunpaid
      exact absurd ⟨hloan.trans hid.symm, hunpaid⟩ hother
  refine ⟨(kept_iff htables hstanding.terms agreement.loanId).mpr hkept, ?_, ?_⟩
  · rw [← oldOpen_kept hrows, ← replacementTotal_kept hstanding.terms]
    exact approved_balanced hreq happrove
  · intro createdAt cycleId t hgap
    have havoids : Avoids (IsGap "AGREEMENT_RESTRUCTURE_INTEGRITY_GAP" (toString agreement.id))
        (buildClosingEvidence env createdAt db' cycleId t) := by
      refine buildClosingEvidence_avoids (avoids_utc t) (avoids_orRefuse _ _)
        (fun s _ => avoids_gapIf_of_ne (by decide)) (gainsOf_avoids (by decide) (by decide))
        (fun _ => contributionCash_avoids (by decide))
        (contributionObligations_avoids (by decide) (by decide)) ?_
        (fun _ => ownBalanceSettledLoans_avoids (by decide) (by decide))
        (fun _ _ _ _ _ _ => loanObligations_avoids (by decide) (by decide) _)
        (fun _ => agreementObligations_avoids (by decide))
      refine supersededLoans_avoids_own hstanding.tables hstanding.sole fun a ha hsame hmember
        replaced hnot => ?_
      obtain ⟨a₀, ha₀, hkeptTerms⟩ := mem_of_forall₂ hstanding.terms.agreements ha
      have ha₀_eq : a₀ = approvedAgreement agreement clock := by
        rw [hstart] at ha₀
        rcases mem_replace_other ha₀ with h | ⟨-, hne⟩
        · exact h
        · obtain ⟨⟨_, _, rfl⟩, -⟩ := hkeptTerms
          exact absurd hsame hne
      subst ha₀_eq
      have hmember' : isCycleMember db cycleId agreement.memberId = true := by
        obtain ⟨⟨_, _, rfl⟩, -⟩ := hkeptTerms
        rw [isCycleMember_kept hstanding.terms, hstart] at hmember
        exact hmember
      rw [← structurallyValid_kept (a := approvedAgreement agreement clock) hstanding.terms hrows hkeptTerms]
      exact approved_valid hreq hzone happrove hmember' hnot
    exact havoids _ hgap rfl

end Closing

section Steps

private theorem sole_of_terms (h : Standing start db agreement) (hterms : TermsKept db db') :
    Standing start db' agreement :=
  ⟨h.tables.kept hterms, h.terms.trans hterms, sole_kept hterms h.sole⟩

/-- Rows that did not move keep their penalties exactly when they kept them before. -/
private theorem penaltiesKept_same {loanId : Nat} (hrows : db'.loanInstallments = db.loanInstallments) :
    PenaltiesKept start db' loanId ↔ PenaltiesKept start db loanId := by
  rw [PenaltiesKept, PenaltiesKept, hrows]

/-- What a step keeps of an approved agreement, and when it keeps the penalties too. -/
theorem step_spec (h : Standing start db agreement) (hpayment : AgreementPayment db step) :
    Standing start (step.next env db) agreement ∧ (PenaltiesKept start db agreement.loanId →
      (PenaltiesKept start (step.next env db) agreement.loanId ↔
        LeavesReplaced db agreement.loanId step)) := by
  have hfailed : ∀ e, step.apply env db = .error e → step.next env db = db := by
    intro e he
    rw [AgreementStep.next, he]
  have hdone : ∀ db', step.apply env db = .ok db' → step.next env db = db' := by
    intro db' hdb'
    rw [AgreementStep.next, hdb']
  cases hstep : step.apply env db with
  | error e =>
    rw [hfailed e hstep]
    refine ⟨h, fun hkept => ⟨fun _ => ?_, fun _ => hkept⟩⟩
    cases step with
    | accrue onDate rate =>
      rintro ⟨db', hdb'⟩
      cases hstep.symm.trans hdb'
    | pay => trivial
    | reverse => trivial
  | ok db' =>
    rw [hdone db' hstep]
    cases step with
    | accrue onDate rate =>
      obtain ⟨hterms, hrows⟩ := accrue_spec hstep
      refine ⟨sole_of_terms h hterms, fun hkept => ?_⟩
      have hiff : PenaltiesKept start db' agreement.loanId ↔ ∀ i ∈ db.loanInstallments,
          i.loanId = agreement.loanId → i.status = .AGREED → ¬ Accrues i onDate rate := by
        refine forall₂_trans_iff hkept hrows ?_
        rintro i₀ i j ⟨hsame, hpenalty⟩ ⟨hsame', increment, hmoved, haccrues⟩
        obtain ⟨_, _, rfl⟩ := hsame
        constructor
        · rintro ⟨-, hstill⟩ hloan hagreed hacc
          have := hpenalty hloan hagreed
          have := hstill hloan hagreed
          exact haccrues.mpr hacc (by omega)
        · intro hnot
          refine ⟨SameRow.trans ⟨_, _, rfl⟩ hsame', fun hloan hagreed => ?_⟩
          have := hpenalty hloan hagreed
          have hzero : increment = 0 := not_not.mp fun hne => hnot hloan hagreed (haccrues.mp hne)
          omega
      rw [hiff]
      exact ⟨fun hall _ => hall, fun hall => hall ⟨db', hstep⟩⟩
    | pay clock paymentId c =>
      rw [AgreementStep.apply, map_eq_ok] at hstep
      obtain ⟨⟨after, s⟩, hsettle, rfl⟩ := hstep
      obtain ⟨hterms, hrows⟩ := settle_termsKept h.tables hpayment hsettle
      exact ⟨sole_of_terms h hterms, fun hkept =>
        ⟨fun _ => trivial, fun _ => (penaltiesKept_same hrows).mpr hkept⟩⟩
    | reverse clock paymentId adminId reason now =>
      rw [AgreementStep.apply, map_eq_ok] at hstep
      obtain ⟨⟨after, r⟩, hreverse, rfl⟩ := hstep
      obtain ⟨hterms, hrows⟩ := reverse_termsKept h.tables hpayment hreverse
      exact ⟨sole_of_terms h hterms, fun hkept =>
        ⟨fun _ => trivial, fun _ => (penaltiesKept_same hrows).mpr hkept⟩⟩

end Steps

/-- Over worker runs, payments of agreement installments and their reversals, an approved agreement
stays provable in every state exactly when no worker run adds a penalty to a row it replaced. -/
theorem provable_iff (hreq : Requested db agreement loan)
    (hsole : ∀ a ∈ db.agreements, Decided a → a.loanId ≠ agreement.loanId)
    (hzone : financialCivilDate clock ≤ today + 1)
    (happrove : decideAgreement db clock today agreement.id true = .ok start)
    (steps : List AgreementStep) (hpayments : ∀ done a, done ++ [a] <+: steps →
      AgreementPayment (agreementRun env start done) a) :
    (∀ done, done <+: steps → Provable env start (agreementRun env start done) agreement) ↔
      ∀ done a, done ++ [a] <+: steps →
        LeavesReplaced (agreementRun env start done) agreement.loanId a := by
  have htables := approved_tables hreq happrove
  have hstart : Standing start start agreement := by
    refine ⟨htables, TermsKept.refl start, fun a ha hdecided hloan => ?_⟩
    obtain ⟨_, -, -, -, hdb⟩ := decideAgreement_spec hreq happrove
    rw [hdb] at ha
    rcases mem_replace_other ha with rfl | ⟨ha, -⟩
    · rfl
    · exact absurd hloan (hsole a ha hdecided)
  have hkept : PenaltiesKept start start agreement.loanId :=
    List.forall₂_same.mpr fun i _ => ⟨SameRow.refl i, fun _ _ => rfl⟩
  have hprovable : ∀ db, Standing start db agreement →
      (Provable env start db agreement ↔ PenaltiesKept start db agreement.loanId) := fun db hdb =>
    ⟨fun h => (kept_iff htables hdb.terms _).mp h.kept, provable_of_kept hreq hzone happrove hdb⟩
  refine foldl_prefix_iff_of (I := fun db => Standing start db agreement)
    (P := fun db => Provable env start db agreement) (Q := AgreementPayment)
    (C := fun db a => LeavesReplaced db agreement.loanId a)
    (fun db a hdb hpayment => (step_spec hdb hpayment).1) (fun db a hdb hpayment hP => ?_) hstart
    ((hprovable start hstart).mpr hkept) steps hpayments
  obtain ⟨hnext, hiff⟩ : Standing start (a.next env db) agreement ∧ _ := step_spec hdb hpayment
  rw [hprovable _ hnext, hiff ((hprovable db hdb).mp hP)]

section Samples

private def sampleInstallment : LoanInstallment where
  id := 1
  loanId := 1
  number := 1
  dueDate := 20000
  principal := 100000
  interest := 0
  amount := 100000
  paidAmount := 0
  penaltyAmount := 0
  paidPenaltyAmount := 0
  lateCharge := none
  paidAt := none
  status := .PENDING

private def sampleLoan : Loan where
  id := 1
  memberId := 1
  principal := 100000
  principalSettledWithOwnBalance := 0
  calculationVersion := none
  status := .OVERDUE
  disbursedAt := some 0
  paidAt := none
  stateRevision := 0

private def sampleAgreement : CollectionAgreement where
  id := 1
  loanId := 1
  memberId := 1
  status := .REQUESTED
  stateRevision := 0
  installments := 2
  totalAmount := 100000

private def sampleDb : Db where
  members := [{ id := 1 }]
  loans := [sampleLoan]
  loanInstallments := [sampleInstallment]
  agreements := [sampleAgreement]
  cycles := [{ id := 1, startDate := 19900 }]
  participations := [{ id := 1, cycleId := 1, memberId := 1, state := .active }]

private def sampleEnv : Env where
  sha256 := fun text => text
  lateChargeEffectiveDate := none

private def sampleClock : Int := 20010 * dayLength + belemOffset

private theorem sampleDb_requested : Requested sampleDb sampleAgreement sampleLoan := by
  refine ⟨⟨?_, ?_, ?_, ?_⟩, rfl, rfl, rfl, rfl⟩
  all_goals simp [sampleDb, Keyed]

private theorem sample_prefixes {done : List AgreementStep} {a b : AgreementStep}
    (h : done ++ [a] <+: [b]) : done = [] ∧ a = b := by
  cases done with
  | nil => simpa using h
  | cons c done => simp at h

/-- One worker run at one per cent a day after the approval: the replaced row gains a penalty and the
closing of the year refuses the agreement. -/
theorem accrual_breaks_agreement : Requested sampleDb sampleAgreement sampleLoan ∧
    ∃ approved accrued, decideAgreement sampleDb sampleClock 20010 1 true = .ok approved ∧
      accrueOverduePenalties approved 20011 ⟨1, -2⟩ = .ok accrued ∧
      (approved.installment? 1).map (·.penaltyAmount) = some 0 ∧
      (accrued.installment? 1).map (·.penaltyAmount) = some 11000 ∧
      buildClosingEvidence sampleEnv (fun _ => 0) accrued 1 { instant := sampleClock + 2 * dayLength } =
        .error (.closingContractGap "AGREEMENT_RESTRUCTURE_INTEGRITY_GAP" "1") := by
  refine ⟨sampleDb_requested, _, _, rfl, rfl, ?_, ?_, ?_⟩
  · rfl
  · rfl
  · rfl

/-- The replaced row is not due yet; a row of another loan is overdue. -/
private def mixedDb : Db :=
  { sampleDb with
    loans := [sampleLoan, { sampleLoan with id := 2 }]
    loanInstallments :=
      [{ sampleInstallment with dueDate := 20040 }, { sampleInstallment with id := 2, loanId := 2 }] }

private def mixedApproved : Db := (decideAgreement mixedDb sampleClock 20010 1 true).toOption.getD mixedDb

private theorem mixedDb_requested : Requested mixedDb sampleAgreement sampleLoan := by
  refine ⟨⟨?_, ?_, ?_, ?_⟩, rfl, rfl, rfl, rfl⟩
  all_goals simp [mixedDb, sampleDb, sampleInstallment, Keyed]

/-- A worker run at one per cent a day gives the other loan its penalty and leaves the agreement
provable. -/
theorem sample_provable_iff : decideAgreement mixedDb sampleClock 20010 1 true = .ok mixedApproved ∧
    (∀ done, done <+: [.accrue 20011 ⟨1, -2⟩] →
      Provable sampleEnv mixedApproved (agreementRun sampleEnv mixedApproved done) sampleAgreement) ∧
    ((agreementRun sampleEnv mixedApproved [.accrue 20011 ⟨1, -2⟩]).installment? 2).map (·.penaltyAmount) =
      some 11000 := by
  have happrove : decideAgreement mixedDb sampleClock 20010 sampleAgreement.id true = .ok mixedApproved := rfl
  have hsole : ∀ a ∈ mixedDb.agreements, Decided a → a.loanId ≠ sampleAgreement.loanId := by decide
  have hzone : financialCivilDate sampleClock ≤ 20010 + 1 := by decide
  refine ⟨happrove, (provable_iff mixedDb_requested hsole hzone happrove _ ?_).mpr ?_, rfl⟩
  · intro done a hsteps
    obtain ⟨-, rfl⟩ := sample_prefixes hsteps
    trivial
  · intro done a hsteps
    obtain ⟨rfl, rfl⟩ := sample_prefixes hsteps
    rintro -
    have hrows : ∀ i ∈ mixedApproved.loanInstallments, i.loanId = 1 → i.status = .AGREED →
        ¬ Accrues i 20011 ⟨1, -2⟩ := by decide
    exact hrows

end Samples

end Caixinha.Properties.AgreementProvability
