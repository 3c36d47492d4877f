import Caixinha.Effects.Restructuring

/-! What the approval of an agreement writes, and that the closing finds it valid. -/
namespace Caixinha.Effects

open Caixinha.Library Caixinha.Library.Table Fallible Caixinha.Model
open Caixinha.Model.CycleClosing

section Approval
variable {db db' : Db} {clock today : Int} {agreement claimed : CollectionAgreement} {loan : Loan}

/-- A requested agreement on a loan of its member, before its decision. -/
structure Requested (db : Db) (agreement : CollectionAgreement) (loan : Loan) : Prop where
  tables : AgreementTables db
  found : db.agreement? agreement.id = some agreement
  pending : agreement.status = .REQUESTED
  debt : db.loan? agreement.loanId = some loan
  member : loan.memberId = agreement.memberId

/-- A request leaves a requested agreement of the member of the loan. -/
theorem requested_of_request {loanId installments : Nat} (ht : AgreementTables db)
    (hagreements : ∀ i ∈ db.agreementInstallments, (db.agreement? i.agreementId).isSome)
    (h : requestAgreement db loanId installments = .ok (db', agreement)) :
    ∃ loan, Requested db' agreement loan := by
  unfold requestAgreement at h
  simp only [bind_eq_ok, pure_eq_ok, refuseIf_eq_ok, orRefuse_eq_ok, Prod.mk.injEq, exists_and_left,
    exists_const] at h
  obtain ⟨loan, hfound, member, hmember, -, -, -, rfl, rfl⟩ := h
  rw [Option.filter_eq_some_iff] at hfound
  have hid : loan.id = loanId := lookup_key hfound.1
  have hmemberId : member.id = loan.memberId := lookup_key hmember
  refine ⟨loan, ⟨ht.rows, keyed_append ht.agreements rfl, ht.replacements, ?_⟩,
    lookup_append_new lookup_nextKey, rfl, ?_, hmemberId.symm⟩
  · intro i hi a ha hsame
    rcases List.mem_append.mp ha with ha | ha
    · exact ht.decided i hi a ha hsame
    · rw [List.mem_singleton] at ha
      subst ha
      have hsome := hagreements i hi
      rw [← hsame, Db.agreement?] at hsome
      rw [lookup_nextKey] at hsome
      cases hsome
  · rw [← hid] at hfound
    exact hfound.1

/-- The agreement as its approval claims it. -/
def approvedAgreement (agreement : CollectionAgreement) (clock : Int) : CollectionAgreement :=
  { agreement with
    status := .APPROVED, decidedAt := some clock, stateRevision := agreement.stateRevision + 1 }

theorem sum_split {total : Int} {n : Nat} {parts : List Int} (h : split total n = .ok parts) :
    parts.sum = total ∧ parts.length = n ∧ parts ≠ [] := by
  unfold split splitBase at h
  simp only [bind_eq_ok, pure_eq_ok] at h
  obtain ⟨base, hbase, rfl⟩ := h
  split at hbase
  · cases hbase
  · rename_i hn
    refine ⟨by simp, ?_, by simp⟩
    simp only [List.length_append, List.length_replicate, List.length_singleton]
    omega

/-- Everything an approval writes. -/
theorem decideAgreement_spec (hreq : Requested db agreement loan)
    (h : decideAgreement db clock today agreement.id true = .ok db') :
    ∃ parts : List Int,
      0 < (outstandingForLoan db loan.id).1 + (outstandingForLoan db loan.id).2 ∧
      |(outstandingForLoan db loan.id).1 + (outstandingForLoan db loan.id).2 -
        agreement.totalAmount| ≤ 1 ∧
      split (outstandingForLoan db loan.id).1 agreement.installments = .ok parts ∧
      db' = { db with
        agreements := replace CollectionAgreement.id db.agreements (approvedAgreement agreement clock)
        loanInstallments := db.loanInstallments.map (agreedInstallment loan.id)
        agreementInstallments := db.agreementInstallments ++
          replacementRows db (approvedAgreement agreement clock) today
            (outstandingForLoan db loan.id).2 parts
        loans := replace Loan.id db.loans (touchLoan { loan with status := .RESTRUCTURED }) } := by
  unfold decideAgreement claimAgreement at h
  simp only [bind_eq_ok, pure_eq_ok, orRefuse_eq_ok, requireConstraint_eq_ok, if_true, Prod.exists,
    Prod.mk.injEq, exists_and_left, exists_const] at h
  obtain ⟨requested, hfound, claimedDb, claimed, ⟨-, rfl, rfl⟩, loan', hloan, -, -, h⟩ := h
  have hrequested : requested = agreement := by
    rw [Option.filter_eq_some_iff, hreq.found] at hfound
    exact (Option.some.inj hfound.1).symm
  subst hrequested
  have hsame : loan' = loan := Option.some.inj (hloan.symm.trans hreq.debt)
  subst hsame
  unfold approveAgreement at h
  simp only [bind_eq_ok, pure_eq_ok, refuseIf_eq_ok, requireConstraint_eq_ok, exists_and_left,
    exists_const, not_or, not_le, not_lt] at h
  obtain ⟨⟨hpos, hnear⟩, parts, hsplit, -, rfl⟩ := h
  exact ⟨parts, hpos, hnear, hsplit, rfl⟩

section Replacements
variable {parts : List Int} {penalty : Int}

private theorem replacementRows_numbers :
    (replacementRows db agreement today penalty parts).map (·.number) =
      (List.range parts.length).map (· + 1) := by
  refine List.ext_getElem (by simp [replacementRows]) fun k hk _ => ?_
  simp [replacementRows]

private theorem replacementRows_sorted :
    (replacementRows db agreement today penalty parts).Pairwise (fun a b => a.number ≤ b.number) := by
  rw [← List.pairwise_map (f := AgreementInstallment.number) (R := (· ≤ ·)), replacementRows_numbers,
    List.pairwise_map]
  exact List.pairwise_lt_range.imp fun h => by omega

private theorem replacementRows_amounts (hparts : parts ≠ []) :
    replacementTotal (replacementRows db agreement today penalty parts) = parts.sum + penalty := by
  cases parts with
  | nil => exact absurd rfl hparts
  | cons p parts =>
    have hamounts : (replacementRows db agreement today penalty (p :: parts)).map (·.amount) =
        (p + penalty) :: parts := by
      refine List.ext_getElem (by simp [replacementRows]) fun k _ _ => ?_
      cases k <;> simp [replacementRows]
    rw [replacementTotal, hamounts, List.sum_cons, List.sum_cons]
    omega

theorem filter_replacementRows (hreq : Requested db agreement loan)
    (hrows : db'.agreementInstallments = db.agreementInstallments ++
      replacementRows db (approvedAgreement agreement clock) today penalty parts) :
    db'.agreementInstallments.filter (fun i => i.agreementId = agreement.id) =
      replacementRows db (approvedAgreement agreement clock) today penalty parts := by
  have hold : db.agreementInstallments.filter (fun i => i.agreementId = agreement.id) = [] := by
    rw [List.filter_eq_nil_iff]
    intro i hi hid
    rcases hreq.tables.decided i hi agreement (lookup_mem hreq.found)
      (by simpa using (of_decide_eq_true hid).symm) with h | h <;> rw [hreq.pending] at h <;> cases h
  have hnew : (replacementRows db (approvedAgreement agreement clock) today penalty parts).filter
      (fun i => i.agreementId = agreement.id) =
      replacementRows db (approvedAgreement agreement clock) today penalty parts := by
    rw [List.filter_eq_self]
    intro i hi
    obtain ⟨k, hk, rfl⟩ := List.mem_mapIdx.mp hi
    exact decide_eq_true rfl
  rw [hrows, List.filter_append, hold, List.nil_append, hnew]

private theorem replacementsOf_approved (hreq : Requested db agreement loan)
    (hrows : db'.agreementInstallments = db.agreementInstallments ++
      replacementRows db (approvedAgreement agreement clock) today penalty parts) :
    replacementsOf db' agreement.id =
      replacementRows db (approvedAgreement agreement clock) today penalty parts := by
  rw [replacementsOf, filter_replacementRows hreq hrows,
    List.Pairwise.insertionSort_eq replacementRows_sorted]

end Replacements

section OldRows

/-- The open rows of the loan, as the approval leaves them. -/
private theorem oldRows_approved (hrows : db'.loanInstallments =
    db.loanInstallments.map (agreedInstallment loan.id)) :
    (installmentsOf db' loan.id).Perm
      ((db.loanInstallments.filter (fun i => i.loanId = loan.id)).map (agreedInstallment loan.id)) := by
  have hloan : (fun i : LoanInstallment => decide (i.loanId = loan.id)) ∘ agreedInstallment loan.id =
      fun i => decide (i.loanId = loan.id) := by
    funext i
    rw [Function.comp_apply, agreedInstallment]
    split <;> rfl
  rw [installmentsOf, hrows, List.filter_map, hloan]
  exact List.perm_insertionSort _ _

private theorem oldOpen_approved (hrows : db'.loanInstallments =
    db.loanInstallments.map (agreedInstallment loan.id)) :
    oldOpen (installmentsOf db' loan.id) =
      (outstandingForLoan db loan.id).1 + (outstandingForLoan db loan.id).2 := by
  have hunpaid : (fun i : LoanInstallment => decide (i.status ≠ .PAID)) ∘ agreedInstallment loan.id =
      fun i => decide (i.status ≠ .PAID) := by
    funext i
    rw [Function.comp_apply, agreedInstallment]
    split
    · rename_i h
      simp [h.2]
    · rfl
  have hcolumns : columnsOpen ∘ agreedInstallment loan.id =
      fun i => (i.amount - i.paidAmount) + (i.penaltyAmount - i.paidPenaltyAmount) := by
    funext i
    rw [Function.comp_apply, agreedInstallment]
    split <;> simp only [columnsOpen] <;> omega
  have hperm := ((oldRows_approved hrows).filter (fun i => i.status ≠ .PAID)).map columnsOpen
  rw [oldOpen, hperm.sum_eq, List.filter_map, hunpaid, List.filter_filter, List.map_map, hcolumns,
    List.sum_map_add]
  simp only [outstandingForLoan, openInstallments, Bool.decide_and, Bool.and_comm]

end OldRows

/-- The tables stay sound: the new installments are of the agreement that now applies. -/
theorem approved_tables (hreq : Requested db agreement loan)
    (h : decideAgreement db clock today agreement.id true = .ok db') : AgreementTables db' := by
  obtain ⟨parts, -, -, -, hdb⟩ := decideAgreement_spec hreq h
  have hrowKeys : (db.loanInstallments.map (agreedInstallment loan.id)).map LoanInstallment.id =
      db.loanInstallments.map LoanInstallment.id := by
    rw [List.map_map]
    refine List.map_congr_left fun i _ => ?_
    rw [Function.comp_apply, agreedInstallment]
    split <;> rfl
  rw [hdb]
  constructor
  · exact keyed_of_keys hrowKeys hreq.tables.rows
  · exact keyed_replace hreq.tables.agreements
  · refine keyed_append_block hreq.tables.replacements (List.ext_getElem ?_ fun k _ _ => ?_)
    · simp [replacementRows]
    · simp [replacementRows]
  · intro i hi a ha hid
    rcases mem_replace_other ha with rfl | ⟨ha, hne⟩
    · exact .inl rfl
    · rcases List.mem_append.mp hi with hi | hi
      · exact hreq.tables.decided i hi a ha hid
      · obtain ⟨k, _, rfl⟩ := List.mem_mapIdx.mp hi
        exact absurd hid hne

/-- The open rows an approval replaces owe what the replacements add up to. -/
theorem approved_balanced (hreq : Requested db agreement loan)
    (h : decideAgreement db clock today agreement.id true = .ok db') :
    oldOpen (installmentsOf db' agreement.loanId) = replacementTotal (replacementsOf db' agreement.id) := by
  obtain ⟨parts, -, -, hsplit, hdb⟩ := decideAgreement_spec hreq h
  obtain ⟨hsum, -, hparts⟩ := sum_split hsplit
  have hid : loan.id = agreement.loanId := lookup_key hreq.debt
  have hnew : replacementsOf db' agreement.id = replacementRows db (approvedAgreement agreement clock)
      today (outstandingForLoan db loan.id).2 parts := replacementsOf_approved hreq (by rw [hdb])
  have hopen := oldOpen_approved (show db'.loanInstallments = _ by rw [hdb])
  rw [hnew, replacementRows_amounts hparts, hsum, ← hopen, hid]

/-- An approved agreement is valid at closing, unless its loan was replaced before. -/
theorem approved_valid {cycleId : Nat} {replaced : List Nat} (hreq : Requested db agreement loan)
    (hzone : financialCivilDate clock ≤ today + 1)
    (h : decideAgreement db clock today agreement.id true = .ok db')
    (hmember : isCycleMember db cycleId agreement.memberId = true) (hnot : agreement.loanId ∉ replaced) :
    structurallyValid db' cycleId replaced (approvedAgreement agreement clock) = true := by
  obtain ⟨parts, hpos, hnear, hsplit, hdb⟩ := decideAgreement_spec hreq h
  obtain ⟨hsum, hlength, hparts⟩ := sum_split hsplit
  have hid : loan.id = agreement.loanId := lookup_key hreq.debt
  have hloans : db'.loans = replace Loan.id db.loans (touchLoan { loan with status := .RESTRUCTURED }) := by
    rw [hdb]
  have hold : db'.loanInstallments = db.loanInstallments.map (agreedInstallment loan.id) := by rw [hdb]
  have hnew : replacementsOf db' agreement.id = replacementRows db (approvedAgreement agreement clock)
      today (outstandingForLoan db loan.id).2 parts := replacementsOf_approved hreq (by rw [hdb])
  have hloan : memberLoan? db' cycleId agreement.loanId =
      some (touchLoan { loan with status := .RESTRUCTURED }) := by
    have hfound : lookup Loan.id db'.loans agreement.loanId =
        some (touchLoan { loan with status := .RESTRUCTURED }) := by
      rw [hloans]
      have hdebt : lookup Loan.id db.loans loan.id = some loan := hid ▸ hreq.debt
      exact hid ▸ lookup_replace_self hdebt
    have hin : isCycleMember db' cycleId loan.memberId = true := by
      rw [hreq.member, ← hmember, hdb]
      rfl
    exact lookup_filter hfound hin
  have hrow : ∃ i ∈ db.loanInstallments, i.loanId = loan.id ∧ i.status ≠ .PAID := by
    by_contra hnone
    have hempty : openInstallments db loan.id = [] := by
      rw [openInstallments, List.filter_eq_nil_iff]
      intro i hi hopen
      exact hnone ⟨i, hi, by simpa using hopen⟩
    simp [outstandingForLoan, hempty] at hpos
  have hagreed : (installmentsOf db' loan.id).any (fun i => i.status = .AGREED) = true := by
    obtain ⟨i, hi, hloan, hunpaid⟩ := hrow
    refine List.any_eq_true.mpr ⟨agreedInstallment loan.id i, ?_, ?_⟩
    · exact (oldRows_approved hold).mem_iff.mpr (List.mem_map_of_mem (List.mem_filter.mpr
        ⟨hi, by simpa using hloan⟩))
    · simp [agreedInstallment, hloan, hunpaid]
  have hclosed : (installmentsOf db' loan.id).all (fun i => i.status = .PAID ∨ i.status = .AGREED) =
      true := by
    refine List.all_eq_true.mpr fun j hj => ?_
    obtain ⟨i, hi, rfl⟩ := List.mem_map.mp ((oldRows_approved hold).mem_iff.mp hj)
    have hloan : i.loanId = loan.id := by simpa using (List.mem_filter.mp hi).2
    by_cases hpaid : i.status = .PAID <;> simp [agreedInstallment, hloan, hpaid]
  have hamounts : (replacementRows db (approvedAgreement agreement clock) today
      (outstandingForLoan db loan.id).2 parts).all (fun i => i.amount = i.principal + i.penaltyAmount) =
      true := by
    refine List.all_eq_true.mpr fun i hi => ?_
    obtain ⟨k, _, rfl⟩ := List.mem_mapIdx.mp hi
    exact decide_eq_true rfl
  have hdates : (replacementRows db (approvedAgreement agreement clock) today
      (outstandingForLoan db loan.id).2 parts).all
        (fun i => (some clock).any (fun at' => financialCivilDate at' < i.dueDate)) = true := by
    refine List.all_eq_true.mpr fun i hi => ?_
    obtain ⟨k, _, rfl⟩ := List.mem_mapIdx.mp hi
    have hlater : today + 1 < Calendar.addMonths today (k + 1) := Calendar.lt_addMonths today (by omega)
    simp only [Option.any_some, decide_eq_true_eq]
    omega
  have htotal : replacementTotal (replacementRows db (approvedAgreement agreement clock) today
      (outstandingForLoan db loan.id).2 parts) = parts.sum + (outstandingForLoan db loan.id).2 :=
    replacementRows_amounts hparts
  rw [hid] at hagreed hclosed
  unfold structurallyValid
  simp only [Bool.and_eq_true, decide_eq_true_eq]
  refine ⟨⟨⟨⟨⟨⟨⟨⟨?_, hagreed⟩, hclosed⟩, ?_⟩, ?_⟩, ?_⟩, ?_⟩, ?_⟩, hnot⟩
  · change (memberLoan? db' cycleId agreement.loanId).any _ = true
    rw [hloan]
    simp [touchLoan, hreq.member, approvedAgreement]
  · change (replacementsOf db' agreement.id).map _ = _
    rw [hnew, replacementRows_numbers, hlength]
    rfl
  · change (replacementsOf db' agreement.id).all _ = true
    rw [hnew]
    exact hamounts
  · change (replacementsOf db' agreement.id).all _ = true
    rw [hnew]
    exact hdates
  · change |replacementTotal (replacementsOf db' agreement.id) - agreement.totalAmount| ≤ 1
    rw [hnew, htotal, hsum]
    exact hnear
  · change oldOpen (installmentsOf db' agreement.loanId) = replacementTotal (replacementsOf db' agreement.id)
    exact approved_balanced hreq h

end Approval

end Caixinha.Effects
