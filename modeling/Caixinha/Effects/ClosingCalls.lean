import Caixinha.Model.ClosingWorkflow

/-! What a call on an annual closing does when it succeeds: nothing, or one advance of the row it
claimed. -/
namespace Caixinha.Effects.ClosingCalls

open Caixinha.Library Caixinha.Library.Table Fallible Json Caixinha.Model CycleClosing ClosingWorkflow

/-- The row claimed now is in the status and revision that the caller read. -/
structure Locked (db : ClosingDb) (seen row : CycleAnnualClosing) : Prop where
  found : row ∈ db.closings
  id : row.id = seen.id
  status : row.status = seen.status
  revision : row.stateRevision = seen.stateRevision

def preparedRow (seen row : CycleAnnualClosing) : CycleAnnualClosing :=
  { row with status := .READY_FOR_REVIEW, stateRevision := seen.stateRevision + 1 }

/-- A snapshot that says what a review says. -/
structure Official (s : CycleAnnualClosingSnapshot) (r : CycleAnnualClosingReview) : Prop where
  closing : s.closingId = r.closingId
  cycle : s.cycleId = r.cycleId
  cutoff : s.closingCutoffAt = r.closingCutoffAt
  version : s.calculationVersion = r.calculationVersion
  hash : (loads s.canonicalPayload).bind (fun v => get? v "calculation_hash") =
    some (.str r.calculationHash)

/-- The advances of a closing, each with the status it leads to: a new review, the approval of the
latest one, its snapshot. -/
inductive Advance (db : ClosingDb) (seen row : CycleAnnualClosing) :
    ClosingStatus → ClosingDb → Prop where
  | prepared (review : CycleAnnualClosingReview)
    (status : seen.status = .ASSESSING ∨ seen.status = .READY_FOR_REVIEW)
    (unapproved : seen.approvedReviewId = none)
    (identity : review.id = nextKey CycleAnnualClosingReview.id db.reviews)
    (closing : review.closingId = seen.id) (cycle : review.cycleId = seen.cycleId)
    (version : review.reviewVersion =
      ((db.latestReview? seen.id).map (fun r => r.reviewVersion + 1)).getD 1)
    (revision : review.processRevision = seen.stateRevision + 1) :
    Advance db seen row .READY_FOR_REVIEW
      { db.putClosing (preparedRow seen row) with reviews := db.reviews ++ [review] }
  | approved (review : CycleAnnualClosingReview) (clock : Int) (actorId : Nat)
    (status : seen.status = .READY_FOR_REVIEW) (unapproved : row.approvedReviewId = none)
    (latest : (db.latestReview? seen.id).map CycleAnnualClosingReview.id = some review.id)
    (listed : db.review? review.id = some review)
    (revision : review.processRevision = seen.stateRevision) :
    Advance db seen row .MASTER_APPROVED (db.putClosing
      { row with status := .MASTER_APPROVED, stateRevision := seen.stateRevision + 1
                 approvedAt := some clock, approvedBy := some actorId
                 approvedReviewId := some review.id })
  | closed (review : CycleAnnualClosingReview) (snapshot : CycleAnnualClosingSnapshot) (clock : Int)
    (actorId : Nat) (status : seen.status = .MASTER_APPROVED)
    (chosen : row.approvedReviewId = some review.id) (closing : review.closingId = seen.id)
    (cycle : review.cycleId = seen.cycleId)
    (latest : (db.latestReview? seen.id).map CycleAnnualClosingReview.id = some review.id)
    (listed : db.review? review.id = some review)
    (revision : review.processRevision + 1 = seen.stateRevision)
    (first : ∀ s ∈ db.snapshots, s.closingId ≠ snapshot.closingId)
    (official : Official snapshot review) :
    Advance db seen row .CLOSED
      { db.putClosing { row with status := .CLOSED, stateRevision := seen.stateRevision + 1
                                 closedAt := some clock, closedBy := some actorId } with
        snapshots := db.snapshots ++ [snapshot] }

/-- Where a call takes the closing. -/
def targetOf : ClosingCall → ClosingStatus
  | .prepare .. => .READY_FOR_REVIEW
  | .approve .. => .MASTER_APPROVED
  | .persist .. => .CLOSED

/-- A call whose work is there already: the latest review says what a new one would say, or the
closing is closed. An approval is never repeated. -/
def Repeats (sha256 : String → String) (sources : FinancialSources) (db : ClosingDb)
    (seen : CycleAnnualClosing) : ClosingCall → Prop
  | .prepare _ _ moment cashId _ => seen.status = .READY_FOR_REVIEW ∧ ∃ cutoff cash evidence r,
      utc moment = .ok cutoff ∧
      validateCashEvidence db sources cashId seen.id seen.cycleId cutoff = .ok cash ∧
      reconcile sha256 sources cash seen.cycleId cutoff = .ok evidence ∧
      db.latestReview? seen.id = some r ∧ sameReview r seen cash evidence cutoff
  | .approve .. => False
  | .persist .. => seen.status = .CLOSED

variable {sha256 : String → String} {rules : SnapshotRules} {sources : FinancialSources}
  {db db' : ClosingDb} {clock : Int} {seen row : CycleAnnualClosing}
  {review : CycleAnnualClosingReview} {result : ClosingResult}

theorem lockClosing_eq_ok {id revision : Nat} {status : ClosingStatus}
    (h : lockClosing db id status revision = .ok row) :
    row ∈ db.closings ∧ row.id = id ∧ row.status = status ∧ row.stateRevision = revision := by
  rw [lockClosing, orRefuse_eq_ok] at h
  exact ⟨List.mem_of_find?_eq_some h, by simpa using List.find?_some h⟩

section Document

private theorem distinct_leaf_moneyJson (n : Int) : Distinct (moneyJson n) := trivial
private theorem distinct_leaf_idJson (n : Nat) : Distinct (idJson n) := trivial

private theorem distinct_nullable_idJson (id : Option Nat) : Distinct (nullable idJson id) := by
  cases id <;> trivial

private theorem distinct_arr_map {α : Type} {f : α → Value} (xs : List α) (h : ∀ x, Distinct (f x)) :
    Distinct (.arr (xs.map f)) := by
  rw [Distinct, distinctItems_iff]
  intro v hv
  obtain ⟨x, -, rfl⟩ := List.mem_map.mp hv
  exact h x

private theorem distinct_obligationRow (row : ObligationRow) : Distinct row.json := by
  simp only [ObligationRow.json, Distinct, DistinctFields, List.map_cons, List.map_nil,
    distinct_leaf_moneyJson, distinct_nullable_idJson, and_true]
  decide

private theorem distinct_participant (p : ParticipantResult) : Distinct p.json := by
  have hobligations := distinct_arr_map p.compensableObligations distinct_obligationRow
  simp only [ParticipantResult.json, Distinct, DistinctFields, List.map_cons, List.map_nil,
    distinct_leaf_moneyJson, distinct_leaf_idJson, and_true]
  rw [Distinct] at hobligations
  exact ⟨by decide, by simpa using hobligations⟩

private theorem distinct_contribution (t : ContributionTrace) : Distinct t.json := by
  have hevents := distinct_arr_map (f := Value.str) t.eventIds (fun _ => trivial)
  simp only [ContributionTrace.json, Distinct, DistinctFields, List.map_cons, List.map_nil,
    distinct_leaf_moneyJson, distinct_leaf_idJson, and_true]
  rw [Distinct] at hevents
  exact ⟨by decide, by simpa using hevents⟩

private theorem distinct_gain (g : GainTrace) : Distinct (.obj g.fields) := by
  simp only [GainTrace.fields, Distinct, DistinctFields, List.map_cons, List.map_nil,
    distinct_leaf_moneyJson, and_true]
  decide

private theorem distinct_excludedGain (g : GainTrace × String) :
    Distinct (.obj (g.1.fields ++ [("reason", .str g.2)])) := by
  simp only [GainTrace.fields, Distinct, DistinctFields, List.cons_append, List.nil_append,
    List.map_cons, List.map_nil, distinct_leaf_moneyJson, and_true]
  decide

private theorem distinct_gap (g : String × String) : Distinct (gapJson g) := by
  simp only [gapJson, Distinct, DistinctFields, List.map_cons, List.map_nil, and_true]
  decide

/-- The result dictionary repeats no key, at any depth. -/
theorem distinct_resultJson (result : ClosingResult) : Distinct (resultJson result) := by
  have hparticipants := distinct_arr_map result.memory.participants distinct_participant
  have hcontributions := distinct_arr_map result.memory.contributions distinct_contribution
  have hincluded := distinct_arr_map result.memory.includedGains distinct_gain
  have hexcluded := distinct_arr_map result.memory.excludedGains distinct_excludedGain
  have hloans := distinct_arr_map result.memory.ownBalanceSettledLoanIds distinct_leaf_idJson
  have hgaps := distinct_arr_map result.memory.sourceGaps distinct_gap
  simp only [resultJson, ClosingMemory.fields, Distinct, DistinctFields, DistinctItems,
    List.cons_append, List.nil_append, List.map_cons, List.map_nil, distinct_leaf_moneyJson,
    distinct_leaf_idJson, and_true, true_and] at *
  exact ⟨by decide, hparticipants, ⟨by decide, hcontributions, hincluded, hexcluded, hloans⟩, hgaps⟩

/-- The stored payload gives the calculation hash back. -/
theorem payload_hash (result : ClosingResult) :
    (loads (dumps (resultJson result))).bind (fun v => get? v "calculation_hash") =
      some (.str result.calculationHash) := by
  rw [loads_dumps _ (distinct_resultJson result), Option.bind_some,
    get?_sortKeys _ _ (distinct_resultJson result)]
  rfl

end Document

theorem insertReview_eq_ok (h : insertReview db review = .ok db') :
    db' = { db with reviews := db.reviews ++ [review] } := by
  simp only [insertReview, bind_eq_ok, pure_eq_ok, requireConstraint_eq_ok, exists_and_left,
    exists_const] at h
  obtain ⟨-, -, -, -, -, rfl⟩ := h
  rfl

theorem insertSnapshot_eq_ok {snapshot : CycleAnnualClosingSnapshot}
    (h : insertSnapshot db snapshot = .ok db') :
    db' = { db with snapshots := db.snapshots ++ [snapshot] } ∧
      ∀ s ∈ db.snapshots, s.closingId ≠ snapshot.closingId := by
  simp only [insertSnapshot, bind_eq_ok, pure_eq_ok, requireConstraint_eq_ok, exists_and_left,
    exists_const] at h
  obtain ⟨hfirst, -, -, -, -, -, -, rfl⟩ := h
  exact ⟨rfl, hfirst⟩

theorem revalidate_eq_ok (h : revalidateCycleClosingReview sha256 sources db review = .ok result) :
    calculationVersion = review.calculationVersion ∧
      result.calculationHash = review.calculationHash := by
  simp only [revalidateCycleClosingReview, bind_eq_ok, pure_eq_ok, refuseIf_eq_ok, Prod.exists,
    exists_and_left, exists_const] at h
  obtain ⟨-, cash, evidence, -, hmatch, rfl⟩ := h
  simp only [not_or, not_not] at hmatch
  exact ⟨hmatch.1, hmatch.2.1⟩

/-- A review as it was prepared passes revalidation for as long as the evidence is the same. -/
theorem revalidate_prepared {prepared : ClosingDb} {latest : Option CycleAnnualClosingReview}
    {evidence : Reconciled} {cash : CycleAnnualClosingCashEvidence} {cutoff : Int} {actorId : Nat}
    (hcash : validateCashEvidence db sources cash.id seen.id seen.cycleId cutoff = .ok cash)
    (hevidence : reconcile sha256 sources cash seen.cycleId cutoff = .ok evidence)
    (hstrip : strip cash.storageReference = cash.storageReference) :
    let unhashed := unhashedReview prepared seen cash evidence latest cutoff actorId
    revalidateCycleClosingReview sha256 sources db
      { unhashed with reviewHash := reviewDigest sha256 unhashed } = .ok evidence.result := by
  intro unhashed
  simp only [revalidateCycleClosingReview, bind_eq_ok, pure_eq_ok, refuseIf_eq_ok, Prod.exists,
    exists_and_left, exists_const]
  refine ⟨not_not_intro rfl, cash, evidence, ?_, ?_, rfl⟩
  · simp only [unhashed, unhashedReview, hcash]
    change asStale (do
      let evidence ← reconcile sha256 sources cash seen.cycleId cutoff
      return (cash, evidence)) = .ok (cash, evidence)
    rw [hevidence]
    rfl
  · simp only [unhashed, unhashedReview, hstrip, ne_eq, not_true_eq_false, or_self, not_false_eq_true]

theorem prepare_cases {closingId : Nat} {expected : Int} {cutoff : Timestamp} {cashId actorId : Nat}
    {read : Option CycleAnnualClosing}
    (h : prepareCycleClosingReview sha256 sources db read expected cutoff cashId actorId =
      .ok (db', review)) :
    ∃ seen, read = some seen ∧
      ((Repeats sha256 sources db seen (.prepare closingId expected cutoff cashId actorId) ∧ db' = db) ∨
        (¬ Repeats sha256 sources db seen (.prepare closingId expected cutoff cashId actorId) ∧
          ∃ row, Locked db seen row ∧ Advance db seen row .READY_FOR_REVIEW db')) := by
  simp only [prepareCycleClosingReview, bind_eq_ok, refuseIf_eq_ok, orRefuse_eq_ok, exists_and_left,
    exists_const] at h
  obtain ⟨_, -, moment, hmoment, seen, hread, -, hstatus, hunapproved, row, hlock, cash, hcash,
    evidence, hevidence, -, h⟩ := h
  obtain ⟨hfound, hid, hrowStatus, hrevision⟩ := lockClosing_eq_ok hlock
  refine ⟨seen, hread, ?_⟩
  split at h
  · rename_i r hlatest
    rw [pure_eq_ok, Prod.mk.injEq] at h
    obtain ⟨hlatest, hsame⟩ := Option.filter_eq_some_iff.mp hlatest
    obtain ⟨hready, hsame⟩ := of_decide_eq_true hsame
    exact .inl ⟨⟨hready, moment, cash, evidence, r, hmoment, hcash, hevidence, hlatest, hsame⟩,
      h.1.symm⟩
  · rename_i hnone
    simp only [bind_eq_ok, pure_eq_ok, Prod.mk.injEq] at h
    obtain ⟨inserted, hinsert, rfl, rfl⟩ := h
    rw [insertReview_eq_ok hinsert]
    refine .inr ⟨?_, row, ⟨hfound, hid, hrowStatus, hrevision⟩, .prepared _ ?_ ?_ rfl rfl rfl rfl rfl⟩
    · -- the evidence is a function of the state, so a repeated call would have found its review
      rintro ⟨hready, moment', cash', evidence', r, hmoment', hcash', hevidence', hlatest, hsame⟩
      obtain rfl : moment = moment' := Except.ok.inj (hmoment.symm.trans hmoment')
      obtain rfl : cash = cash' := Except.ok.inj (hcash.symm.trans hcash')
      obtain rfl : evidence = evidence' := Except.ok.inj (hevidence.symm.trans hevidence')
      rw [hlatest, Option.filter_eq_none_iff] at hnone
      exact hnone r rfl (decide_eq_true ⟨hready, hsame⟩)
    · tauto
    · simpa using hunapproved

theorem approve_cases {reviewId actorId : Nat} {expected : Int} {read : Option CycleAnnualClosing}
    (h : approveCycleClosingReview sha256 sources db clock read reviewId expected actorId = .ok db') :
    ∃ seen, read = some seen ∧
      ∃ row, Locked db seen row ∧ Advance db seen row .MASTER_APPROVED db' := by
  simp only [approveCycleClosingReview, bind_eq_ok, pure_eq_ok, refuseIf_eq_ok, orRefuse_eq_ok,
    exists_and_left, exists_const] at h
  obtain ⟨_, -, seen, hread, hexpected, row, hlock, review, hreview, latest, hlatest, hcurrent, _, -,
    hunapproved, rfl⟩ := h
  obtain ⟨hfound, hid, hrowStatus, hrevision⟩ := lockClosing_eq_ok hlock
  simp only [not_or, not_not] at hexpected hcurrent
  obtain ⟨hsame, -, -, hprocess⟩ := hcurrent
  have hkey : review.id = reviewId := lookup_key hreview
  refine ⟨seen, hread, row, ⟨hfound, hid, hrowStatus.trans hexpected.2.symm, hrevision⟩,
    .approved review clock actorId hexpected.2 (by simpa using hunapproved) ?_ ?_ hprocess⟩
  · rw [hlatest, hsame]
    rfl
  · rw [hkey]
    exact hreview

theorem persist_cases {cutoff : Option Timestamp} {closedBy : Option Nat} {expected : Option Int}
    {read : Option CycleAnnualClosing} {snapshot : CycleAnnualClosingSnapshot}
    (h : persistApprovedCycleClosingSnapshot rules sources db clock read cutoff closedBy expected =
      .ok (db', snapshot)) :
    ∃ seen, read = some seen ∧ ((seen.status = .CLOSED ∧ db' = db) ∨
      (seen.status ≠ .CLOSED ∧ ∃ row, Locked db seen row ∧ Advance db seen row .CLOSED db')) := by
  simp only [persistApprovedCycleClosingSnapshot, bind_eq_ok, orRefuse_eq_ok] at h
  obtain ⟨seen, hread, h⟩ := h
  refine ⟨seen, hread, ?_⟩
  split at h
  · rename_i hclosed
    simp only [bind_eq_ok, pure_eq_ok, Prod.mk.injEq] at h
    obtain ⟨_, -, hsame, -⟩ := h
    exact .inl ⟨hclosed.1, hsame.symm⟩
  · simp only [bind_eq_ok, pure_eq_ok, refuseIf_eq_ok, orRefuse_eq_ok, Prod.mk.injEq, exists_and_left,
      exists_const] at h
    obtain ⟨hstatus, -, review, hreview, howned, -, approvedBy, -, _, -, hcurrent, h⟩ := h
    simp only [not_or, not_not] at hstatus howned hcurrent
    obtain ⟨_, -, _, -, -, row, hlock, result, hrevalidate, totals, -, payload, hpayload, hchosen, h⟩ := h
    obtain ⟨inserted, hinsert, rfl, -⟩ := h
    obtain ⟨rfl, hfirst⟩ := insertSnapshot_eq_ok hinsert
    obtain ⟨hfound, hid, hrowStatus, hrevision⟩ := lockClosing_eq_ok hlock
    obtain ⟨hversion, hhash⟩ := revalidate_eq_ok hrevalidate
    simp only [canonicalSnapshotPayload, bind_eq_ok, pure_eq_ok] at hpayload
    obtain ⟨_, -, rfl⟩ := hpayload
    obtain ⟨id, happroved, hlookup⟩ := Option.bind_eq_some_iff.mp hreview
    have hkey : review.id = id := lookup_key hlookup
    refine .inr ⟨by rw [hstatus]; decide, row, ⟨hfound, hid, hrowStatus.trans hstatus.symm, hrevision⟩,
      .closed review _ clock _ hstatus (by simpa using hchosen) howned.1 howned.2 hcurrent.1 ?_
        hcurrent.2 hfirst ⟨howned.1.symm, howned.2.symm, rfl, hversion, ?_⟩⟩
    · rw [hkey]
      exact hlookup
    · rw [payload_hash, hhash]

/-- A call that succeeds repeats what is there and writes nothing, or advances the closing it read. -/
theorem finishCall_cases {call : ClosingCall} {read : Option CycleAnnualClosing}
    (h : finishCall rules sources db clock read call = .ok db') :
    ∃ seen, read = some seen ∧ ((Repeats rules.sha256 sources db seen call ∧ db' = db) ∨
      (¬ Repeats rules.sha256 sources db seen call ∧
        ∃ row, Locked db seen row ∧ Advance db seen row (targetOf call) db')) := by
  cases call with
  | prepare _ expected cutoff cashId actorId =>
    obtain ⟨⟨_, review⟩, hcall, rfl⟩ := map_eq_ok.mp h
    exact prepare_cases hcall
  | approve _ reviewId expected actorId =>
    obtain ⟨seen, hread, hadvance⟩ := approve_cases h
    exact ⟨seen, hread, .inr ⟨not_false, hadvance⟩⟩
  | persist _ cutoff closedBy expected =>
    obtain ⟨⟨_, snapshot⟩, hcall, rfl⟩ := map_eq_ok.mp h
    exact persist_cases hcall

end Caixinha.Effects.ClosingCalls
