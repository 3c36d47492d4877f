import Caixinha.Effects.CycleSteps
import Caixinha.Library.DecimalOrder

/-! What a daily run makes of the latest accrual snapshot of each contribution. -/
namespace Caixinha.Effects

open Caixinha.Library Caixinha.Library.Table Fallible Decimal Caixinha.Model

section Latest
variable {db : Db} {id civil : Int} {contributionId : Nat} {e : ContributionChargeEvent}

def accrualsOf (db : Db) (contributionId : Nat) : List ContributionChargeEvent :=
  db.contributionChargeEvents.filter fun e => e.contributionId = contributionId ∧ e.eventType = .ACCRUAL_SNAPSHOT

/-- The charges of the latest snapshot; none means zero. -/
def latestCharges (db : Db) (contributionId : Nat) : ContributionCharges :=
  (lastAccrual? db contributionId).elim ⟨0, 0⟩ fun e => ⟨e.fixedPenalty, e.dailyInterest⟩

private def later (a b : ContributionChargeEvent) : Prop := b.accruedThrough ≤ a.accruedThrough

private instance : DecidableRel later := fun a b => inferInstanceAs (Decidable (b.accruedThrough ≤ a.accruedThrough))

private theorem lastAccrual?_eq : lastAccrual? db contributionId =
    ((accrualsOf db contributionId).insertionSort later).head? := rfl

theorem lastAccrual?_mem (h : lastAccrual? db contributionId = some e) : e ∈ accrualsOf db contributionId :=
  (List.mem_insertionSort later).mp (List.mem_of_mem_head? h)

theorem lastAccrual?_max (h : lastAccrual? db contributionId = some e) {x : ContributionChargeEvent}
    (hx : x ∈ accrualsOf db contributionId) : x.accruedThrough ≤ e.accruedThrough := by
  have : Std.Total later := ⟨fun a b => Int.le_total b.accruedThrough a.accruedThrough⟩
  have : IsTrans ContributionChargeEvent later := ⟨fun _ _ _ hab hbc => Int.le_trans hbc hab⟩
  have hsorted := List.pairwise_insertionSort later (accrualsOf db contributionId)
  have hmem := (List.mem_insertionSort later).mpr hx
  rw [lastAccrual?_eq] at h
  obtain ⟨rest, hrest⟩ := List.head?_eq_some_iff.mp h
  rw [hrest] at hsorted hmem
  rcases List.mem_cons.mp hmem with rfl | hmem
  · exact le_rfl
  · exact (List.pairwise_cons.mp hsorted).1 x hmem

theorem lastAccrual?_none (h : lastAccrual? db contributionId = none) : accrualsOf db contributionId = [] := by
  rw [lastAccrual?_eq, List.head?_eq_none_iff] at h
  exact List.eq_nil_of_length_eq_zero (by rw [← List.length_insertionSort later, h, List.length_nil])

/-- A snapshot dated after all the others becomes the latest. -/
theorem lastAccrual?_of_append {db' : Db} (hdb : db'.contributionChargeEvents = db.contributionChargeEvents ++ [e])
    (hid : e.contributionId = contributionId) (htype : e.eventType = .ACCRUAL_SNAPSHOT)
    (hlater : ∀ x ∈ accrualsOf db contributionId, x.accruedThrough < e.accruedThrough) :
    lastAccrual? db' contributionId = some e := by
  have hrows : accrualsOf db' contributionId = accrualsOf db contributionId ++ [e] := by
    rw [accrualsOf, hdb, List.filter_append, ← accrualsOf]
    simp [hid, htype]
  cases hlast : lastAccrual? db' contributionId with
  | none =>
    have := lastAccrual?_none hlast
    rw [hrows] at this
    simp at this
  | some x =>
    have hmem := lastAccrual?_mem hlast
    have hmax := lastAccrual?_max hlast (x := e) (by rw [hrows]; simp)
    rw [hrows] at hmem
    rcases List.mem_append.mp hmem with hx | hx
    · exact absurd (hlater x hx) (by omega)
    · rw [List.mem_singleton.mp hx]

/-- Snapshots of other contributions do not matter. -/
theorem accrualsOf_append {db' : Db} {events : List ContributionChargeEvent}
    (hdb : db'.contributionChargeEvents = db.contributionChargeEvents ++ events)
    (hother : ∀ x ∈ events, x.contributionId ≠ contributionId) :
    accrualsOf db' contributionId = accrualsOf db contributionId := by
  rw [accrualsOf, hdb, List.filter_append, ← accrualsOf, List.filter_eq_nil_iff.mpr, List.append_nil]
  intro x hx
  simp [hother x hx]

theorem lastAccrual?_congr {db' : Db} (h : accrualsOf db' contributionId = accrualsOf db contributionId) :
    lastAccrual? db' contributionId = lastAccrual? db contributionId := by
  rw [lastAccrual?_eq, lastAccrual?_eq, h]

theorem latestCharges_congr {db' : Db} (h : accrualsOf db' contributionId = accrualsOf db contributionId) :
    latestCharges db' contributionId = latestCharges db contributionId := by
  rw [latestCharges, latestCharges, lastAccrual?_congr h]

end Latest

section Nonneg
variable {principal dueDate through : Int} {payments : List (Int × Int)} {charges : ContributionCharges}

private theorem accrued_nonneg {w : ChargeWalk} {days : Int} (hinterest : 0 ≤ w.exactInterest.coefficient)
    (hbalance : 0 ≤ w.balance) (hdays : 0 ≤ days) : 0 ≤ (w.accrued days).coefficient := by
  have hrate : 0 ≤ contributionDailyRate.coefficient := by decide
  have hproduct : 0 ≤ (mul 28 ⟨w.balance, -2⟩ ⟨days, 0⟩).coefficient := round_nonneg (mul_nonneg hbalance hdays) 28
  have hterm : 0 ≤ (mul 28 (mul 28 ⟨w.balance, -2⟩ ⟨days, 0⟩) contributionDailyRate).coefficient :=
    round_nonneg (mul_nonneg hproduct hrate) 28
  exact round_nonneg (add_nonneg (mul_nonneg hinterest (by positivity)) (mul_nonneg hterm (by positivity))) 28

/-- The walk never goes below zero. -/
structure Unowed (w : ChargeWalk) : Prop where
  balance : 0 ≤ w.balance
  interest : 0 ≤ w.exactInterest.coefficient

private theorem chargeStep_unowed {w next : ChargeWalk} {payment : Int × Int} (hw : Unowed w)
    (h : chargeStep dueDate through w payment = .ok next) : Unowed next := by
  unfold chargeStep at h
  simp only [bind_eq_ok, refuseIf_eq_ok, exists_and_left, exists_const] at h
  obtain ⟨hfits, h⟩ := h
  have hbalance : 0 ≤ w.balance - payment.2 := by omega
  split at h
  · rw [pure_eq_ok] at h
    exact h ▸ hw
  · rw [pure_eq_ok] at h
    subst h
    split
    · exact ⟨hbalance, hw.interest⟩
    · split
      · exact ⟨hbalance, accrued_nonneg hw.interest hw.balance (by omega)⟩
      · exact ⟨hbalance, hw.interest⟩

theorem quantizedMoney_nonneg {x : Number} {cents : Int} (hx : 0 ≤ x.coefficient) (h : quantizedMoney x = .ok cents) :
    0 ≤ cents := by
  have hcents : 0 ≤ centsHalfUp x := by
    unfold centsHalfUp
    split
    · positivity
    · rcases hx.lt_or_eq with hpos | hzero
      · rw [Int.sign_eq_one_of_pos hpos]
        positivity
      · rw [← hzero]
        simp
  unfold quantizedMoney at h
  split at h
  · rename_i c hc
    obtain ⟨-, rfl⟩ := checkCents_eq_some.mp hc
    rw [Except.ok.injEq] at h
    exact h ▸ hcents
  · cases h

theorem calculateContributionCharges_nonneg
    (h : calculateContributionCharges principal dueDate through payments = .ok charges) :
    0 ≤ charges.fixedPenalty ∧ 0 ≤ charges.dailyInterest := by
  unfold calculateContributionCharges at h
  simp only [bind_eq_ok, refuseIf_eq_ok, pure_eq_ok, exists_and_left, exists_const] at h
  obtain ⟨hprincipal, walk, hwalk, cents, hcents, rfl⟩ := h
  have hfinal : Unowed walk :=
    foldlM_invariant Unowed (fun _ _ _ hw hstep => chargeStep_unowed hw hstep) ⟨by dsimp only; omega, le_rfl⟩ hwalk
  constructor
  · dsimp only
    split <;> decide
  · refine quantizedMoney_nonneg ?_ hcents
    split
    · exact accrued_nonneg hfinal.interest hfinal.balance (by omega)
    · exact hfinal.interest

end Nonneg

section Step
variable {db db' : Db} {clock civil : Int} {participationId : Nat} {c : Contribution} {rows : List Contribution}

/-- The latest snapshot of a contribution shows the charges of its payment history on the day. -/
def Accurate (db : Db) (civil : Int) (c : Contribution) : Prop :=
  ∃ dueDate, c.dueDate = some dueDate ∧ chargesOn db civil dueDate c = .ok (latestCharges db c.id)

/-- The charges of the day can be noted: the payment history gives them, and either the latest snapshot shows
them already, or there is something to note and no snapshot of that day yet. -/
def Recordable (db : Db) (civil : Int) (c : Contribution) : Prop :=
  ∃ dueDate charges, c.dueDate = some dueDate ∧ chargesOn db civil dueDate c = .ok charges ∧
    (charges = latestCharges db c.id ∨
      charges ≠ ⟨0, 0⟩ ∧ ∀ e, lastAccrual? db c.id = some e → e.accruedThrough ≠ civil)

instance (db : Db) (civil : Int) (c : Contribution) : Decidable (Accurate db civil c) :=
  decidable_of_iff (c.dueDate.any fun dueDate => chargesOn db civil dueDate c = .ok (latestCharges db c.id))
    (by rw [Option.any_eq_true_iff_get, Accurate]; cases c.dueDate <;> simp)

instance (db : Db) (civil : Int) (c : Contribution) : Decidable (Recordable db civil c) :=
  decidable_of_iff (c.dueDate.any fun dueDate => match chargesOn db civil dueDate c with
      | .ok charges => charges = latestCharges db c.id ∨
        charges ≠ ⟨0, 0⟩ ∧ (lastAccrual? db c.id).all (fun e => e.accruedThrough ≠ civil)
      | .error _ => false) (by
    rw [Recordable]
    cases c.dueDate with
    | none => simp
    | some dueDate => cases h : chargesOn db civil dueDate c <;> cases lastAccrual? db c.id <;> simp [h])

/-- The snapshots so far are not dated after the day. -/
def NotedUpTo (db : Db) (civil : Int) : Prop :=
  ∀ e ∈ db.contributionChargeEvents, e.eventType = .ACCRUAL_SNAPSHOT → e.accruedThrough ≤ civil

theorem chargesOn_events (db : Db) (events : List ContributionChargeEvent) (civil dueDate : Int) (c : Contribution) :
    chargesOn { db with contributionChargeEvents := events } civil dueDate c = chargesOn db civil dueDate c := rfl

/-- The run leaves a contribution alone when it owes nothing or its snapshot shows the charges. -/
def UpToDate (db : Db) (c : Contribution) (charges : ContributionCharges) : Prop :=
  charges = ⟨0, 0⟩ ∨ charges = latestCharges db c.id

private theorem latest_iff {charges : ContributionCharges} (hcharges : charges ≠ ⟨0, 0⟩) :
    (lastAccrual? db c.id).any (fun e =>
      e.fixedPenalty = charges.fixedPenalty ∧ e.dailyInterest = charges.dailyInterest) = true ↔
        charges = latestCharges db c.id := by
  rw [latestCharges]
  cases lastAccrual? db c.id with
  | none => simpa using hcharges
  | some e =>
    obtain ⟨penalty, interest⟩ := charges
    simp only [Option.any_some, decide_eq_true_eq, Option.elim_some, ContributionCharges.mk.injEq]
    exact ⟨fun h => ⟨h.1.symm, h.2.symm⟩, fun h => ⟨h.1.symm, h.2.symm⟩⟩

private theorem zero_iff (charges : ContributionCharges) :
    charges.fixedPenalty = 0 ∧ charges.dailyInterest = 0 ↔ charges = ⟨0, 0⟩ := by
  obtain ⟨penalty, interest⟩ := charges
  simp

theorem materializeCharges_upToDate {dueDate : Int} {charges : ContributionCharges} (hdue : c.dueDate = some dueDate)
    (hcharges : chargesOn db civil dueDate c = .ok charges) (hdone : UpToDate db c charges) :
    materializeCharges clock civil participationId db c = .ok db := by
  unfold materializeCharges
  rw [hdue]
  dsimp only
  rw [hcharges, ok_bind]
  by_cases hzero : charges = ⟨0, 0⟩
  · rw [if_pos ((zero_iff charges).mpr hzero)]
    rfl
  · rw [if_neg (fun h => hzero ((zero_iff charges).mp h)),
      if_pos ((latest_iff hzero).mpr (hdone.resolve_left hzero))]
    rfl

/-- The snapshot a run writes. -/
structure SnapshotOf (civil : Int) (c : Contribution) (charges : ContributionCharges)
    (e : ContributionChargeEvent) : Prop where
  contribution : e.contributionId = c.id
  type : e.eventType = .ACCRUAL_SNAPSHOT
  day : e.accruedThrough = civil
  charges : (⟨e.fixedPenalty, e.dailyInterest⟩ : ContributionCharges) = charges

/-- Otherwise it writes a snapshot, which the constraint admits once a day. -/
theorem materializeCharges_outdated {dueDate : Int} {charges : ContributionCharges}
    (hdue : c.dueDate = some dueDate) (hcharges : chargesOn db civil dueDate c = .ok charges)
    (hdone : ¬ UpToDate db c charges) :
    materializeCharges clock civil participationId db c = .ok db' →
      (∀ x ∈ accrualsOf db c.id, x.accruedThrough ≠ civil) ∧
        ∃ e, SnapshotOf civil c charges e ∧
          db' = { db with contributionChargeEvents := db.contributionChargeEvents ++ [e] } := by
  intro h
  obtain ⟨hzero, hlatest⟩ := not_or.mp hdone
  unfold materializeCharges at h
  rw [hdue] at h
  dsimp only at h
  rw [hcharges, ok_bind, if_neg (fun hz => hzero ((zero_iff charges).mp hz)),
    if_neg (fun hl => hlatest ((latest_iff hzero).mp hl))] at h
  obtain ⟨e, hdb, he⟩ := addChargeEvent_spec h
  unfold addChargeEvent at h
  simp only [bind_eq_ok, requireConstraint_eq_ok, exists_and_left, exists_const] at h
  refine ⟨fun x hx hday => ?_, e, ⟨he.contribution, he.type, he.day, ?_⟩, hdb⟩
  · obtain ⟨hmem, hkind⟩ := List.mem_filter.mp hx
    have hnone := List.all_eq_true.mp h.1 x hmem
    simp only [decide_eq_true_eq] at hkind hnone
    exact hnone ⟨hkind.1, hkind.2, hday⟩
  · rw [he.fixedPenalty, he.dailyInterest]

theorem materializeCharges_ok {dueDate : Int} {charges : ContributionCharges} (hdue : c.dueDate = some dueDate)
    (hcharges : chargesOn db civil dueDate c = .ok charges)
    (hfresh : ∀ x ∈ accrualsOf db c.id, x.accruedThrough ≠ civil) :
    ∃ db', materializeCharges clock civil participationId db c = .ok db' := by
  by_cases hdone : UpToDate db c charges
  · exact ⟨db, materializeCharges_upToDate hdue hcharges hdone⟩
  obtain ⟨hzero, hlatest⟩ := not_or.mp hdone
  have hnonneg : 0 ≤ charges.fixedPenalty ∧ 0 ≤ charges.dailyInterest := by
    unfold chargesOn at hcharges
    simp only [bind_eq_ok] at hcharges
    obtain ⟨history, -, hcalculate⟩ := hcharges
    exact calculateContributionCharges_nonneg hcalculate
  unfold materializeCharges
  rw [hdue]
  dsimp only
  rw [hcharges, ok_bind, if_neg (fun hz => hzero ((zero_iff charges).mp hz)),
    if_neg (fun hl => hlatest ((latest_iff hzero).mp hl)), addChargeEvent, requireConstraint, if_pos, ok_bind,
    requireConstraint, if_pos ⟨hnonneg.1, hnonneg.2, le_rfl⟩]
  · exact ⟨_, rfl⟩
  · refine List.all_eq_true.mpr fun x hx => decide_eq_true fun h => hfresh x ?_ h.2.2
    exact List.mem_filter.mpr ⟨hx, decide_eq_true ⟨h.1, h.2.1⟩⟩

/-- What one contribution of the run may write. -/
theorem materializeCharges_writes (h : materializeCharges clock civil participationId db c = .ok db') :
    ∃ events, db' = { db with contributionChargeEvents := db.contributionChargeEvents ++ events } ∧
      ∀ e ∈ events, e.contributionId = c.id ∧ e.accruedThrough = civil := by
  have hsame : db = { db with contributionChargeEvents := db.contributionChargeEvents ++ [] } := by rw [List.append_nil]
  cases hdue : c.dueDate with
  | none =>
    unfold materializeCharges at h
    rw [hdue, pure_eq_ok] at h
    exact ⟨[], h ▸ hsame, by simp⟩
  | some dueDate =>
    cases hcharges : chargesOn db civil dueDate c with
    | error e =>
      unfold materializeCharges at h
      rw [hdue] at h
      dsimp only at h
      rw [hcharges] at h
      cases h
    | ok charges =>
      by_cases hdone : UpToDate db c charges
      · rw [materializeCharges_upToDate hdue hcharges hdone, Except.ok.injEq] at h
        exact ⟨[], h ▸ hsame, by simp⟩
      · obtain ⟨-, e, he, hdb⟩ := materializeCharges_outdated hdue hcharges hdone h
        exact ⟨[e], hdb, by simp [he.contribution, he.day]⟩

/-- After one contribution of the run its latest snapshot is accurate exactly when the charges were recordable. -/
theorem materializeCharges_accurate_iff (hdue : c.dueDate.isSome) (hnoted : NotedUpTo db civil) :
    (∃ db', materializeCharges clock civil participationId db c = .ok db' ∧ Accurate db' civil c) ↔
      Recordable db civil c := by
  obtain ⟨dueDate, hdue⟩ := Option.isSome_iff_exists.mp hdue
  have hpast : ∀ x ∈ accrualsOf db c.id, x.accruedThrough ≤ civil := fun x hx =>
    hnoted x (List.mem_filter.mp hx).1 (of_decide_eq_true (List.mem_filter.mp hx).2).2
  constructor
  · rintro ⟨db', hrun, due, hdue', haccurate⟩
    obtain rfl : dueDate = due := Option.some.inj (hdue.symm.trans hdue')
    obtain ⟨events, hdb, -⟩ := materializeCharges_writes hrun
    have hsame : chargesOn db' civil dueDate c = chargesOn db civil dueDate c := by rw [hdb, chargesOn_events]
    have hcharges := hsame ▸ haccurate
    refine ⟨dueDate, _, hdue, hcharges, ?_⟩
    by_cases hdone : UpToDate db c (latestCharges db' c.id)
    · rw [materializeCharges_upToDate hdue hcharges hdone, Except.ok.injEq] at hrun
      exact .inl (by rw [hrun])
    · obtain ⟨hfresh, -⟩ := materializeCharges_outdated hdue hcharges hdone hrun
      exact .inr ⟨(not_or.mp hdone).1, fun e he => hfresh e (lastAccrual?_mem he)⟩
  · rintro ⟨due, charges, hdue', hcharges, hrecord⟩
    obtain rfl : dueDate = due := Option.some.inj (hdue.symm.trans hdue')
    by_cases hlatest : charges = latestCharges db c.id
    · exact ⟨db, materializeCharges_upToDate hdue hcharges (.inr hlatest), dueDate, hdue, hlatest ▸ hcharges⟩
    · obtain ⟨hzero, hday⟩ := hrecord.resolve_left hlatest
      have hfresh : ∀ x ∈ accrualsOf db c.id, x.accruedThrough ≠ civil := by
        intro x hx hsame
        cases hlast : lastAccrual? db c.id with
        | none => rw [lastAccrual?_none hlast] at hx; cases hx
        | some e =>
          have hmax := lastAccrual?_max hlast hx
          have hle := hpast e (lastAccrual?_mem hlast)
          exact hday e hlast (by omega)
      obtain ⟨db', hrun⟩ := @materializeCharges_ok _ clock _ participationId _ _ _ hdue hcharges hfresh
      obtain ⟨-, e, he, hdb⟩ := materializeCharges_outdated hdue hcharges (not_or.mpr ⟨hzero, hlatest⟩) hrun
      have hlast : lastAccrual? db' c.id = some e := by
        refine lastAccrual?_of_append (by rw [hdb]) he.contribution he.type fun x hx => ?_
        have := hpast x hx
        have := hfresh x hx
        have := he.day
        omega
      refine ⟨db', hrun, dueDate, hdue, ?_⟩
      rw [latestCharges, hlast, Option.elim_some, he.charges, hdb, chargesOn_events, hcharges]

/-- Writing for other contributions leaves the snapshots of this one. -/
private theorem accrualsOf_kept {contributionId : Nat} (h : materializeCharges clock civil participationId db c = .ok db')
    (hother : c.id ≠ contributionId) : accrualsOf db' contributionId = accrualsOf db contributionId := by
  obtain ⟨events, hdb, hevents⟩ := materializeCharges_writes h
  exact accrualsOf_append (by rw [hdb]) fun x hx => (hevents x hx).1 ▸ hother

private theorem accurate_congr {x : Contribution} (hsame : ∀ due, chargesOn db' civil due x = chargesOn db civil due x)
    (hkept : accrualsOf db' x.id = accrualsOf db x.id) : Accurate db' civil x ↔ Accurate db civil x := by
  simp only [Accurate, hsame, latestCharges_congr hkept]

private theorem recordable_congr {x : Contribution} (hsame : ∀ due, chargesOn db' civil due x = chargesOn db civil due x)
    (hkept : accrualsOf db' x.id = accrualsOf db x.id) : Recordable db' civil x ↔ Recordable db civil x := by
  simp only [Recordable, hsame, latestCharges_congr hkept, lastAccrual?_congr hkept]

private theorem chargesOn_kept (h : materializeCharges clock civil participationId db c = .ok db') (due : Int)
    (x : Contribution) : chargesOn db' civil due x = chargesOn db civil due x := by
  obtain ⟨events, hdb, -⟩ := materializeCharges_writes h
  rw [hdb, chargesOn_events]

private theorem notedUpTo_kept (hnoted : NotedUpTo db civil)
    (h : materializeCharges clock civil participationId db c = .ok db') : NotedUpTo db' civil := by
  obtain ⟨events, hdb, hevents⟩ := materializeCharges_writes h
  intro e he htype
  rw [hdb] at he
  rcases List.mem_append.mp he with he | he
  · exact hnoted e he htype
  · exact (hevents e he).2.le

/-- What the run over several contributions may write. -/
theorem foldlM_writes (h : rows.foldlM (materializeCharges clock civil participationId) db = .ok db') :
    ∃ events, db' = { db with contributionChargeEvents := db.contributionChargeEvents ++ events } ∧
      ∀ e ∈ events, (∃ c ∈ rows, e.contributionId = c.id) ∧ e.accruedThrough = civil := by
  refine foldlM_invariant_mem (fun s => ∃ events,
    s = { db with contributionChargeEvents := db.contributionChargeEvents ++ events } ∧
      ∀ e ∈ events, (∃ c ∈ rows, e.contributionId = c.id) ∧ e.accruedThrough = civil) ?_ ?_ h
  · rintro s c t hc ⟨events, rfl, hevents⟩ hstep
    obtain ⟨more, rfl, hmore⟩ := materializeCharges_writes hstep
    refine ⟨events ++ more, by dsimp only; rw [List.append_assoc], fun e he => ?_⟩
    rcases List.mem_append.mp he with he | he
    · exact hevents e he
    · exact ⟨⟨c, hc, (hmore e he).1⟩, (hmore e he).2⟩
  · exact ⟨[], by rw [List.append_nil], by simp⟩

/-- A run over contributions with different keys: all their snapshots are accurate afterwards exactly when the
charges of each were recordable before. -/
theorem foldlM_accurate_iff (hkeyed : (rows.map Contribution.id).Nodup) (hdue : ∀ c ∈ rows, c.dueDate.isSome)
    (hnoted : NotedUpTo db civil) :
    (∃ db', rows.foldlM (materializeCharges clock civil participationId) db = .ok db' ∧
      ∀ c ∈ rows, Accurate db' civil c) ↔ ∀ c ∈ rows, Recordable db civil c := by
  induction rows generalizing db with
  | nil => simp
  | cons c rest ih =>
    obtain ⟨hnew, hrest⟩ := List.nodup_cons.mp hkeyed
    have hother : ∀ x ∈ rest, c.id ≠ x.id := fun x hx hsame => hnew (hsame ▸ List.mem_map_of_mem hx)
    have hdueRest : ∀ x ∈ rest, x.dueDate.isSome := fun x hx => hdue x (List.mem_cons_of_mem _ hx)
    have hstep := @materializeCharges_accurate_iff _ clock _ participationId _
      (hdue c (List.mem_cons_self ..)) hnoted
    have hfirst : ∀ {next}, materializeCharges clock civil participationId db c = .ok next →
        (∀ x ∈ rest, Recordable next civil x) → ∀ x ∈ rest, Recordable db civil x := fun hnext h x hx =>
      (recordable_congr (chargesOn_kept hnext · x) (accrualsOf_kept hnext (hother x hx))).mp (h x hx)
    constructor
    · rintro ⟨db', hrun, haccurate⟩
      rw [List.foldlM_cons, bind_eq_ok] at hrun
      obtain ⟨next, hnext, hrun⟩ := hrun
      obtain ⟨events, hdb, hevents⟩ := foldlM_writes hrun
      have hkept : accrualsOf db' c.id = accrualsOf next c.id := by
        refine accrualsOf_append (by rw [hdb]) fun e he hsame => ?_
        obtain ⟨⟨x, hx, hid⟩, -⟩ := hevents e he
        exact hother x hx (hsame ▸ hid)
      have hnextAccurate : Accurate next civil c := by
        refine (accurate_congr (fun due => ?_) hkept).mp (haccurate c (List.mem_cons_self ..))
        rw [hdb, chargesOn_events]
      refine List.forall_mem_cons.mpr ⟨hstep.mp ⟨next, hnext, hnextAccurate⟩, hfirst hnext ?_⟩
      exact (ih hrest hdueRest (notedUpTo_kept hnoted hnext)).mp
        ⟨db', hrun, fun x hx => haccurate x (List.mem_cons_of_mem _ hx)⟩
    · intro hrecordable
      obtain ⟨hc, hrows⟩ := List.forall_mem_cons.mp hrecordable
      obtain ⟨next, hnext, hnextAccurate⟩ := hstep.mpr hc
      obtain ⟨db', hrun, haccurate⟩ := (ih hrest hdueRest (notedUpTo_kept hnoted hnext)).mpr fun x hx =>
        (recordable_congr (chargesOn_kept hnext · x) (accrualsOf_kept hnext (hother x hx))).mpr (hrows x hx)
      obtain ⟨events, hdb, hevents⟩ := foldlM_writes hrun
      refine ⟨db', by rw [List.foldlM_cons, hnext, ok_bind, hrun], List.forall_mem_cons.mpr ⟨?_, haccurate⟩⟩
      refine (accurate_congr (fun due => by rw [hdb, chargesOn_events]) ?_).mpr hnextAccurate
      refine accrualsOf_append (by rw [hdb]) fun e he hsame => ?_
      obtain ⟨⟨x, hx, hid⟩, -⟩ := hevents e he
      exact hother x hx (hsame ▸ hid)

end Step

end Caixinha.Effects
