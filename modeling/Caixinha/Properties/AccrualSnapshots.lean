import Caixinha.Effects.AccrualRuns

/-! The charges of an active participation, noted run by run while its contributions are paid and
payments are reversed. -/
namespace Caixinha.Properties.AccrualSnapshots

open Caixinha.Library Caixinha.Library.Table Fallible Caixinha.Model Caixinha.Effects

section History

/-- What happens to an active participation: payments, reversals, and the runs that note its charges. -/
inductive Happening where
  | settle (paymentId : Nat) (c : Confirmation)
  | reverse (paymentId adminId : Nat) (reason : String) (now : Option Timestamp)
  | accrue (effectiveAt : Int)

def Happening.op (memberId cycleId : Nat) : Happening → CycleOp
  | .settle paymentId c => .settle paymentId c
  | .reverse paymentId adminId reason now => .reverse paymentId adminId reason now
  | .accrue effectiveAt => .materialize memberId cycleId (some ⟨effectiveAt, true⟩)

/-- The civil date of a run. -/
def Happening.day? : Happening → Option Int
  | .accrue effectiveAt => some (financialCivilDate effectiveAt)
  | _ => none

abbrev History := List (Int × Happening)

def History.days (history : History) : List Int := history.filterMap fun h => h.2.day?

def after (env : Env) (db : Db) (memberId cycleId : Nat) (history : History) : Db :=
  runCycle env db (history.map fun h => (h.1, h.2.op memberId cycleId))

/-- The contributions a run on the day looks at: overdue and not cancelled. -/
def overdueOn (db : Db) (memberId cycleId : Nat) (civil : Int) : List Contribution :=
  db.contributions.filter (fun c => c.memberId = memberId ∧ c.cycleId = some cycleId ∧
    c.dueDate.any (· < civil) ∧ c.cancelledAt = none)

/-- The run completes, and the latest snapshots show the charges of the payment histories on its date. -/
def NotesCharges (db : Db) (clock : Int) (memberId cycleId : Nat) (effectiveAt : Int) : Prop :=
  ∃ db', materializeActiveCharges db clock memberId cycleId (some ⟨effectiveAt, true⟩) = .ok db' ∧
    ∀ c ∈ overdueOn db' memberId cycleId (financialCivilDate effectiveAt),
      Accurate db' (financialCivilDate effectiveAt) c

/-- The books of a member with an active participation. -/
structure ActiveBooks (db : Db) (memberId cycleId : Nat) : Prop where
  sound : Sound db
  member : ∃ member, db.member? memberId = some member
  active : ∃ row, participation? db memberId cycleId = some row ∧ row.state = .active

end History

section Run
variable {env : Env} {db db' : Db} {memberId cycleId : Nat} {clock : Int}

private theorem materialize_active {row : CycleParticipation} {effectiveAt : Int}
    (hmember : ∃ member, db.member? memberId = some member) (hrow : participation? db memberId cycleId = some row)
    (hactive : row.state = .active) : ∃ accounts,
      materializeActiveCharges db clock memberId cycleId (some ⟨effectiveAt, true⟩) =
        (overdueOn db memberId cycleId (financialCivilDate effectiveAt)).foldlM
          (materializeCharges clock (financialCivilDate effectiveAt) row.id) { db with accounts := accounts } := by
  obtain ⟨member, hmember⟩ := hmember
  have hlock : ∃ accounts account, lockMemberFinancialAccount db memberId = .ok ({ db with accounts := accounts }, account) := by
    unfold lockMemberFinancialAccount
    rw [hmember, orRefuse, ok_bind]
    split
    · rename_i account haccount
      exact ⟨db.accounts, account, rfl⟩
    · exact ⟨_, _, rfl⟩
  obtain ⟨accounts, account, hlock⟩ := hlock
  have hfound : participation? { db with accounts := accounts } memberId cycleId = some row := hrow
  refine ⟨accounts, ?_⟩
  unfold materializeActiveCharges
  rw [effectiveAtUtc, if_pos rfl, ok_bind, hlock, ok_bind]
  dsimp only
  rw [getOrCreateParticipation_known hfound, ok_bind]
  dsimp only
  rw [if_neg (not_not.mpr hactive), overdueOn]

/-- One run notes the charges exactly when they can be noted. -/
theorem notesCharges_iff {effectiveAt : Int} (hdb : ActiveBooks db memberId cycleId)
    (hnoted : NotedUpTo db (financialCivilDate effectiveAt)) :
    NotesCharges db clock memberId cycleId effectiveAt ↔
      ∀ c ∈ overdueOn db memberId cycleId (financialCivilDate effectiveAt),
        Recordable db (financialCivilDate effectiveAt) c := by
  obtain ⟨row, hrow, hactive⟩ := hdb.active
  obtain ⟨accounts, hrun⟩ := @materialize_active _ _ _ clock _ effectiveAt hdb.member hrow hactive
  have hkeyed : ((overdueOn db memberId cycleId (financialCivilDate effectiveAt)).map Contribution.id).Nodup :=
    hdb.sound.contributions.sublist (List.filter_sublist.map _)
  have hdue : ∀ c ∈ overdueOn db memberId cycleId (financialCivilDate effectiveAt), c.dueDate.isSome := by
    intro c hc
    have := (of_decide_eq_true (List.mem_filter.mp hc).2).2.2.1
    cases h : c.dueDate with
    | none => rw [h] at this; cases this
    | some day => rfl
  have hiff := @foldlM_accurate_iff { db with accounts := accounts } clock _ row.id _
    hkeyed hdue hnoted
  rw [NotesCharges, hrun]
  refine Iff.trans (exists_congr fun db' => and_congr_right fun hfold => ?_) hiff
  obtain ⟨events, rfl, -⟩ := foldlM_writes hfold
  exact Iff.rfl

/-- Neither a payment nor a run closes the participation or loses the member. -/
private theorem activeBooks_step (hdb : ActiveBooks db memberId cycleId) (h : Happening) :
    ActiveBooks (executeCycle env db (clock, h.op memberId cycleId)) memberId cycleId ∧
      ∃ events, (executeCycle env db (clock, h.op memberId cycleId)).contributionChargeEvents =
        db.contributionChargeEvents ++ events ∧ ∀ e ∈ events, h.day? = some e.accruedThrough := by
  have hsame : ∃ events, db.contributionChargeEvents = db.contributionChargeEvents ++ events ∧
      ∀ e ∈ events, h.day? = some e.accruedThrough := ⟨[], by simp⟩
  unfold executeCycle
  split
  · rename_i db' hok
    cases h with
    | settle paymentId c =>
      obtain ⟨⟨next, s⟩, hsettle, rfl⟩ := map_eq_ok.mp hok
      have hkept := settle_cyclesKept hdb.sound hsettle
      refine ⟨⟨(step_settle hdb.sound hsettle fun _ h => h).sound hdb.sound, ?_, ?_⟩, [], ?_, by simp⟩
      · rw [Db.member?, hkept.members]
        exact hdb.member
      · rw [participation?, hkept.participations]
        exact hdb.active
      · rw [hkept.chargeEvents, List.append_nil]
    | reverse paymentId adminId reason now =>
      obtain ⟨⟨next, r⟩, hreverse, rfl⟩ := map_eq_ok.mp hok
      have hkept := reverse_cyclesKept hdb.sound hreverse
      refine ⟨⟨(step_reverse hdb.sound hreverse).sound hdb.sound, ?_, ?_⟩, [], ?_, by simp⟩
      · rw [Db.member?, hkept.members]
        exact hdb.member
      · rw [participation?, hkept.participations]
        exact hdb.active
      · rw [hkept.chargeEvents, List.append_nil]
    | accrue effectiveAt =>
      have hsound : Sound db' := CycleSteps.sound hdb.sound (QuietSteps.steps (quiet_materialize hok))
      obtain ⟨row, hrow, hactive⟩ := hdb.active
      obtain ⟨accounts, hrun⟩ := @materialize_active _ _ _ clock _ effectiveAt hdb.member hrow hactive
      have hfold := hrun.symm.trans hok
      obtain ⟨events, rfl, hevents⟩ := foldlM_writes hfold
      exact ⟨⟨hsound, hdb.member, row, hrow, hactive⟩, events, rfl, fun e he => by rw [(hevents e he).2]; rfl⟩
  · exact ⟨hdb, hsame⟩

/-- The books a history leads to; the snapshots it adds are dated on its days. -/
theorem activeBooks_after (history : History) (hdb : ActiveBooks db memberId cycleId) {civil : Int}
    (hdays : ∀ day ∈ history.days, day ≤ civil) (hnoted : NotedUpTo db civil) :
    ActiveBooks (after env db memberId cycleId history) memberId cycleId ∧
      NotedUpTo (after env db memberId cycleId history) civil := by
  induction history generalizing db with
  | nil => exact ⟨hdb, hnoted⟩
  | cons first rest ih =>
    obtain ⟨hnext, events, hevents, hdated⟩ := @activeBooks_step env _ _ _ first.1 hdb first.2
    refine ih hnext (fun day hday => hdays day ?_) fun e he htype => ?_
    · rw [History.days, List.filterMap_cons]
      split
      · exact hday
      · exact List.mem_cons_of_mem _ hday
    · rw [hevents] at he
      rcases List.mem_append.mp he with he | he
      · exact hnoted e he htype
      · refine hdays _ ?_
        rw [History.days, List.filterMap_cons, hdated e he]
        exact List.mem_cons_self ..

end Run

/-- Through every history of payments and reversals, with runs on days that never go back, every run completes and
leaves the latest snapshots at the charges of the payment histories, exactly when before every run the charges of
each overdue contribution can be noted: its payment history gives them, and they are those of its latest
snapshot, or there is something to note and no snapshot of the same day. -/
theorem runs_note_charges_iff {env : Env} {db : Db} {memberId cycleId : Nat} {history : History}
    (hdb : ActiveBooks db memberId cycleId) (hdays : history.days.Pairwise (· ≤ ·))
    (hnoted : ∀ day ∈ history.days, NotedUpTo db day) :
    (∀ before clock effectiveAt rest, history = before ++ (clock, .accrue effectiveAt) :: rest →
      NotesCharges (after env db memberId cycleId before) clock memberId cycleId effectiveAt) ↔
    (∀ before clock effectiveAt rest, history = before ++ (clock, .accrue effectiveAt) :: rest →
      ∀ c ∈ overdueOn (after env db memberId cycleId before) memberId cycleId (financialCivilDate effectiveAt),
        Recordable (after env db memberId cycleId before) (financialCivilDate effectiveAt) c) := by
  have hstep : ∀ before clock effectiveAt rest, history = before ++ (clock, .accrue effectiveAt) :: rest →
      (NotesCharges (after env db memberId cycleId before) clock memberId cycleId effectiveAt ↔
        ∀ c ∈ overdueOn (after env db memberId cycleId before) memberId cycleId (financialCivilDate effectiveAt),
          Recordable (after env db memberId cycleId before) (financialCivilDate effectiveAt) c) := by
    rintro before clock effectiveAt rest rfl
    have hsplit : History.days (before ++ (clock, .accrue effectiveAt) :: rest) =
        History.days before ++ financialCivilDate effectiveAt :: History.days rest := by
      rw [History.days, List.filterMap_append, List.filterMap_cons]
      rfl
    rw [hsplit] at hdays hnoted
    obtain ⟨-, -, hbefore⟩ := List.pairwise_append.mp hdays
    obtain ⟨hbooks, hup⟩ := @activeBooks_after env _ _ _ before hdb _
      (fun day hday => hbefore day hday _ (List.mem_cons_self ..)) (hnoted _ (by simp))
    exact notesCharges_iff hbooks hup
  constructor
  · intro h before clock effectiveAt rest hhistory
    exact (hstep before clock effectiveAt rest hhistory).mp (h before clock effectiveAt rest hhistory)
  · intro h before clock effectiveAt rest hhistory
    exact (hstep before clock effectiveAt rest hhistory).mpr (h before clock effectiveAt rest hhistory)

section Sample

private def sampleContribution : Contribution where
  id := 1
  memberId := 1
  cycleId := some 1
  competence := 20797
  amount := 10000
  status := .PENDING
  paymentId := none
  dueDate := some 20800
  paidAmount := some 0
  paidAt := none
  cancelledAt := none
  cancellationReason := none

private def samplePayment : Payment where
  id := 1
  provider := "mercado_pago"
  providerOrderId := none
  providerPaymentId := none
  amount := 10000
  status := "approved"
  externalReference := none
  pixTxid := none
  endToEndId := none
  providerStatusDetail := none
  confirmedAt := none
  expiresAt := none
  amountReceived := none
  ledgerPostedAt := none
  reference := some (.contribution 1)
  attemptStatus := none
  calculatedForDate := none
  financialSnapshotJson := none
  snapshotHash := none
  reconciliationStatus := none

private def sampleDb : Db where
  users := [{ id := 7, isActive := true, isAdmin := true, isMaster := true }]
  members := [{ id := 1 }]
  participations := [{ id := 1, cycleId := 1, memberId := 1, state := .active }]
  contributions := [sampleContribution]
  payments := [samplePayment]

private def sampleEnv : Env where
  sha256 := fun _ => ""
  lateChargeEffectiveDate := none

private def noon (day : Int) : Int := day * dayLength + dayLength / 2

/-- A run on the fifth late day, a payment confirmed on a day of its own, and a run two days later. -/
private def paidOn (day : Int) : History := [(noon 20805, .accrue (noon 20805)),
  (noon 20806, .settle 1 { source := "webhook", confirmedAt := some ⟨noon day, true⟩ }),
  (noon 20807, .accrue (noon 20807))]

private theorem sampleDb_active : ActiveBooks sampleDb 1 1 where
  sound := by
    constructor
    case ledger => constructor <;> simp [sampleDb, Keyed]
    all_goals simp [sampleDb, Keyed]
  member := ⟨_, rfl⟩
  active := ⟨_, rfl, rfl⟩

private theorem run_of_paidOn {day clock effectiveAt : Int} {before rest : History}
    (h : paidOn day = before ++ (clock, .accrue effectiveAt) :: rest) :
    (before = [] ∧ clock = noon 20805 ∧ effectiveAt = noon 20805) ∨
      (before = (paidOn day).take 2 ∧ clock = noon 20807 ∧ effectiveAt = noon 20807) := by
  rw [paidOn] at h ⊢
  rcases before with _ | ⟨x, _ | ⟨y, _ | ⟨z, more⟩⟩⟩
  · simp only [List.nil_append, List.cons.injEq, Prod.mk.injEq, Happening.accrue.injEq] at h
    exact .inl ⟨rfl, h.1.1.symm, h.1.2.symm⟩
  · simp at h
  · simp only [List.cons_append, List.nil_append, List.cons.injEq, Prod.mk.injEq, Happening.accrue.injEq] at h
    obtain ⟨rfl, rfl, ⟨rfl, rfl⟩, -⟩ := h
    exact .inr ⟨rfl, rfl, rfl⟩
  · simp at h

/-- Paid on the sixth late day, the contribution keeps the charges of the first five. -/
theorem runs_note_charges_iff_sample :
    NotesCharges (after sampleEnv sampleDb 1 1 ((paidOn 20806).take 2)) (noon 20807) 1 1 (noon 20807) := by
  refine (@runs_note_charges_iff sampleEnv _ _ _ (paidOn 20806) sampleDb_active (by decide)
    (fun _ _ _ he => absurd he List.not_mem_nil)).mpr (fun before clock effectiveAt rest h => ?_) _ _ _ [] rfl
  rcases run_of_paidOn h with ⟨rfl, -, rfl⟩ | ⟨rfl, -, rfl⟩
  · decide
  · decide

/-- A payment confirmed before the due date and settled after the first run takes the charges back, and the last
run leaves the snapshot of the first. -/
theorem late_payment_leaves_stale_charges :
    ¬ ∀ (env : Env) (db : Db) (memberId cycleId : Nat) (history : History),
      ActiveBooks db memberId cycleId → history.days.Pairwise (· ≤ ·) → (∀ day ∈ history.days, NotedUpTo db day) →
      ∀ before clock effectiveAt rest, history = before ++ (clock, .accrue effectiveAt) :: rest →
        NotesCharges (after env db memberId cycleId before) clock memberId cycleId effectiveAt := by
  intro h
  obtain ⟨db', hrun, haccurate⟩ := h sampleEnv sampleDb 1 1 (paidOn 20799) sampleDb_active (by decide)
    (fun _ _ _ he => absurd he List.not_mem_nil) ((paidOn 20799).take 2) (noon 20807) (noon 20807) [] rfl
  have hstale : (materializeActiveCharges (after sampleEnv sampleDb 1 1 ((paidOn 20799).take 2)) (noon 20807) 1 1
      (some ⟨noon 20807, true⟩)).map (fun db' => decide (∀ c ∈ overdueOn db' 1 1 (financialCivilDate (noon 20807)),
        Accurate db' (financialCivilDate (noon 20807)) c)) = .ok false := by decide
  rw [hrun] at hstale
  have := Except.ok.inj hstale
  rw [decide_eq_false_iff_not] at this
  exact this haccurate

end Sample

end Caixinha.Properties.AccrualSnapshots
