import Caixinha.Effects.SchedulerRuns
import Caixinha.Library.Runs

/-! The leases of the scheduler over every interleaving of workers: what is done stays done, effects
are committed once, and who lost a lease writes nothing more. -/
namespace Caixinha.Properties.SchedulerLeases

open Caixinha.Library Caixinha.Library.Table Caixinha.Model Caixinha.Effects

variable {S S₀ : SchedulerSystem} {e : SchedulerEvent} {events : List SchedulerEvent} {w : String}

section Statement

/-- A run just created, and no worker that has claimed it. -/
structure Started (S : SchedulerSystem) : Prop where
  pending : S.schedule.run.status = .PENDING
  unowned : S.schedule.run.leaseOwner = none
  units : S.schedule.units = []
  effects : S.schedule.effects = []
  claimants : S.claimants = []

/-- The clock only moves on, a transaction gets its row locks when those before it are over, and a worker
claims the run under an owner string of its own. -/
structure Allowed (S : SchedulerSystem) (e : SchedulerEvent) : Prop where
  asked : e.instants.asked ≤ e.instants.granted
  serial : S.clock ≤ e.instants.granted
  ended : e.instants.granted ≤ e.instants.ended
  unique : isRunClaim (S.transaction e) → e.owner ∉ S.claimants

/-- Whatever holds of each event in the state it meets. -/
def Throughout (C : SchedulerSystem → SchedulerEvent → Prop) (S : SchedulerSystem)
    (events : List SchedulerEvent) : Prop :=
  ∀ done e, done ++ [e] <+: events → C (S.run done) e

def runHeld (S : SchedulerSystem) (w : String) (now : Int) : Bool := assertClaim S.schedule.run w now

/-- A lease of the worker that is valid when it is read is still valid when the row locks are granted. -/
def OutlastsWait (e : SchedulerEvent) (c : Claim) : Prop :=
  ∀ expiry, c.leaseOwner = some e.owner → c.leaseExpiresAt = some expiry →
    e.instants.asked < expiry → e.instants.granted < expiry

/-- A transaction that reads the clock before it waits for its locks does not wait past the end of a lease
it checks. -/
def InTime (S : SchedulerSystem) (e : SchedulerEvent) : Prop :=
  ∀ tx, S.transaction e = some tx → checkedAt e.instants tx = e.instants.asked →
    OutlastsWait e S.schedule.run ∧
      ∀ id u, checkedUnit tx = some id → S.schedule.unit? id = some u → OutlastsWait e u.claim

/-- What is done stays done, effects are committed once, and no expired lease is renewed. -/
structure LeasesKept (S : SchedulerSystem) (events : List SchedulerEvent) : Prop where
  runDone : ∀ done more, done ++ more <+: events → (S.run done).schedule.run.status = .SUCCEEDED →
    (S.run (done ++ more)).schedule = (S.run done).schedule
  unitDone : ∀ done more, done ++ more <+: events → ∀ u ∈ (S.run done).schedule.units,
    u.claim.status = .SUCCEEDED → u ∈ (S.run (done ++ more)).schedule.units
  once : ∀ done, done <+: events → (S.run done).schedule.effects.Nodup
  complete : ∀ done, done <+: events → (S.run done).schedule.run.status = .SUCCEEDED →
    ∀ u ∈ (S.run done).schedule.units, u.claim.status = .SUCCEEDED
  renewed : ∀ done e seconds, done ++ [e] <+: events →
    (S.run done).transaction e = some (.renewRun seconds) → ((S.run done).outcome e).isSome →
    runHeld (S.run done) e.owner e.instants.granted

/-- A worker whose run was claimed by another, or ended, writes nothing from then on. -/
def ReclaimedFenced (S : SchedulerSystem) (events : List SchedulerEvent) : Prop :=
  ∀ done more e, done ++ more ++ [e] <+: events → e.owner ∈ (S.run done).claimants →
    (S.run done).schedule.run.leaseOwner ≠ some e.owner →
    (S.run (done ++ more ++ [e])).schedule = (S.run (done ++ more)).schedule

/-- A worker that no longer holds its run writes nothing from then on, and a unit is checkpointed by a
worker that holds it. -/
structure LostFenced (S : SchedulerSystem) (events : List SchedulerEvent) : Prop where
  run : ∀ done more e, done ++ more ++ [e] <+: events → e.owner ∈ (S.run done).claimants →
    runHeld (S.run done) e.owner (S.run done).clock = false →
    (S.run (done ++ more ++ [e])).schedule = (S.run (done ++ more)).schedule
  unit : ∀ done e tx id, done ++ [e] <+: events → (S.run done).transaction e = some tx →
    checkedUnit tx = some id → ((S.run done).outcome e).isSome →
    ∃ u, (S.run done).schedule.unit? id = some u ∧ assertClaim u.claim e.owner e.instants.granted

end Statement

section Step

/-- What every reachable state satisfies. -/
structure Invariant (S : SchedulerSystem) : Prop where
  keyed : Keyed SchedulerRunUnit.id S.schedule.units
  worked : Worked S.schedule
  complete : S.schedule.run.status = .SUCCEEDED → S.schedule.complete
  owner : ∀ w, S.schedule.run.leaseOwner = some w → w ∈ S.claimants

private theorem invariant_started (h : Started S) : Invariant S := by
  refine ⟨?_, ⟨?_, ?_⟩, ?_, ?_⟩
  · rw [h.units]
    exact List.nodup_nil
  · simp [h.effects]
  · simp [h.effects]
  · simp [h.pending]
  · simp [h.unowned]

/-- An event commits a transaction, or leaves the schedule and the claimants as they are. -/
private theorem after_cases (hallowed : Allowed S e) :
    (S.outcome e = none ∧ (S.after e).schedule = S.schedule ∧ (S.after e).claimants = S.claimants) ∨
    ∃ tx, S.transaction e = some tx ∧ (S.outcome e).isSome ∧
      Transacted S.schedule e.owner e.instants tx (S.after e).schedule ∧
      (S.after e).claimants =
        if isRunClaim (some tx) then e.owner :: S.claimants else S.claimants := by
  cases houtcome : S.outcome e with
  | none => exact .inl ⟨rfl, by simp [SchedulerSystem.after, houtcome], by simp [SchedulerSystem.after, houtcome]⟩
  | some s =>
    right
    obtain ⟨tx, htx, htransact⟩ := Option.bind_eq_some_iff.mp houtcome
    have hs : (S.after e).schedule = s := by simp [SchedulerSystem.after, houtcome]
    refine ⟨tx, htx, rfl, ?_, ?_⟩
    · rw [hs]
      exact transacted htransact hallowed.ended
    · simp [SchedulerSystem.after, houtcome, htx]

private theorem claimants_step (e : SchedulerEvent) (hw : w ∈ S.claimants) : w ∈ (S.after e).claimants := by
  unfold SchedulerSystem.after
  dsimp only
  split
  · exact List.mem_cons_of_mem _ hw
  · exact hw

private theorem invariant_step (hallowed : Allowed S e) (hinv : Invariant S) : Invariant (S.after e) := by
  rcases after_cases hallowed with ⟨-, hsame, hclaimants⟩ | ⟨tx, -, -, htransacted, hclaimants⟩
  · refine ⟨?_, ?_, ?_, ?_⟩ <;> rw [hsame]
    · exact hinv.keyed
    · exact hinv.worked
    · exact hinv.complete
    · rw [hclaimants]
      exact hinv.owner
  · refine ⟨htransacted.keyed hinv.keyed, htransacted.worked hinv.keyed hinv.worked,
      htransacted.complete, fun w hw => ?_⟩
    rcases htransacted.owner with hsame | hnone | ⟨hclaims, hnew⟩
    · exact claimants_step e (hinv.owner w (hsame ▸ hw))
    · rw [hnone] at hw
      cases hw
    · rw [hnew, Option.some.injEq] at hw
      rw [hclaimants, if_pos hclaims, hw]
      exact List.mem_cons_self

private theorem runDone_step (hallowed : Allowed S e) (hdone : S.schedule.run.status = .SUCCEEDED) :
    (S.after e).schedule = S.schedule := by
  rcases after_cases hallowed with ⟨-, hsame, -⟩ | ⟨tx, -, -, htransacted, -⟩
  · exact hsame
  · exact absurd hdone htransacted.unfinished

private theorem unitDone_step (hallowed : Allowed S e) (hinv : Invariant S) {u : SchedulerRunUnit}
    (hu : u ∈ S.schedule.units) (hdone : u.claim.status = .SUCCEEDED) :
    u ∈ (S.after e).schedule.units := by
  rcases after_cases hallowed with ⟨-, hsame, -⟩ | ⟨tx, -, -, htransacted, -⟩
  · rw [hsame]
    exact hu
  · exact htransacted.unitDone hinv.keyed hu hdone

/-- A worker that claimed the run and lost it does not get it back. -/
private theorem lost_step (hallowed : Allowed S e) (hw : w ∈ S.claimants)
    (hlost : runHeld S w S.clock = false) : runHeld (S.after e) w (S.after e).clock = false := by
  have hclock : (S.after e).clock = e.instants.ended := rfl
  have hlater : S.clock ≤ e.instants.ended := hallowed.serial.trans hallowed.ended
  rw [runHeld, Bool.eq_false_iff] at hlost ⊢
  rw [hclock]
  intro hheld
  rcases after_cases hallowed with ⟨-, hsame, -⟩ | ⟨tx, htx, -, htransacted, -⟩
  · rw [hsame] at hheld
    exact hlost (assertClaim_mono hheld hlater)
  · rcases htransacted.regained hallowed.serial hlater hheld with hbefore | ⟨hclaims, rfl⟩
    · exact hlost hbefore
    · exact hallowed.unique (by rw [htx]; exact hclaims) hw

private theorem reclaimed_step (hallowed : Allowed S e) (hw : w ∈ S.claimants)
    (hother : S.schedule.run.leaseOwner ≠ some w) : (S.after e).schedule.run.leaseOwner ≠ some w := by
  rcases after_cases hallowed with ⟨-, hsame, -⟩ | ⟨tx, htx, -, htransacted, -⟩
  · rw [hsame]
    exact hother
  · rcases htransacted.owner with hsame | hnone | ⟨hclaims, hnew⟩
    · rw [hsame]
      exact hother
    · rw [hnone]
      simp
    · rw [hnew, Ne, Option.some.injEq]
      rintro rfl
      exact hallowed.unique (by rw [htx]; exact hclaims) hw

/-- A worker that claimed the run writes only while it held it when that was checked. -/
private theorem writes_held (hallowed : Allowed S e) (hw : e.owner ∈ S.claimants) :
    (S.after e).schedule = S.schedule ∨ ∃ tx, S.transaction e = some tx ∧
      runHeld S e.owner (checkedAt e.instants tx) := by
  rcases after_cases hallowed with ⟨-, hsame, -⟩ | ⟨tx, htx, -, htransacted, -⟩
  · exact .inl hsame
  · rcases htransacted.held with hclaims | hheld
    · exact absurd hw (hallowed.unique (by rw [htx]; exact hclaims))
    · exact .inr ⟨tx, htx, hheld⟩

private theorem checkedAt_cases (t : Instants) (tx : SchedulerTx) :
    checkedAt t tx = t.granted ∨ checkedAt t tx = t.asked := by
  cases tx <;> simp [checkedAt]

/-- What outlasts the wait is held when the locks are granted. -/
private theorem held_granted {c : Claim} (houtlasts : OutlastsWait e c)
    (hheld : assertClaim c e.owner e.instants.asked) : assertClaim c e.owner e.instants.granted := by
  rw [assertClaim_iff] at hheld ⊢
  obtain ⟨hstatus, hvalid, howner, expiry, hexpiry, hlt⟩ := hheld
  exact ⟨hstatus, hvalid, howner, expiry, hexpiry, houtlasts expiry howner hexpiry hlt⟩

end Step

section Runs

private theorem run_keeps {I : SchedulerSystem → Prop} (hallowed : Throughout Allowed S events)
    (hstep : ∀ T e, Allowed T e → I T → I (T.after e)) (done more : List SchedulerEvent)
    (hsteps : done ++ more <+: events) (h : I (S.run done)) : I (S.run (done ++ more)) :=
  Runs.foldl_prefix_keep hstep hallowed done more hsteps h

private theorem invariant_run (hstart : Started S) (hallowed : Throughout Allowed S events)
    {done : List SchedulerEvent} (hdone : done <+: events) : Invariant (S.run done) :=
  run_keeps hallowed (fun _ _ ha h => invariant_step ha h) [] done hdone (invariant_started hstart)

private theorem run_append (done : List SchedulerEvent) (e : SchedulerEvent) :
    S.run (done ++ [e]) = (S.run done).after e := by
  rw [SchedulerSystem.run, List.foldl_append]
  rfl

private theorem leasesKept (hstart : Started S) (hallowed : Throughout Allowed S events) :
    LeasesKept S events where
  runDone done more hsteps hdone := by
    have hkeep := run_keeps (I := fun T => T.schedule = (S.run done).schedule) hallowed
      (fun T e ha h => (runDone_step ha (by rw [h]; exact hdone)).trans h) done more hsteps rfl
    exact hkeep
  unitDone done more hsteps u hu hdone := by
    have hinv := invariant_run hstart hallowed ((List.prefix_append _ _).trans hsteps)
    have hkeep := run_keeps (I := fun T => Invariant T ∧ u ∈ T.schedule.units) hallowed
      (fun T e ha h => ⟨invariant_step ha h.1, unitDone_step ha h.1 h.2 hdone⟩) done more hsteps ⟨hinv, hu⟩
    exact hkeep.2
  once done hdone := (invariant_run hstart hallowed hdone).worked.1
  complete done hdone hstatus u hu := by
    have hcomplete := (invariant_run hstart hallowed hdone).complete hstatus
    exact of_decide_eq_true (List.all_eq_true.mp hcomplete u hu)
  renewed done e seconds hsteps htx houtcome := by
    obtain ⟨s, hs⟩ := Option.isSome_iff_exists.mp houtcome
    rw [SchedulerSystem.outcome, htx, Option.bind_some, transact, Schedule.renewRunLease] at hs
    split at hs
    · rename_i hheld
      exact hheld.1
    · cases hs

private theorem reclaimedFenced (hallowed : Throughout Allowed S events) : ReclaimedFenced S events := by
  intro done more e hsteps hclaimed hother
  have hkeep := run_keeps
    (I := fun T => e.owner ∈ T.claimants ∧ T.schedule.run.leaseOwner ≠ some e.owner) hallowed
    (fun T e' ha h => ⟨claimants_step e' h.1, reclaimed_step ha h.1 h.2⟩) done more
    ((List.prefix_append _ _).trans hsteps) ⟨hclaimed, hother⟩
  rw [run_append]
  rcases writes_held (hallowed _ e hsteps) hkeep.1 with hsame | ⟨tx, -, hheld⟩
  · exact hsame
  · exact absurd (assertClaim_owner hheld) hkeep.2

private theorem lostFenced (hallowed : Throughout Allowed S events)
    (htimely : Throughout InTime S events) : LostFenced S events where
  run done more e hsteps hclaimed hlost := by
    have hkeep := run_keeps
      (I := fun T => e.owner ∈ T.claimants ∧ runHeld T e.owner T.clock = false) hallowed
      (fun T e' ha h => ⟨claimants_step e' h.1, lost_step ha h.1 h.2⟩) done more
      ((List.prefix_append _ _).trans hsteps) ⟨hclaimed, hlost⟩
    have hallowed' := hallowed _ e hsteps
    rw [run_append]
    rcases writes_held hallowed' hkeep.1 with hsame | ⟨tx, htx, hheld⟩
    · exact hsame
    · have hgranted : runHeld (S.run (done ++ more)) e.owner e.instants.granted := by
        rcases checkedAt_cases e.instants tx with hat | hat
        · rw [← hat]
          exact hheld
        · rw [hat] at hheld
          exact held_granted (htimely _ e hsteps tx htx hat).1 hheld
      have hclock := assertClaim_mono hgranted hallowed'.serial
      exact absurd hclock (Bool.eq_false_iff.mp hkeep.2)
  unit done e tx id hsteps htx hunit houtcome := by
    obtain ⟨s, hs⟩ := Option.isSome_iff_exists.mp houtcome
    rw [SchedulerSystem.outcome, htx, Option.bind_some] at hs
    obtain ⟨u, hu, hheld⟩ := unitHeld_of_transact hs hunit
    refine ⟨u, hu, ?_⟩
    rcases checkedAt_cases e.instants tx with hat | hat
    · rw [← hat]
      exact hheld
    · rw [hat] at hheld
      exact held_granted ((htimely _ e hsteps tx htx hat).2 id u hunit hu) hheld

end Runs

/-- Over every interleaving of any number of workers: what is done stays done, effects are committed once,
no expired lease is renewed, a worker whose run was reclaimed writes nothing more; and a worker whose lease
is lost writes nothing more when no transaction that reads the clock early waits for its row locks past the
end of a lease it checks. -/
theorem leases_safe (S : SchedulerSystem) (hstart : Started S) (events : List SchedulerEvent)
    (hallowed : Throughout Allowed S events) :
    LeasesKept S events ∧ ReclaimedFenced S events ∧
      (Throughout InTime S events → LostFenced S events) :=
  ⟨leasesKept hstart hallowed, reclaimedFenced hallowed, lostFenced hallowed⟩

section Samples

private instance (S : SchedulerSystem) (e : SchedulerEvent) : Decidable (Allowed S e) :=
  decidable_of_iff (e.instants.asked ≤ e.instants.granted ∧ S.clock ≤ e.instants.granted ∧
      e.instants.granted ≤ e.instants.ended ∧ (isRunClaim (S.transaction e) → e.owner ∉ S.claimants))
    ⟨fun ⟨h1, h2, h3, h4⟩ => ⟨h1, h2, h3, h4⟩, fun h => ⟨h.asked, h.serial, h.ended, h.unique⟩⟩

private theorem throughout_nil {C : SchedulerSystem → SchedulerEvent → Prop} : Throughout C S [] := by
  intro done e h
  simp at h

private theorem throughout_cons {C : SchedulerSystem → SchedulerEvent → Prop} (hfirst : C S e)
    (hrest : Throughout C (S.after e) events) : Throughout C S (e :: events) := by
  intro done x h
  cases done with
  | nil =>
    obtain rfl : x = e := (List.cons_prefix_cons.mp h).1
    exact hfirst
  | cons y done =>
    obtain ⟨rfl, hmore⟩ := List.cons_prefix_cons.mp h
    exact hrest done x hmore

private def sampleSystem : SchedulerSystem where
  schedule :=
    { run := { status := .PENDING, attemptCount := 0, leaseOwner := none, leaseExpiresAt := none
               startedAt := none, completedAt := none, lastError := none, updatedAt := 0 }
      units := [], effects := [] }
  claimants := []
  phase := fun _ => .claiming
  clock := 0

/-- An event of the task, its seconds, while one participation is active. -/
private def sampleTask (owner : String) (asked granted ended : Int) : SchedulerEvent where
  owner
  instants := { asked := asked * 1000000, granted := granted * 1000000, ended := ended * 1000000 }
  action := .task [(1, 1)] false

/-- A worker claims the run, takes its snapshot and renews its lease until second 300. -/
private def sampleClaimed : List SchedulerEvent :=
  [sampleTask "a" 0 0 0, sampleTask "a" 0 0 0, sampleTask "a" 0 0 0]

/-- Another worker is refused and keeps the row until second 301; the first one, which read the clock at
second 2, then claims the unit. -/
private def sampleOverslept : List SchedulerEvent :=
  sampleClaimed ++ [sampleTask "b" 1 1 301] ++ [sampleTask "a" 2 301 301]

private theorem sample_started : Started sampleSystem := ⟨rfl, rfl, rfl, rfl, rfl⟩

private theorem sample_allowed : Throughout Allowed sampleSystem sampleOverslept :=
  throughout_cons (by decide) <| throughout_cons (by decide) <|
    throughout_cons (by decide) <| throughout_cons (by decide) <|
      throughout_cons (by decide) throughout_nil

/-- A worker whose lease ended while it waited for the row claims a unit. -/
theorem overslept_claim_commits : Started sampleSystem ∧
    Throughout Allowed sampleSystem sampleOverslept ∧ ¬ LostFenced sampleSystem sampleOverslept := by
  refine ⟨sample_started, sample_allowed, fun h => ?_⟩
  have hclaimed : "a" ∈ (sampleSystem.run (sampleClaimed ++ [sampleTask "b" 1 1 301])).claimants := by
    decide
  have hlost : runHeld (sampleSystem.run (sampleClaimed ++ [sampleTask "b" 1 1 301])) "a"
      (sampleSystem.run (sampleClaimed ++ [sampleTask "b" 1 1 301])).clock = false := by
    decide
  have hwrites : (sampleSystem.run sampleOverslept).schedule ≠
      (sampleSystem.run (sampleClaimed ++ [sampleTask "b" 1 1 301])).schedule := by
    decide
  have hsame := h.run (sampleClaimed ++ [sampleTask "b" 1 1 301]) [] (sampleTask "a" 2 301 301)
    List.prefix_rfl hclaimed hlost
  exact hwrites hsame

private theorem inTime_of_prompt (h : e.instants.asked = e.instants.granted) : InTime S e := by
  have houtlasts : ∀ c, OutlastsWait e c := fun c expiry _ _ hlt => h ▸ hlt
  exact fun tx _ _ => ⟨houtlasts _, fun _ u _ _ => houtlasts _⟩

/-- Another worker takes the run over once the lease has ended, and the first one comes back. -/
private def sampleReclaimed : List SchedulerEvent :=
  sampleClaimed ++ [sampleTask "b" 301 301 301] ++ [sampleTask "a" 302 302 302]

private theorem sampleReclaimed_allowed : Throughout Allowed sampleSystem sampleReclaimed :=
  throughout_cons (by decide) <| throughout_cons (by decide) <|
    throughout_cons (by decide) <| throughout_cons (by decide) <|
      throughout_cons (by decide) throughout_nil

private theorem sampleReclaimed_inTime : Throughout InTime sampleSystem sampleReclaimed :=
  throughout_cons (inTime_of_prompt rfl) <| throughout_cons (inTime_of_prompt rfl) <|
    throughout_cons (inTime_of_prompt rfl) <| throughout_cons (inTime_of_prompt rfl) <|
      throughout_cons (inTime_of_prompt rfl) throughout_nil

/-- Two workers with prompt locks: the first loses its run and changes nothing any more. -/
theorem sample_leases_safe : LeasesKept sampleSystem sampleReclaimed ∧
    LostFenced sampleSystem sampleReclaimed ∧
    (sampleSystem.run (sampleClaimed ++ [sampleTask "b" 301 301 301])).schedule.run.leaseOwner = some "b" ∧
    (sampleSystem.run sampleReclaimed).schedule =
      (sampleSystem.run (sampleClaimed ++ [sampleTask "b" 301 301 301])).schedule := by
  obtain ⟨hkept, hreclaimed, hlost⟩ :=
    leases_safe sampleSystem sample_started sampleReclaimed sampleReclaimed_allowed
  have howner : (sampleSystem.run (sampleClaimed ++ [sampleTask "b" 301 301 301])).schedule.run.leaseOwner =
      some "b" := by decide
  have hclaimed : "a" ∈ (sampleSystem.run (sampleClaimed ++ [sampleTask "b" 301 301 301])).claimants := by
    decide
  have hother : (sampleSystem.run (sampleClaimed ++ [sampleTask "b" 301 301 301])).schedule.run.leaseOwner ≠
      some "a" := by
    rw [howner]
    decide
  have hsame := hreclaimed (sampleClaimed ++ [sampleTask "b" 301 301 301]) [] (sampleTask "a" 302 302 302)
    List.prefix_rfl hclaimed hother
  exact ⟨hkept, hlost sampleReclaimed_inTime, howner, hsame⟩

end Samples

end Caixinha.Properties.SchedulerLeases
