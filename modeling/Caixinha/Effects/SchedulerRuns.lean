import Caixinha.Model.SchedulerRuns
import Mathlib.Data.List.Nodup

/-! What one transaction of the scheduler can do, and what it needs to hold. -/
namespace Caixinha.Effects

open Caixinha.Library Caixinha.Library.Table Caixinha.Model

variable {s s' : Schedule} {w x : String} {t : Instants} {tx : SchedulerTx} {c c' : Claim} {now : Int}

section Claims

theorem assertClaim_iff : assertClaim c w now ↔ c.status = .RUNNING ∧ validOwner w ∧
    c.leaseOwner = some w ∧ ∃ e, c.leaseExpiresAt = some e ∧ now < e := by
  rw [assertClaim, decide_eq_true_eq]
  cases c.leaseExpiresAt <;> simp

/-- A lease that holds held before. -/
theorem assertClaim_mono {early : Int} (h : assertClaim c w now) (hle : early ≤ now) :
    assertClaim c w early := by
  rw [assertClaim_iff] at h ⊢
  obtain ⟨hstatus, hvalid, howner, e, hexpires, hlt⟩ := h
  exact ⟨hstatus, hvalid, howner, e, hexpires, by omega⟩

theorem assertClaim_running (h : assertClaim c w now) : c.status = .RUNNING := (assertClaim_iff.mp h).1

theorem assertClaim_owner (h : assertClaim c w now) : c.leaseOwner = some w := (assertClaim_iff.mp h).2.2.1

theorem takeClaim_spec {leaseSeconds : Int} (h : takeClaim c w now leaseSeconds = some c') :
    c.status ≠ .SUCCEEDED ∧ c'.status = .RUNNING ∧ c'.leaseOwner = some w := by
  unfold takeClaim at h
  split at h
  · cases h
  split at h
  · cases h
  rename_i hopen
  split at h
  · cases h
  · obtain rfl := Option.some.inj h
    exact ⟨hopen, rfl, rfl⟩

@[simp] theorem orphaned_status : (orphaned c w now).status = c.status := by
  unfold orphaned
  split <;> rfl

end Claims

section Transactions

/-- When a transaction reads the clock to check a lease: under its locks, or before it waits for them. -/
def checkedAt (t : Instants) : SchedulerTx → Int
  | .snapshot _ | .renewRun _ | .executeUnit _ | .finishRun => t.granted
  | .claimRun _ | .claimUnit _ _ | .succeedUnit _ | .failUnit _ _ | .succeedRun | .failRun _ => t.asked

/-- The unit whose own lease a transaction checks. -/
def checkedUnit : SchedulerTx → Option Nat
  | .executeUnit id | .succeedUnit id | .failUnit id _ => some id
  | _ => none

/-- What a committed transaction did. Beside a claim of the run, the run was held when it was checked,
and so was a unit that is checkpointed. -/
inductive Transacted (s : Schedule) (w : String) (t : Instants) (tx : SchedulerTx) : Schedule → Prop where
  | claimed (run : Claim) (claims : isRunClaim (some tx)) (unfinished : s.run.status ≠ .SUCCEEDED)
    (running : run.status = .RUNNING) (owner : run.leaseOwner = some w) :
    Transacted s w t tx { s with run }
  | snapshot (units : List SchedulerRunUnit) (held : assertClaim s.run w (checkedAt t tx))
    (first : s.units = []) (keyed : Keyed SchedulerRunUnit.id units)
    (fresh : ∀ u ∈ units, u.claim.status ≠ .SUCCEEDED) : Transacted s w t tx { s with units }
  | seen (held : assertClaim s.run w (checkedAt t tx)) : Transacted s w t tx s
  | renewed (run : Claim) (held : assertClaim s.run w (checkedAt t tx))
    (locked : checkedAt t tx = t.granted) (status : run.status = s.run.status)
    (owner : run.leaseOwner = s.run.leaseOwner) : Transacted s w t tx { s with run }
  | unit (unit : SchedulerRunUnit) (claim : Claim) (held : assertClaim s.run w (checkedAt t tx))
    (found : s.unit? unit.id = some unit) (unfinished : unit.claim.status ≠ .SUCCEEDED) :
    Transacted s w t tx (s.putUnit { unit with claim })
  | executed (unit : SchedulerRunUnit) (claim : Claim) (held : assertClaim s.run w (checkedAt t tx))
    (found : s.unit? unit.id = some unit) (unitHeld : assertClaim unit.claim w (checkedAt t tx))
    (succeeded : claim.status = .SUCCEEDED) :
    Transacted s w t tx { s.putUnit { unit with claim } with effects := s.effects ++ [unit.id] }
  | closed (run : Claim) (held : assertClaim s.run w (checkedAt t tx)) (complete : s.complete)
    (succeeded : run.status = .SUCCEEDED) (released : run.leaseOwner = none) :
    Transacted s w t tx { s with run }
  | failed (run : Claim) (held : assertClaim s.run w (checkedAt t tx)) (status : run.status = .FAILED)
    (released : run.leaseOwner = none) : Transacted s w t tx { s with run }

private theorem getOrCreateUnit_new {units : List SchedulerRunUnit} (key : String)
    (hkeyed : Keyed SchedulerRunUnit.id units) (hfresh : ∀ u ∈ units, u.claim.status ≠ .SUCCEEDED) :
    Keyed SchedulerRunUnit.id (Schedule.getOrCreateUnit now units key) ∧
      ∀ u ∈ Schedule.getOrCreateUnit now units key, u.claim.status ≠ .SUCCEEDED := by
  unfold Schedule.getOrCreateUnit
  split
  · exact ⟨hkeyed, hfresh⟩
  · refine ⟨keyed_append hkeyed rfl, fun u hu => ?_⟩
    rcases List.mem_append.mp hu with hu | hu
    · exact hfresh u hu
    · obtain rfl := List.mem_singleton.mp hu
      simp

private theorem createdUnits_new (now : Int) (keys : List String) {units : List SchedulerRunUnit}
    (hkeyed : Keyed SchedulerRunUnit.id units) (hfresh : ∀ u ∈ units, u.claim.status ≠ .SUCCEEDED) :
    Keyed SchedulerRunUnit.id (keys.foldl (Schedule.getOrCreateUnit now) units) ∧
      ∀ u ∈ keys.foldl (Schedule.getOrCreateUnit now) units, u.claim.status ≠ .SUCCEEDED := by
  induction keys generalizing units with
  | nil => exact ⟨hkeyed, hfresh⟩
  | cons key keys ih =>
    obtain ⟨hkeyed', hfresh'⟩ := getOrCreateUnit_new key hkeyed hfresh
    exact ih hkeyed' hfresh'

private theorem markRunSucceeded_spec {validatedAt completedAt : Int}
    (h : s.markRunSucceeded w validatedAt completedAt = some s') (hat : checkedAt t tx = validatedAt) :
    Transacted s w t tx s' := by
  subst hat
  unfold Schedule.markRunSucceeded at h
  split at h
  · rename_i hheld
    obtain rfl := Option.some.inj h
    exact .closed _ hheld.1 hheld.2 rfl rfl
  · cases h

private theorem markRunFailed_spec {code : Option String} {failedAt : Int}
    (h : s.markRunFailed w code failedAt = some s') (hle : checkedAt t tx ≤ failedAt) :
    Transacted s w t tx s' := by
  unfold Schedule.markRunFailed at h
  split at h
  · rename_i hheld
    obtain rfl := Option.some.inj h
    exact .failed _ (assertClaim_mono hheld hle) rfl rfl
  · cases h

private theorem lockedUnit_spec {id : Nat} {u : SchedulerRunUnit} (h : s.lockedUnit id w now = some u) :
    u.id = id ∧ s.unit? u.id = some u ∧ assertClaim s.run w now ∧ assertClaim u.claim w now := by
  rw [Schedule.lockedUnit, Option.filter_eq_some_iff, decide_eq_true_eq] at h
  obtain ⟨hfound, hheld⟩ := h
  have hid : u.id = id := lookup_key hfound
  exact ⟨hid, hid ▸ hfound, hheld⟩

private theorem running_ne_succeeded (h : assertClaim c w now) : c.status ≠ .SUCCEEDED := by
  rw [assertClaim_running h]
  simp

private theorem markUnitSucceeded_spec {id : Nat} {validatedAt completedAt : Int}
    (h : s.markUnitSucceeded id w validatedAt completedAt = some s') (hat : checkedAt t tx = validatedAt) :
    Transacted s w t tx s' := by
  subst hat
  obtain ⟨u, hu, rfl⟩ := Option.map_eq_some_iff.mp h
  obtain ⟨rfl, hfound, hheld, hunit⟩ := lockedUnit_spec hu
  exact .executed u _ hheld hfound hunit rfl

/-- Every committed transaction. -/
theorem transacted (h : transact s w t tx = some s') (hordered : t.granted ≤ t.ended) :
    Transacted s w t tx s' := by
  cases tx with
  | claimRun leaseSeconds =>
    obtain ⟨run, hrun, rfl⟩ := Option.map_eq_some_iff.mp h
    obtain ⟨hopen, hrunning, howner⟩ := takeClaim_spec hrun
    exact .claimed run rfl hopen hrunning howner
  | snapshot participations =>
    unfold transact at h
    dsimp only at h
    split at h
    · rename_i hheld
      unfold snapshotUnits at h
      split at h
      · rename_i hfirst
        have hnil : s.units = [] := List.isEmpty_iff.mp hfirst
        have hnone : Keyed SchedulerRunUnit.id [] := List.nodup_nil
        obtain ⟨hkeyed, hfresh⟩ := createdUnits_new t.granted
          (participations.map participationKey) hnone (by simp)
        rw [hnil] at h
        split at h
        · rename_i hempty
          rw [List.isEmpty_iff.mp hempty, ← hnil] at h
          exact markRunSucceeded_spec h rfl
        · obtain rfl := Option.some.inj h
          exact .snapshot _ hheld hnil hkeyed hfresh
      · obtain rfl := Option.some.inj h
        exact .seen hheld
    · cases h
  | renewRun leaseSeconds =>
    simp only [transact, Schedule.renewRunLease] at h
    split at h
    · rename_i hheld
      obtain rfl := Option.some.inj h
      exact .renewed _ hheld.1 rfl rfl rfl
    · cases h
  | claimUnit id leaseSeconds =>
    simp only [transact, Schedule.claimUnit, Option.bind_eq_bind, Option.bind_eq_some_iff] at h
    obtain ⟨unit, hfound, h⟩ := h
    split at h
    · cases h
    rename_i hheld
    obtain ⟨claim, hclaim, h⟩ := Option.bind_eq_some_iff.mp h
    obtain rfl := Option.some.inj h
    have hid : unit.id = id := lookup_key hfound
    have hopen := (takeClaim_spec hclaim).1
    rw [orphaned_status] at hopen
    exact .unit unit claim (not_not.mp hheld) (hid ▸ hfound) hopen
  | executeUnit id => exact markUnitSucceeded_spec h rfl
  | succeedUnit id => exact markUnitSucceeded_spec h rfl
  | failUnit id code =>
    obtain ⟨u, hu, rfl⟩ := Option.map_eq_some_iff.mp h
    obtain ⟨rfl, hfound, hheld, hunit⟩ := lockedUnit_spec hu
    exact .unit u _ hheld hfound (running_ne_succeeded hunit)
  | finishRun =>
    unfold transact at h
    dsimp only at h
    split at h
    · split at h
      · exact markRunSucceeded_spec h rfl
      · exact markRunFailed_spec h hordered
    · cases h
  | succeedRun => exact markRunSucceeded_spec h rfl
  | failRun code => exact markRunFailed_spec h (le_refl _)

/-- A transaction that checkpoints a unit found the unit held. -/
theorem unitHeld_of_transact {id : Nat} (h : transact s w t tx = some s') (hunit : checkedUnit tx = some id) :
    ∃ u, s.unit? id = some u ∧ assertClaim u.claim w (checkedAt t tx) := by
  have hheld : ∀ {at_ : Int} {u : SchedulerRunUnit}, s.lockedUnit id w at_ = some u →
      ∃ u, s.unit? id = some u ∧ assertClaim u.claim w at_ := by
    intro at_ u hu
    obtain ⟨rfl, hfound, -, hunit⟩ := lockedUnit_spec hu
    exact ⟨u, hfound, hunit⟩
  cases tx with
  | executeUnit k | succeedUnit k | failUnit k _ =>
    obtain rfl := Option.some.inj hunit
    obtain ⟨u, hu, -⟩ := Option.map_eq_some_iff.mp h
    exact hheld hu
  | _ => cases hunit

end Transactions

section Kept

/-- A run that is done lets nothing be committed. -/
theorem Transacted.unfinished (h : Transacted s w t tx s') : s.run.status ≠ .SUCCEEDED := by
  cases h with
  | claimed run claims hunfinished => exact hunfinished
  | snapshot units hheld | seen hheld | renewed run hheld | unit unit claim hheld
  | executed unit claim hheld | closed run hheld | failed run hheld => exact running_ne_succeeded hheld

private theorem kept_putUnit {unit u : SchedulerRunUnit} {claim : Claim}
    (hkeyed : Keyed SchedulerRunUnit.id s.units) (hfound : s.unit? unit.id = some unit)
    (hunfinished : unit.claim.status ≠ .SUCCEEDED) (hu : u ∈ s.units)
    (hdone : u.claim.status = .SUCCEEDED) : u ∈ (s.putUnit { unit with claim }).units := by
  have hne : u.id ≠ unit.id := by
    intro hid
    obtain rfl := eq_of_mem_of_key hkeyed hu (lookup_mem hfound) hid
    exact hunfinished hdone
  refine List.mem_map.mpr ⟨u, hu, ?_⟩
  rw [if_neg hne]

theorem Transacted.unitDone (h : Transacted s w t tx s')
    (hkeyed : Keyed SchedulerRunUnit.id s.units) {u : SchedulerRunUnit} (hu : u ∈ s.units)
    (hdone : u.claim.status = .SUCCEEDED) : u ∈ s'.units := by
  cases h with
  | snapshot units hheld hfirst =>
    rw [hfirst] at hu
    cases hu
  | unit unit claim hheld hfound hunfinished => exact kept_putUnit hkeyed hfound hunfinished hu hdone
  | executed unit claim hheld hfound hunit =>
    exact kept_putUnit hkeyed hfound (running_ne_succeeded hunit) hu hdone
  | claimed | seen | renewed | closed | failed => exact hu

theorem Transacted.keyed (h : Transacted s w t tx s')
    (hkeyed : Keyed SchedulerRunUnit.id s.units) : Keyed SchedulerRunUnit.id s'.units := by
  cases h with
  | snapshot units hheld hfirst hunits => exact hunits
  | unit | executed => exact keyed_replace hkeyed
  | claimed | seen | renewed | closed | failed => exact hkeyed

/-- The effects of these units are committed, once each, and the units are done. -/
def Worked (s : Schedule) : Prop :=
  s.effects.Nodup ∧ ∀ id ∈ s.effects, ∃ u ∈ s.units, u.id = id ∧ u.claim.status = .SUCCEEDED

theorem Transacted.worked (h : Transacted s w t tx s')
    (hkeyed : Keyed SchedulerRunUnit.id s.units) (hworked : Worked s) : Worked s' := by
  have hstay : ∀ id ∈ s.effects, ∃ u ∈ s'.units, u.id = id ∧ u.claim.status = .SUCCEEDED := by
    intro id hid
    obtain ⟨u, hu, hkey, hdone⟩ := hworked.2 id hid
    exact ⟨u, h.unitDone hkeyed hu hdone, hkey, hdone⟩
  cases h with
  | executed unit claim hheld hfound hunit hsucceeded =>
    refine ⟨List.nodup_append.mpr ⟨hworked.1, List.nodup_singleton _, ?_⟩, fun id hid => ?_⟩
    · rintro id hid x hx rfl
      obtain rfl := List.mem_singleton.mp hx
      obtain ⟨u, hu, hkey, hdone⟩ := hworked.2 _ hid
      obtain rfl := eq_of_mem_of_key hkeyed hu (lookup_mem hfound) hkey
      exact running_ne_succeeded hunit hdone
    · rcases List.mem_append.mp hid with hid | hid
      · exact hstay id hid
      · obtain rfl := List.mem_singleton.mp hid
        exact ⟨{ unit with claim }, mem_replace_self (x := unit) hfound, rfl, hsucceeded⟩
  | claimed | snapshot | seen | renewed | unit | closed | failed => exact ⟨hworked.1, hstay⟩

theorem Transacted.complete (h : Transacted s w t tx s') (hdone : s'.run.status = .SUCCEEDED) :
    s'.complete := by
  have hbefore := h.unfinished
  cases h with
  | claimed run claims hunfinished hrunning =>
    rw [hrunning] at hdone
    cases hdone
  | closed run hheld hcomplete => exact hcomplete
  | failed run hheld hfailed =>
    rw [hfailed] at hdone
    cases hdone
  | renewed run hheld hlocked hstatus => exact absurd (hstatus ▸ hdone) hbefore
  | snapshot | seen | unit | executed => exact absurd hdone hbefore

/-- The owner of the run stays, goes, or is the worker that claims it. -/
theorem Transacted.owner (h : Transacted s w t tx s') :
    s'.run.leaseOwner = s.run.leaseOwner ∨ s'.run.leaseOwner = none ∨
      (isRunClaim (some tx) ∧ s'.run.leaseOwner = some w) := by
  cases h with
  | claimed run claims hunfinished hrunning hnew => exact .inr (.inr ⟨claims, hnew⟩)
  | closed run hheld hcomplete hsucceeded hreleased => exact .inr (.inl hreleased)
  | failed run hheld hfailed hreleased => exact .inr (.inl hreleased)
  | renewed run hheld hlocked hstatus hsame => exact .inl hsame
  | snapshot | seen | unit | executed => exact .inl rfl

/-- A worker writes by claiming the run, or while it held it when that was checked. -/
theorem Transacted.held (h : Transacted s w t tx s') :
    isRunClaim (some tx) ∨ assertClaim s.run w (checkedAt t tx) := by
  cases h with
  | claimed run claims => exact .inl claims
  | snapshot units hheld | seen hheld | renewed run hheld | unit unit claim hheld
  | executed unit claim hheld | closed run hheld | failed run hheld => exact .inr hheld

/-- A worker gets a lease it had lost only by claiming the run: a lease is renewed under its locks. -/
theorem Transacted.regained (h : Transacted s w t tx s') {clock later : Int}
    (hserial : clock ≤ t.granted) (hlater : clock ≤ later) (hheld : assertClaim s'.run x later) :
    assertClaim s.run x clock ∨ (isRunClaim (some tx) ∧ x = w) := by
  cases h with
  | claimed run claims hunfinished hrunning hnew =>
    have howner := assertClaim_owner hheld
    rw [hnew, Option.some.injEq] at howner
    exact .inr ⟨claims, howner.symm⟩
  | renewed run hrun hlocked hstatus hsame =>
    left
    have howner := assertClaim_owner hheld
    rw [hsame, assertClaim_owner hrun, Option.some.injEq] at howner
    rw [hlocked] at hrun
    exact howner ▸ assertClaim_mono hrun hserial
  | closed run hrun hcomplete hsucceeded =>
    have := assertClaim_running hheld
    rw [hsucceeded] at this
    cases this
  | failed run hrun hfailed =>
    have := assertClaim_running hheld
    rw [hfailed] at this
    cases this
  | snapshot | seen | unit | executed => exact .inl (assertClaim_mono hheld hlater)

end Kept

end Caixinha.Effects
