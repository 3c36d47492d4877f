import Caixinha.Effects.PenaltySteps
import Caixinha.Library.Runs

/-! The two penalty regimes: over any history of worker runs, materializations and other operations, the
penalty of a versioned installment stays within its event ledger exactly when the worker skips it. -/
namespace Caixinha.Properties.PenaltyRegimes

open Caixinha.Library Caixinha.Library.Table Caixinha.Library.Decimal Fallible
open Caixinha.Model Caixinha.Effects

variable {env : Env} {db db' start : Db} {onDate : Int} {rate : Number}

/-- The installment is under late charge v1. -/
def Versioned (env : Env) (inst : LoanInstallment) : Prop :=
  isLateChargeEligible inst.dueDate env.lateChargeEffectiveDate

/-- No versioned penalty exceeds what the event ledger of its installment holds. -/
def WithinLedger (env : Env) (db : Db) : Prop :=
  ∀ inst ∈ db.loanInstallments, Versioned env inst →
    inst.penaltyAmount ≤ ledgerCharges inst.id db.lateChargeEvents

/-- The versioned installments are the same rows after the step. -/
def LeavesVersioned (env : Env) (db db' : Db) : Prop :=
  ∀ inst ∈ db.loanInstallments, Versioned env inst → db'.installment? inst.id = some inst

/-- A worker run that goes through counts days on no versioned installment: each is paid, not overdue or
already counted through the day, or the rate is zero. -/
def SkipsVersioned (env : Env) (db : Db) (onDate : Int) (rate : Number) : Prop :=
  (∃ db', accrueOverduePenalties db onDate rate = .ok db') →
    ∀ inst ∈ db.loanInstallments, Versioned env inst → ¬ Penalized inst onDate rate

/-- What holds in every state of a run. -/
structure Apart (env : Env) (db : Db) : Prop where
  sound : Sound db
  books : RegularBooks env db

theorem Apart.within (h : Apart env db) : WithinLedger env db := by
  intro inst hinst hversioned
  exact (h.books inst.id inst (lookup_of_mem h.sound.installments hinst)).within hversioned

/-- Installments without charges, as they are created, are regular. -/
theorem apart_of_fresh (hs : Sound db) (hevents : db.lateChargeEvents = [])
    (hfresh : ∀ inst ∈ db.loanInstallments, inst.lateCharge = none ∧ inst.penaltyAmount ≤ 0) :
    Apart env db := by
  refine ⟨hs, fun id inst hinst => ?_⟩
  obtain ⟨hnone, hpenalty⟩ := hfresh inst (lookup_mem hinst)
  have hprojection : inst.projection = noLateCharge := by
    rw [LoanInstallment.projection, hnone, Option.getD_none]
  rw [hevents]
  refine ⟨⟨Nat.zero_le _, ?_, ?_⟩, fun _ => hpenalty⟩
  · rw [hprojection]
    rfl
  · rw [hprojection]
    rfl

/-- A worker run may be anything, the other steps keep the regimes apart by themselves. -/
def Proper (env : Env) (db : Db) : PenaltyStep → Prop
  | .accrue onDate rate => SkipsVersioned env db onDate rate
  | .assess .. | .accrueLate .. | .operate .. => True

theorem sound_next (hs : Sound db) (step : PenaltyStep) : Sound (step.next env db) := by
  unfold PenaltyStep.next
  cases hok : step.apply env db with
  | error e => exact hs
  | ok db' =>
    have hsound : Step (fun _ => True) False (fun _ => False) db db' → Sound db' := fun hstep =>
      hstep.sound hs
    cases step with
    | accrue onDate rate => exact hsound (step_accrue hok)
    | assess installmentId throughDate =>
      obtain ⟨⟨final, event⟩, hassess, rfl⟩ := map_eq_ok.mp hok
      exact hsound (step_charged (charged_materializeFixedPenalty hs.installments hassess))
    | accrueLate installmentId throughDate =>
      obtain ⟨⟨final, created⟩, haccrue, rfl⟩ := map_eq_ok.mp hok
      exact hsound (step_charged (charged_materializeDailyLateInterest hs.installments haccrue))
    | operate clock op =>
      exact (steps_keep (P := fun _ => True) (steps_attempt hs hok) (fun _ _ _ _ _ => trivial) hs
        trivial).1

theorem Apart.next (h : Apart env db) {step : PenaltyStep} (hproper : Proper env db step) :
    Apart env (step.next env db) := by
  refine ⟨sound_next h.sound step, ?_⟩
  unfold PenaltyStep.next
  cases hok : step.apply env db with
  | error e => exact h.books
  | ok db' =>
    cases step with
    | accrue onDate rate => exact regular_accrue h.books (hproper ⟨db', hok⟩) hok
    | assess installmentId throughDate =>
      obtain ⟨⟨final, event⟩, hassess, rfl⟩ := map_eq_ok.mp hok
      exact regular_materializeFixedPenalty h.books hassess
    | accrueLate installmentId throughDate =>
      obtain ⟨⟨final, created⟩, haccrue, rfl⟩ := map_eq_ok.mp hok
      exact regular_materializeDailyLateInterest h.books haccrue
    | operate clock op => exact regular_attempt h.sound h.books hok

/-- A worker run leaves the versioned installments exactly when it skips them. -/
theorem leavesVersioned_iff (hs : Sound db) :
    LeavesVersioned env db ((PenaltyStep.accrue onDate rate).next env db) ↔
      SkipsVersioned env db onDate rate := by
  unfold PenaltyStep.next
  cases hok : (PenaltyStep.accrue onDate rate).apply env db with
  | error e =>
    refine ⟨fun _ => ?_, fun _ inst hinst _ => lookup_of_mem hs.installments hinst⟩
    rintro ⟨db', hdb'⟩
    cases hok.symm.trans hdb'
  | ok db' =>
    change accrueOverduePenalties db onDate rate = .ok db' at hok
    have hrow : ∀ inst ∈ db.loanInstallments,
        (db'.installment? inst.id = some inst ↔ ¬ Penalized inst onDate rate) := by
      intro inst hinst
      have hrel := @lookup_forall₂ _ LoanInstallment.id _ _ _ (accrue_rows hok).1 (fun i j hij => ?_)
        inst.id
      · rw [lookup_of_mem hs.installments hinst] at hrel
        cases hfound : db'.installment? inst.id with
        | none =>
          rw [Db.installment?] at hfound
          rw [hfound] at hrel
          cases hrel
        | some j =>
          rw [Db.installment?] at hfound
          rw [hfound] at hrel
          cases hrel with
          | some hstep =>
            obtain ⟨increment, hstep⟩ := hstep
            rw [Option.some.injEq]
            exact accrueInstallment_same_iff hstep
      · obtain ⟨increment, hstep⟩ := hij
        obtain ⟨⟨penalty, day, rfl⟩, -⟩ := accrueInstallment_spec hstep
        rfl
    constructor
    · exact fun h _ inst hinst hversioned => (hrow inst hinst).mp (h inst hinst hversioned)
    · exact fun h inst hinst hversioned => (hrow inst hinst).mpr (h ⟨db', hok⟩ inst hinst hversioned)

/-- In every state of a run the versioned penalties stay within the event ledger, and no worker run
changes a versioned installment, if and only if every worker run skips them. -/
theorem regimes_apart_iff (hs : Sound start) (hbooks : RegularBooks env start)
    (steps : List PenaltyStep) :
    ((∀ done, done <+: steps → WithinLedger env (penaltyRun env start done)) ∧
      ∀ done onDate rate, done ++ [.accrue onDate rate] <+: steps →
        LeavesVersioned env (penaltyRun env start done)
          (penaltyRun env start (done ++ [.accrue onDate rate]))) ↔
    ∀ done onDate rate, done ++ [.accrue onDate rate] <+: steps →
      SkipsVersioned env (penaltyRun env start done) onDate rate := by
  have hnext : ∀ done step, penaltyRun env start (done ++ [step]) =
      step.next env (penaltyRun env start done) := fun done step => List.foldl_concat ..
  have hsound : ∀ done, Sound (penaltyRun env start done) :=
    Runs.foldl_invariant (I := Sound) (fun _ step hdb => sound_next hdb step) hs
  constructor
  · rintro ⟨-, hleaves⟩ done onDate rate hsteps
    have hstep := hleaves done onDate rate hsteps
    rw [hnext] at hstep
    exact (leavesVersioned_iff (hsound done)).mp hstep
  · intro hskips
    have hapart : ∀ done, done <+: steps → Apart env (penaltyRun env start done) := by
      intro done hdone
      refine @Runs.foldl_prefix_keep _ _ _ (Apart env) _ (Proper env) (fun db step hproper hdb =>
        hdb.next hproper) steps (fun done step hsteps => ?_) [] done hdone ⟨hs, hbooks⟩
      cases step with
      | accrue onDate rate => exact hskips done onDate rate hsteps
      | assess => trivial
      | accrueLate => trivial
      | operate => trivial
    refine ⟨fun done hdone => (hapart done hdone).within, fun done onDate rate hsteps => ?_⟩
    rw [hnext]
    exact (leavesVersioned_iff (hsound done)).mpr (hskips done onDate rate hsteps)

section Samples

private def sampleInstallment : LoanInstallment where
  id := 1
  loanId := 1
  number := 1
  dueDate := 20000
  principal := 100000
  interest := 0
  amount := 100000
  paidAmount := 0
  penaltyAmount := 0
  paidPenaltyAmount := 0
  lateCharge := none
  paidAt := none
  status := .PENDING

private def sampleLoan : Loan where
  id := 1
  memberId := 1
  principal := 100000
  principalSettledWithOwnBalance := 0
  calculationVersion := none
  status := .ACTIVE
  disbursedAt := some 0
  paidAt := none
  stateRevision := 0

private def sampleDb : Db where
  members := [{ id := 1 }]
  loans := [sampleLoan]
  loanInstallments := [sampleInstallment]

private def sampleEnv : Env where
  sha256 := fun _ => ""
  lateChargeEffectiveDate := some 19900

private theorem sampleDb_apart : Apart sampleEnv sampleDb := by
  refine apart_of_fresh ?_ rfl ?_
  · constructor
    case ledger => constructor <;> simp [sampleDb, Keyed]
    all_goals simp [sampleDb, Keyed]
  · intro inst hinst
    rw [List.mem_singleton.mp hinst]
    exact ⟨rfl, by decide⟩

/-- One worker run at one per cent a day: a versioned installment shows a penalty its ledger does not
hold. -/
theorem worker_mixes_regimes : Sound sampleDb ∧ RegularBooks sampleEnv sampleDb ∧
    ∃ accrued, accrueOverduePenalties sampleDb 20011 ⟨1, -2⟩ = .ok accrued ∧
      (accrued.installment? 1).map (·.penaltyAmount) = some 11000 ∧
      ledgerCharges 1 accrued.lateChargeEvents = 0 ∧
      ¬ WithinLedger sampleEnv (penaltyRun sampleEnv sampleDb [.accrue 20011 ⟨1, -2⟩]) := by
  obtain ⟨accrued, haccrued, hpenalty, hledger⟩ : ∃ accrued,
      accrueOverduePenalties sampleDb 20011 ⟨1, -2⟩ = .ok accrued ∧
      (accrued.installment? 1).map (·.penaltyAmount) = some 11000 ∧
      ledgerCharges 1 accrued.lateChargeEvents = 0 := ⟨_, rfl, rfl, rfl⟩
  refine ⟨sampleDb_apart.sound, sampleDb_apart.books, accrued, haccrued, hpenalty, hledger, fun h => ?_⟩
  have hrun : penaltyRun sampleEnv sampleDb [.accrue 20011 ⟨1, -2⟩] = accrued := by
    change (PenaltyStep.accrue 20011 ⟨1, -2⟩).next sampleEnv sampleDb = accrued
    rw [PenaltyStep.next, PenaltyStep.apply, haccrued]
  obtain ⟨inst, hinst, hamount⟩ := Option.map_eq_some_iff.mp hpenalty
  rw [hrun] at h
  have hversioned : Versioned sampleEnv inst := by
    have hdue : (accrued.installment? 1).map (·.dueDate) = some 20000 := by
      cases haccrued
      rfl
    rw [hinst, Option.map_some, Option.some.injEq] at hdue
    rw [Versioned, hdue]
    rfl
  have hwithin := h inst (lookup_mem hinst) hversioned
  have hid : inst.id = 1 := lookup_key hinst
  rw [hid, hledger, hamount] at hwithin
  omega

/-- An installment under late charge v1 that is not due yet, and an overdue one from before it. -/
private def mixedRegimes : Db :=
  { sampleDb with
    loanInstallments := [sampleInstallment, { sampleInstallment with id := 2, number := 2, dueDate := 19800 }] }

private theorem mixedRegimes_apart : Apart sampleEnv mixedRegimes := by
  refine apart_of_fresh ?_ rfl ?_
  · constructor
    case ledger => constructor <;> simp [mixedRegimes, sampleDb, Keyed]
    all_goals simp [mixedRegimes, sampleDb, sampleInstallment, Keyed]
  · decide

/-- The worker's day, and the day the versioned installment is assessed. -/
private def sampleSteps : List PenaltyStep := [.accrue 19990 ⟨1, -2⟩, .assess 1 20011]

private theorem sample_skips (done : List PenaltyStep) (onDate : Int) (rate : Number)
    (h : done ++ [.accrue onDate rate] <+: sampleSteps) :
    SkipsVersioned sampleEnv (penaltyRun sampleEnv mixedRegimes done) onDate rate := by
  obtain rfl | ⟨x, done, rfl⟩ : done = [] ∨ ∃ x more, done = x :: more := by cases done <;> simp
  · obtain ⟨hstep, -⟩ := List.cons_prefix_cons.mp h
    obtain ⟨rfl, rfl⟩ := PenaltyStep.accrue.inj hstep
    rintro - inst hinst hversioned ⟨hoverdue, -⟩
    have hdue : ∀ inst ∈ mixedRegimes.loanInstallments, Versioned sampleEnv inst → inst.dueDate = 20000 := by
      simp [mixedRegimes, sampleInstallment, Versioned, sampleEnv, isLateChargeEligible]
    have := hdue inst hinst hversioned
    omega
  · obtain ⟨-, hmore⟩ := List.cons_prefix_cons.mp h
    cases done with
    | nil => cases (List.cons_prefix_cons.mp hmore).1
    | cons y done =>
      obtain ⟨-, hrest⟩ := List.cons_prefix_cons.mp hmore
      simp at hrest

/-- The worker at one per cent a day charges the old installment and the events the new one. -/
theorem sample_regimes_apart :
    ((∀ done, done <+: sampleSteps → WithinLedger sampleEnv (penaltyRun sampleEnv mixedRegimes done)) ∧
      ∀ done onDate rate, done ++ [.accrue onDate rate] <+: sampleSteps →
        LeavesVersioned sampleEnv (penaltyRun sampleEnv mixedRegimes done)
          (penaltyRun sampleEnv mixedRegimes (done ++ [.accrue onDate rate]))) ∧
    (penaltyRun sampleEnv mixedRegimes sampleSteps).loanInstallments.map (·.penaltyAmount) = [0, 190000] ∧
    ledgerCharges 1 (penaltyRun sampleEnv mixedRegimes sampleSteps).lateChargeEvents = 1000 :=
  ⟨(regimes_apart_iff mixedRegimes_apart.sound mixedRegimes_apart.books sampleSteps).mpr sample_skips,
    by decide, by decide⟩

end Samples

end Caixinha.Properties.PenaltyRegimes
