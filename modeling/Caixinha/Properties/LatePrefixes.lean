import Caixinha.Effects.LateSteps
import Caixinha.Library.Runs

/-! The late-charge ledger of an installment stays readable through every date exactly when no
correction takes more than the ledger holds on the day it is dated and after. -/
namespace Caixinha.Properties.LatePrefixes

open Caixinha.Library Caixinha.Library.Table Caixinha.Library.DatedSum Fallible Runs Caixinha.Model
open Caixinha.Effects

/-- The late interest on record can be read through every date, and no accrual ends in the error of a
negative balance. -/
def Readable (id : Nat) (db : Db) : Prop :=
  (∀ day, ∃ amount, lateInterestMaterialized db id (some day) = .ok amount) ∧
    ∀ throughDate effectiveDate, materializeDailyLateInterest db id throughDate effectiveDate ≠
      .error (.valueError "Mora materializada não pode ser negativa.")

/-- The ledger holds what a step that goes through takes from it: on the day of the correction and on
every later one, and counted from the due date on if the correction is dated after it. -/
def Fits (id : Nat) (db : Db) (step : LateStep) : Prop :=
  ∀ inst db' day delta, db.installment? id = some inst → step.apply id db = .ok db' →
    booking id db inst step = some (day, delta) → ∀ d, day ≤ d →
      0 ≤ lateOn (fun x => x ≤ d) id db.lateChargeEvents + delta ∧
        (inst.dueDate < day → 0 ≤ runningBefore inst.dueDate (d + 1) id db.lateChargeEvents + delta)

/-- No balance of the ledger is negative, counted from the start or from the due date. -/
structure Nonnegative (id : Nat) (db : Db) (dueDate : Int) : Prop where
  through : ∀ day, 0 ≤ lateOn (fun d => d ≤ day) id db.lateChargeEvents
  overdue : ∀ day, dueDate < day → 0 ≤ runningBefore dueDate (day + 1) id db.lateChargeEvents

section Reading
variable {id : Nat} {db : Db} {inst : LoanInstallment} {throughDate : Int} {effectiveDate : Option Int}
  {rows : List (Int × Int × Int)}

/-- A call on an overdue installment under the version, written as its three parts. -/
private theorem materialize_eq (h : LateBooks id db inst)
    (heligible : isLateChargeEligible inst.dueDate effectiveDate = true)
    (hthrough : inst.dueDate < throughDate) (hrows : dailyLateSchedule db inst throughDate = .ok rows) :
    materializeDailyLateInterest db id throughDate effectiveDate = (do
      let accrual ← accrueAll id db inst.dueDate rows
      let late ← lateInterestMaterialized accrual.db id none
      let flushed ← flushInstallment accrual.db { inst with lateCharge := some { inst.projection with
        accruedThroughDate := (accruedDays accrual.db id).foldl
          (fun cursor day => some (cursor.elim day (max day))) inst.projection.accruedThroughDate
        lateInterestAmount := late } }
      return (flushed, accrual.created)) := by
  have hsome : ¬ effectiveDate.isNone := by
    cases effectiveDate with
    | none => cases heligible
    | some d => exact Bool.false_ne_true
  unfold materializeDailyLateInterest
  rw [if_neg hsome, lockInstallment, h.row, orRefuse, ok_bind, if_neg (not_not.mpr heligible),
    if_neg (not_le.mpr hthrough), hrows, ok_bind, h.id_eq]
  rfl

private theorem ok_of_nonneg {through : Option Int}
    (h : 0 ≤ lateOn (fun d => through.all (d ≤ ·)) id db.lateChargeEvents) :
    ∃ amount, lateInterestMaterialized db id through = .ok amount :=
  ⟨_, lateInterestMaterialized_eq_ok.mpr ⟨rfl, h⟩⟩

private theorem avoids_flush {inst : LoanInstallment} (db : Db) (message : String) :
    flushInstallment db inst ≠ .error (.valueError message) := by
  intro h
  have havoids : Avoids (fun e => e = .valueError message) (flushInstallment db inst) := by
    have hconstraint : ∀ (p : Prop) [Decidable p] (name : String),
        Avoids (fun e => e = Error.valueError message) (requireConstraint p name) := by
      intro p _ name
      unfold requireConstraint
      split
      · exact avoids_ok ()
      · rw [avoids_error]
        exact nofun
    unfold flushInstallment
    split
    · exact avoids_bind (avoids_pure ()) fun _ _ => avoids_pure _
    · refine avoids_bind ?_ fun _ _ => avoids_pure _
      unfold checkProjection
      exact avoids_bind (hconstraint _ _) fun _ _ => avoids_bind (hconstraint _ _) fun _ _ =>
        avoids_bind (hconstraint _ _) fun _ _ => avoids_bind (hconstraint _ _) fun _ _ =>
          avoids_bind (hconstraint _ _) fun _ _ => hconstraint _ _
  exact havoids _ h rfl

/-- A ledger without a negative balance can be read. -/
theorem readable_of_nonnegative (h : LateBooks id db inst) (hn : Nonnegative id db inst.dueDate) :
    Readable id db := by
  refine ⟨fun day => ok_of_nonneg (by rw [lateOn_all_some]; exact hn.through day), ?_⟩
  intro throughDate effectiveDate herror
  by_cases heligible : isLateChargeEligible inst.dueDate effectiveDate = true
  swap
  · unfold materializeDailyLateInterest at herror
    rw [lockInstallment, h.row, orRefuse, ok_bind, if_pos heligible] at herror
    split at herror <;> cases herror
  by_cases hthrough : throughDate ≤ inst.dueDate
  · unfold materializeDailyLateInterest at herror
    rw [lockInstallment, h.row, orRefuse, ok_bind, if_neg (not_not.mpr heligible), if_pos hthrough] at herror
    split at herror <;> cases herror
  obtain ⟨rows, hrows⟩ := dailyLateSchedule_ok (h.id_eq ▸ h.givesBack : GivesBack db inst.id) throughDate
  obtain ⟨hconsecutive, -⟩ := consecutive_dailyLateSchedule hrows
  obtain ⟨final, hfinal⟩ := accrueAll_ok hconsecutive hn.overdue
  rw [materialize_eq h heligible (not_le.mp hthrough) hrows, hfinal, ok_bind] at herror
  obtain ⟨new, haccrued, -⟩ := h.accrueAll_spec (not_le.mp hthrough) hrows hfinal
  have hgrows : 0 ≤ lateOn (fun _ => True) id final.db.lateChargeEvents := by
    have hnew : 0 ≤ lateOn (fun _ => True) id new := sumOn_nonneg haccrued.delta_nonneg
    have hsum : lateOn (fun _ => True) id final.db.lateChargeEvents =
        lateOn (fun _ => True) id db.lateChargeEvents + lateOn (fun _ => True) id new := by
      rw [haccrued.db_eq]
      exact lateOn_append
    have hall := h.total_nonneg hn.through
    omega
  obtain ⟨late, hlate⟩ : ∃ late, lateInterestMaterialized final.db id none = .ok late :=
    ok_of_nonneg (by rw [lateOn_all_none]; exact hgrows)
  rw [hlate, ok_bind] at herror
  cases hflush : flushInstallment final.db { inst with lateCharge := some { inst.projection with
      accruedThroughDate := (accruedDays final.db id).foldl
        (fun cursor day => some (cursor.elim day (max day))) inst.projection.accruedThroughDate
      lateInterestAmount := late } } with
  | ok flushed =>
    rw [hflush] at herror
    cases herror
  | error e =>
    rw [hflush] at herror
    have he : e = .valueError "Mora materializada não pode ser negativa." := Except.error.inj herror
    exact avoids_flush _ _ (he ▸ hflush)

/-- And a ledger that can be read has none. -/
theorem nonnegative_of_readable (h : LateBooks id db inst) (hr : Readable id db) :
    Nonnegative id db inst.dueDate where
  through := by
    intro day
    obtain ⟨amount, hamount⟩ := hr.1 day
    obtain ⟨heq, hnonneg⟩ := lateInterestMaterialized_eq_ok.mp hamount
    rwa [heq, lateOn_all_some] at hnonneg
  overdue := by
    intro day hday
    by_contra hneg
    cases hc : inst.projection.accruedThroughDate with
    | none => exact hneg (h.sum_none hc).ge
    | some c =>
      have hdue : inst.dueDate < min day c := lt_min hday (h.due_lt hc)
      have hsame : runningBefore inst.dueDate (min day c + 1) id db.lateChargeEvents =
          runningBefore inst.dueDate (day + 1) id db.lateChargeEvents := by
        refine h.sum_congr fun cursor d hcursor hd => ?_
        rw [hc, Option.some.injEq] at hcursor
        omega
      obtain ⟨rows, hrows⟩ := dailyLateSchedule_ok (h.id_eq ▸ h.givesBack : GivesBack db inst.id)
        (min day c)
      obtain ⟨hconsecutive, hlength⟩ := consecutive_dailyLateSchedule hrows
      have herror : accrueAll id db inst.dueDate rows =
          .error (.valueError "Mora materializada não pode ser negativa.") := by
        refine accrueAll_error hconsecutive (by omega) hdue ?_ (by omega)
        rw [h.start, hc, Option.getD_some]
        omega
      have heligible : isLateChargeEligible inst.dueDate (some inst.dueDate) = true := by
        simp [isLateChargeEligible]
      refine hr.2 (min day c) (some inst.dueDate) ?_
      rw [materialize_eq h heligible hdue hrows, herror]
      rfl

end Reading

section Steps
variable {id : Nat} {db db' : Db} {inst : LoanInstallment} {step : LateStep}

/-- A step that goes through keeps the ledger nonnegative exactly when its booking fits. -/
private theorem nonnegative_step (h : LateBooks id db inst) (hn : Nonnegative id db inst.dueDate)
    (hok : step.apply id db = .ok db') :
    ∃ after, LateBooks id db' after ∧ after.dueDate = inst.dueDate ∧
      (Nonnegative id db' inst.dueDate ↔ Fits id db step) := by
  obtain ⟨after, hbooks, hdue, ⟨day, delta, hbooking, hsums⟩ | ⟨hnone, hgrows⟩⟩ := h.step_sums hok
  · refine ⟨after, hbooks, hdue, fun hnext x y k m hx _ hxbooking d hd => ?_, fun hfits => ?_⟩
    · obtain rfl : inst = x := Option.some.inj (h.row.symm.trans hx)
      obtain ⟨rfl, rfl⟩ : day = k ∧ delta = m := by simpa [hbooking] using hxbooking
      have hthrough := hnext.through d
      rw [hsums, if_pos hd] at hthrough
      refine ⟨hthrough, fun hlater => ?_⟩
      have hoverdue := hnext.overdue d (by omega)
      rwa [runningBefore, hsums, if_pos ⟨hlater, Int.lt_add_one_iff.mpr hd⟩] at hoverdue
    · have hfits := hfits inst db' day delta h.row hok hbooking
      constructor
      · intro d
        rw [hsums]
        split
        · rename_i hd
          exact (hfits d hd).1
        · rw [add_zero]
          exact hn.through d
      · intro d hd
        rw [runningBefore, hsums]
        split
        · rename_i hcounted
          exact (hfits d (Int.lt_add_one_iff.mp hcounted.2)).2 hcounted.1
        · rw [add_zero]
          exact hn.overdue d hd
  · refine ⟨after, hbooks, hdue, fun _ x y k m hx _ hbooking => ?_, fun _ => ?_⟩
    · obtain rfl : inst = x := Option.some.inj (h.row.symm.trans hx)
      rw [hnone] at hbooking
      cases hbooking
    · exact ⟨fun d => (hn.through d).trans (hgrows _), fun d hd => (hn.overdue d hd).trans (hgrows _)⟩

theorem LateStep.next_readable (h : ∃ inst, LateBooks id db inst) (hr : Readable id db) :
    Readable id (step.next id db) ↔ Fits id db step := by
  obtain ⟨inst, h⟩ := h
  have hn := nonnegative_of_readable h hr
  unfold LateStep.next
  split
  · rename_i db' hok
    obtain ⟨after, hbooks, hdue, hiff⟩ := nonnegative_step h hn hok
    rw [← hiff, ← hdue]
    exact ⟨nonnegative_of_readable hbooks, readable_of_nonnegative hbooks⟩
  · rename_i e herror
    refine iff_of_true hr fun x db' day delta _ hok => ?_
    rw [herror] at hok
    cases hok

end Steps

section Run
variable {id : Nat} {db : Db}

theorem neverLate_readable (h : NeverLate id db) : Readable id db := by
  obtain ⟨inst, hbooks⟩ := h.books
  have hzero : ∀ (p : Int → Prop) [DecidablePred p], lateOn p id db.lateChargeEvents = 0 := by
    intro p _
    have hevents : db.lateChargeEvents.filter (fun e => e.loanInstallmentId = id) = [] := h.events
    rw [lateOn, hevents, sumOn_nil]
  exact readable_of_nonnegative hbooks ⟨fun _ => (hzero _).ge, fun _ _ => (hzero _).ge⟩

/-- Along a history of payments, reversals, corrections and materializations of an installment, the
ledger stays readable through every date exactly when every correction fits the ledger it is booked on. -/
theorem prefixes_readable_iff (h : NeverLate id db) (steps : List LateStep) :
    (∀ done, done <+: steps → Readable id (lateRun id db done)) ↔
      ∀ done step, done ++ [step] <+: steps → Fits id (lateRun id db done) step :=
  foldl_prefix_iff (I := fun db => ∃ inst, LateBooks id db inst) (P := Readable id) (C := Fits id)
    (fun _ _ => next_books) (fun _ _ => LateStep.next_readable) h.books (neverLate_readable h) steps

end Run

section Sample

private def sampleInstallment : LoanInstallment where
  id := 1
  loanId := 1
  number := 1
  dueDate := 0
  principal := 10000
  interest := 2000
  amount := 12000
  paidAmount := 0
  penaltyAmount := 0
  paidPenaltyAmount := 0
  lateCharge := none
  paidAt := none
  status := .OPEN

private def sampleDb : Db := { loanInstallments := [sampleInstallment] }

/-- A payment of all the principal, confirmed on a day. -/
private def samplePayment (day : Int) : PaymentSettlement where
  id := 1
  paymentId := 1
  memberId := 1
  obligation := .loanInstallment 1
  amounts := { amountReceived := 10000, amountApplied := 10000, principalApplied := 10000
               interestApplied := 0, penaltyApplied := 0, excessAmount := 0 }
  components := some { normalInterestApplied := 0, lateInterestApplied := 0, fixedPenaltyApplied := 0 }
  obligationStatusBefore := .OPEN
  obligationStatusAfter := .PARTIAL
  confirmedAt := day * dayLength + belemOffset
  confirmationSource := "WEBHOOK"
  webhookEventId := none
  receiptNumber := "PIX-V4-000000000001"
  receiptVersion := .v4
  receiptSnapshotJson := ""
  receiptHash := ""
  loanEvidence := none
  agreementEvidence := none

private def sampleColumns : PaymentColumns where
  paidAmount := 10000
  penaltyAmount := 0
  paidPenaltyAmount := 0
  paidFixedPenaltyAmount := 0
  paidLateInterestAmount := 0
  paidAt := none
  status := .OVERDUE

/-- Four days are accrued, then a payment of the first of them is confirmed. -/
private def sampleSteps : List LateStep :=
  [.accrue 4 (some 0), .settle (samplePayment 1) sampleColumns]

private theorem sample_neverLate : NeverLate 1 sampleDb where
  row := ⟨sampleInstallment, by decide, by decide⟩
  events := by decide
  settlements := by decide
  reversed := by simp [sampleDb]
  givesBack := by simp [GivesBack, sampleDb]

/-- Four days are accrued, then a payment of the third of them is confirmed. -/
private def timelySteps : List LateStep :=
  [.accrue 4 (some 0), .settle (samplePayment 3) sampleColumns]

private def timelyLedger : Db := lateRun 1 sampleDb [.accrue 4 (some 0)]

private theorem timelyLedger_sum {p : Int → Prop} [DecidablePred p] (hp : ∀ d, 0 < d → d ≤ 4 → p d) :
    lateOn p 1 timelyLedger.lateChargeEvents = 267 := by
  have hdated : ∀ e ∈ timelyLedger.lateChargeEvents.filter (fun e => e.loanInstallmentId = 1),
      0 < e.effectiveDate ∧ e.effectiveDate ≤ 4 := by decide
  have hall : lateOn (fun _ => True) 1 timelyLedger.lateChargeEvents = 267 := by decide
  rw [← hall]
  exact sumOn_congr fun e he => iff_of_true (hp _ (hdated e he).1 (hdated e he).2) trivial

private theorem timely_fits (done : List LateStep) (step : LateStep) (h : done ++ [step] <+: timelySteps) :
    Fits 1 (lateRun 1 sampleDb done) step := by
  intro inst db' day delta hinst _ hbooking d hd
  cases done with
  | nil =>
    obtain ⟨rfl, -⟩ := List.cons_prefix_cons.mp h
    cases hbooking
  | cons x done =>
    obtain ⟨rfl, hmore⟩ := List.cons_prefix_cons.mp h
    cases done with
    | nil =>
      obtain ⟨rfl, -⟩ := List.cons_prefix_cons.mp hmore
      change timelyLedger.installment? 1 = some inst at hinst
      change booking 1 timelyLedger inst (.settle (samplePayment 3) sampleColumns) = some (day, delta) at hbooking
      have hbooked : (timelyLedger.installment? 1).bind (fun inst =>
          (booking 1 timelyLedger inst (.settle (samplePayment 3) sampleColumns)).map
            fun b => (inst.dueDate, b)) = some (0, 4, -67) := by decide
      rw [hinst, Option.bind_some, hbooking, Option.map_some, Option.some.injEq, Prod.mk.injEq,
        Prod.mk.injEq] at hbooked
      obtain ⟨hdue, rfl, rfl⟩ := hbooked
      change 0 ≤ lateOn (fun x => x ≤ d) 1 timelyLedger.lateChargeEvents + -67 ∧ (_ →
        0 ≤ runningBefore inst.dueDate (d + 1) 1 timelyLedger.lateChargeEvents + -67)
      rw [timelyLedger_sum fun x _ hx => by omega, runningBefore, timelyLedger_sum fun x _ hx => by omega]
      exact ⟨by decide, fun _ => by decide⟩
    | cons y done =>
      obtain ⟨-, hrest⟩ := List.cons_prefix_cons.mp hmore
      simp at hrest

/-- The correction takes back the interest of the fourth day, which the ledger holds. -/
theorem sample_prefixes_readable : (∀ done, done <+: timelySteps → Readable 1 (lateRun 1 sampleDb done)) ∧
    (lateRun 1 sampleDb timelySteps).lateChargeEvents.map (fun e => (e.effectiveDate, e.lateDelta)) =
      [(1, 67), (2, 66), (3, 67), (4, 67), (4, -67)] :=
  ⟨(prefixes_readable_iff sample_neverLate timelySteps).mpr timely_fits, by decide⟩

/-- The correction of the payment takes the interest of three days back on the second one. -/
theorem backdated_payment_blocks_accrual : NeverLate 1 sampleDb ∧
    lateInterestMaterialized (lateRun 1 sampleDb sampleSteps) 1 (some 2) =
      .error (.valueError "Mora materializada não pode ser negativa.") ∧
    materializeDailyLateInterest (lateRun 1 sampleDb sampleSteps) 1 5 (some 0) =
      .error (.valueError "Mora materializada não pode ser negativa.") :=
  ⟨sample_neverLate, by decide, by decide⟩

end Sample

end Caixinha.Properties.LatePrefixes
