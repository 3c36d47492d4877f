import Caixinha.Effects.LateSteps
import Caixinha.Library.Runs

/-! Accruing day by day and correcting afterwards gives the late interest computed at once, exactly
when no accrual counts on corrections dated before the first overdue day. -/
namespace Caixinha.Properties.LateRefinement

open Caixinha.Library Caixinha.Library.Table Caixinha.Library.DatedSum Fallible Runs Caixinha.Model
open Caixinha.Effects

/-- The late interest on record through the cursor is the one of the days after the due date over the
principal base of the payments and reversals on record. -/
def Refines (id : Nat) (db : Db) : Prop :=
  ∀ inst cursor, db.installment? id = some inst → inst.projection.accruedThroughDate = some cursor →
    lateInterestMaterialized db id (some cursor) = .ok (lateInterestAtOnce db inst cursor)

/-- The accrual loop counts from the first overdue day. What the ledger holds before it adds up to
nothing, or takes some back while no interest accrues on the new days. -/
def CountsAll (id : Nat) (db : Db) : LateStep → Prop
  | .accrue throughDate effectiveDate => ∀ inst db', db.installment? id = some inst →
      (LateStep.accrue throughDate effectiveDate).apply id db = .ok db' →
      isLateChargeEligible inst.dueDate effectiveDate = true →
      inst.projection.accruedThroughDate.getD inst.dueDate < throughDate →
      lateOn (fun d => d ≤ inst.dueDate) id db.lateChargeEvents = 0 ∨
        lateOn (fun d => d ≤ inst.dueDate) id db.lateChargeEvents < 0 ∧
          lateInterestAtOnce db inst (inst.projection.accruedThroughDate.getD inst.dueDate) =
            lateInterestAtOnce db inst throughDate
  | _ => True

/-- The last day accrued, or the due date. -/
abbrev lastDay (inst : LoanInstallment) : Int := inst.projection.accruedThroughDate.getD inst.dueDate

section Steps
variable {id : Nat} {db mid db' : Db} {inst after : LoanInstallment} {new : NewLateChargeEvent}
  {step : LateStep} {c target : Int} {s : PaymentSettlement} {r : PaymentReversal}

/-- The property as an equation of sums. -/
private theorem refines_iff (h : LateBooks id db inst) : Refines id db ↔
    lateOn (fun d => d ≤ lastDay inst) id db.lateChargeEvents =
      lateInterestAtOnce db inst (lastDay inst) := by
  constructor
  · intro hr
    cases hc : inst.projection.accruedThroughDate with
    | none => rw [h.sum_none hc, lastDay, hc, Option.getD_none, lateInterestAtOnce_le_due le_rfl]
    | some cursor =>
      obtain ⟨heq, -⟩ := lateInterestMaterialized_eq_ok.mp (hr inst cursor h.row hc)
      rw [lateOn_all_some] at heq
      rw [lastDay, hc, Option.getD_some, heq]
  · intro hsum x cursor hx hc
    obtain rfl : inst = x := Option.some.inj (h.row.symm.trans hx)
    rw [lastDay, hc, Option.getD_some] at hsum
    refine lateInterestMaterialized_eq_ok.mpr ⟨?_, lateInterestAtOnce_nonneg db inst cursor⟩
    rw [lateOn_all_some, hsum]

/-- A correction brings the ledger to the late interest of the new history, if it points that way. -/
private theorem corrected (hc : inst.projection.accruedThroughDate = some c)
    (hid : inst.id = id) (hbooked : Booked id mid inst new.effectiveDate (adjustmentDelta mid inst new) db' after)
    (hsum : lateOn (fun d => d ≤ c) id mid.lateChargeEvents = target)
    (hidle : c < new.effectiveDate ∨ (repeatedEvent? mid new).isSome → lateInterestAtOnce mid inst c = target)
    (hdown : new.eventType = .LATE_INTEREST_ADJUSTMENT_DECREASE → lateInterestAtOnce mid inst c ≤ target)
    (hup : new.eventType ≠ .LATE_INTEREST_ADJUSTMENT_DECREASE → target ≤ lateInterestAtOnce mid inst c) :
    lateOn (fun d => d ≤ c) id db'.lateChargeEvents = lateInterestAtOnce db' after c := by
  have hnonneg := lateInterestAtOnce_nonneg mid inst c
  rw [lateInterestAtOnce_same hbooked.terms hbooked.settlements hbooked.reversals, hbooked.sums, hsum]
  rw [adjustmentDelta, hc]
  by_cases hnothing : c < new.effectiveDate ∨ (repeatedEvent? mid new).isSome
  · simp only [if_pos hnothing, ite_self, add_zero, hidle hnothing]
  · have hdate : new.effectiveDate ≤ c := not_lt.mp fun hlt => hnothing (.inl hlt)
    simp only [if_neg hnothing, if_pos hdate, hid, hsum, correction]
    split
    · rename_i htype
      have := hdown htype
      omega
    · rename_i htype
      have := hup htype
      omega

/-- A settlement inserted now was not corrected for. -/
private theorem fresh_decrease (h : LateBooks id db inst)
    (hid : s.id = nextKey PaymentSettlement.id db.settlements)
    (hevents : mid.lateChargeEvents = db.lateChargeEvents) :
    repeatedEvent? mid (decreaseOf id s) = none := by
  rw [repeatedEvent?, List.find?_eq_none, installmentEvents, hevents]
  intro e he
  simp only [decide_eq_true_eq]
  rintro ⟨-, -, hsettlement, -⟩
  obtain ⟨x, hx, hxid⟩ := (h.linked e he).1 s.id (hsettlement rfl)
  have hlt : x.id < nextKey PaymentSettlement.id db.settlements := key_lt_nextKey hx
  omega

private theorem fresh_increase (h : LateBooks id db inst)
    (hid : r.id = nextKey PaymentReversal.id db.reversals)
    (hevents : mid.lateChargeEvents = db.lateChargeEvents) :
    repeatedEvent? mid (increaseOf id r) = none := by
  rw [repeatedEvent?, List.find?_eq_none, installmentEvents, hevents]
  intro e he
  simp only [decide_eq_true_eq]
  rintro ⟨-, -, -, hreversal⟩
  obtain ⟨x, hx, hxid⟩ := (h.linked e he).2 r.id (hreversal rfl)
  have hlt : x.id < nextKey PaymentReversal.id db.reversals := key_lt_nextKey hx
  omega

/-- What a correcting step leaves, from the sum it found. -/
private theorem refines_booked (new : NewLateChargeEvent) (h : LateBooks id db inst) (hr : Refines id db)
    (hbooked : Booked id mid inst new.effectiveDate (adjustmentDelta mid inst new) db' after)
    (hmid : mid.lateChargeEvents = db.lateChargeEvents)
    (hidle : ∀ c, c < new.effectiveDate ∨ (repeatedEvent? mid new).isSome →
      lateInterestAtOnce mid inst c = lateInterestAtOnce db inst c)
    (hdown : new.eventType = .LATE_INTEREST_ADJUSTMENT_DECREASE →
      ∀ c, lateInterestAtOnce mid inst c ≤ lateInterestAtOnce db inst c)
    (hup : new.eventType ≠ .LATE_INTEREST_ADJUSTMENT_DECREASE →
      ∀ c, lateInterestAtOnce db inst c ≤ lateInterestAtOnce mid inst c) : Refines id db' := by
  rw [refines_iff hbooked.books, lastDay, hbooked.cursor, hbooked.terms.dueDate]
  have hsum := (refines_iff h).mp hr
  rw [lastDay] at hsum
  cases hc : inst.projection.accruedThroughDate with
  | none =>
    rw [hbooked.books.sum_none (hbooked.cursor.trans hc), Option.getD_none,
      lateInterestAtOnce_le_due hbooked.terms.dueDate.ge]
  | some c =>
    rw [hc, Option.getD_some] at hsum
    exact corrected hc h.id_eq hbooked (hmid ▸ hsum) (hidle c) (fun htype => hdown htype c)
      (fun htype => hup htype c)

private theorem refines_settle (h : LateBooks id db inst) (hr : Refines id db) {columns : PaymentColumns}
    (hok : (LateStep.settle s columns).apply id db = .ok db') : Refines id db' := by
  obtain ⟨hprincipal, -, after, hbooked⟩ := h.settle_step hok
  have hpaid : ∀ day, principalPaid
      { db with settlements := db.settlements ++ [nextSettlement id db s] } inst.id day =
      principalPaid db inst.id day + if s.financialDate < day then s.amounts.principalApplied else 0 := by
    intro day
    rw [h.id_eq]
    exact principalPaid_settle rfl (h.unreversed rfl)
  refine refines_booked (decreaseOf id (nextSettlement id db s)) h hr hbooked rfl ?_ ?_ ?_
  · rintro c (hearly | hrepeated)
    · have hdate : c < s.financialDate + 1 := hearly
      refine lateInterestAtOnce_congr fun day hday => ?_
      rw [hpaid, if_neg (by omega), add_zero]
    · have hnone : repeatedEvent? { db with settlements := db.settlements ++ [nextSettlement id db s] }
          (decreaseOf id (nextSettlement id db s)) = none := fresh_decrease h rfl rfl
      rw [hnone] at hrepeated
      cases hrepeated
  · intro _ c
    refine lateInterestAtOnce_anti fun day _ => ?_
    rw [hpaid]
    split <;> omega
  · intro hne
    exact absurd rfl hne

private theorem refines_reverse (h : LateBooks id db inst) (hr : Refines id db) {columns : PaymentColumns}
    {settlementId : Nat} (hok : (LateStep.reverse settlementId r columns).apply id db = .ok db') :
    Refines id db' := by
  obtain ⟨s, hs, hprincipal, hfirst, -, after, hbooked⟩ := h.reverse_step hok
  obtain ⟨hmem, -, hobligation⟩ := settlementOf_eq_ok hs
  have hpaid : ∀ day, principalPaid
      { db with reversals := db.reversals ++ [nextReversal db s r] } inst.id day =
      principalPaid db inst.id day - if r.financialDate < day then s.amounts.principalApplied else 0 := by
    intro day
    rw [h.id_eq]
    exact principalPaid_reverse h.settlements hmem hobligation hfirst rfl
  refine refines_booked (increaseOf id (nextReversal db s r)) h hr hbooked rfl ?_ ?_ ?_
  · rintro c (hearly | hrepeated)
    · have hdate : c < r.financialDate + 1 := hearly
      refine lateInterestAtOnce_congr fun day hday => ?_
      rw [hpaid, if_neg (by omega), sub_zero]
    · have hnone : repeatedEvent? { db with reversals := db.reversals ++ [nextReversal db s r] }
          (increaseOf id (nextReversal db s r)) = none := fresh_increase h rfl rfl
      rw [hnone] at hrepeated
      cases hrepeated
  · intro htype
    cases htype
  · intro _ c
    refine lateInterestAtOnce_anti fun day _ => ?_
    rw [hpaid]
    split <;> omega

private theorem refines_accrue (h : LateBooks id db inst) (hr : Refines id db) {throughDate : Int}
    {effectiveDate : Option Int}
    (hok : (LateStep.accrue throughDate effectiveDate).apply id db = .ok db') :
    Refines id db' ↔ CountsAll id db (.accrue throughDate effectiveDate) := by
  have hsum := (refines_iff h).mp hr
  have happly := hok
  simp only [LateStep.apply, bind_eq_ok, pure_eq_ok, Prod.exists, exists_and_right,
    exists_eq_right] at hok
  obtain ⟨created, hok⟩ := hok
  obtain ⟨after, ⟨hbooked, hidle⟩ | ⟨heligible, hextended⟩⟩ := h.accrue hok
  · refine iff_of_true ?_ ?_
    · rw [refines_iff hbooked.books, lastDay, hbooked.cursor, hbooked.terms.dueDate, hbooked.sums,
        ite_self, add_zero,
        lateInterestAtOnce_same hbooked.terms hbooked.settlements hbooked.reversals]
      exact hsum
    · intro x y hx _ heligible hlater
      obtain rfl : inst = x := Option.some.inj (h.row.symm.trans hx)
      have := hidle heligible
      omega
  · have hbefore := lateOn_due db id h.due_le
    have hafter := lateOn_due db' id (h.due_le.trans hextended.later.le)
    have hrunning := hextended.running
    have hearly := hextended.early
    have hmono : lateInterestAtOnce db inst (lastDay inst) ≤ lateInterestAtOnce db inst throughDate :=
      lateInterestAtOnce_mono hextended.later.le
    rw [refines_iff hextended.books, lastDay, hextended.cursor, Option.getD_some,
      lateInterestAtOnce_same hextended.terms hextended.settlements hextended.reversals]
    rw [lastDay] at hsum hmono
    constructor
    · intro hnext x y hx _ _ _
      obtain rfl : inst = x := Option.some.inj (h.row.symm.trans hx)
      omega
    · intro hcounts
      have hcount := hcounts inst db' h.row happly heligible hextended.later
      omega

/-- What each step keeps of the property. -/
private theorem refines_step (h : LateBooks id db inst) (hr : Refines id db)
    (hok : step.apply id db = .ok db') : Refines id db' ↔ CountsAll id db step := by
  cases step with
  | settle s columns => exact iff_of_true (refines_settle h hr hok) trivial
  | reverse settlementId r columns => exact iff_of_true (refines_reverse h hr hok) trivial
  | adjustSettlement settlementId =>
    obtain ⟨s, -, after, hbooked⟩ := h.adjustSettlement_step hok
    refine iff_of_true ?_ trivial
    exact refines_booked (decreaseOf id s) h hr hbooked rfl (fun _ _ => rfl) (fun _ _ => le_rfl)
      (fun _ _ => le_rfl)
  | adjustReversal settlementId =>
    obtain ⟨s, r, -, -, after, hbooked⟩ := h.adjustReversal_step hok
    refine iff_of_true ?_ trivial
    exact refines_booked (increaseOf id r) h hr hbooked rfl (fun _ _ => rfl) (fun _ _ => le_rfl)
      (fun _ _ => le_rfl)
  | assess throughDate effectiveDate =>
    obtain ⟨day, after, hbooked⟩ := h.assess_step hok
    refine iff_of_true ?_ trivial
    rw [refines_iff hbooked.books, lastDay, hbooked.cursor, hbooked.terms.dueDate, hbooked.sums,
      ite_self, add_zero, lateInterestAtOnce_same hbooked.terms hbooked.settlements hbooked.reversals]
    exact (refines_iff h).mp hr
  | accrue throughDate effectiveDate => exact refines_accrue h hr hok

private theorem next_refines (h : ∃ inst, LateBooks id db inst) (hr : Refines id db) :
    Refines id (step.next id db) ↔ CountsAll id db step := by
  obtain ⟨inst, h⟩ := h
  unfold LateStep.next
  split
  · rename_i db' hok
    exact refines_step h hr hok
  · rename_i e herror
    refine iff_of_true hr ?_
    cases step with
    | accrue throughDate effectiveDate =>
      intro x db' _ hok
      rw [herror] at hok
      cases hok
    | _ => trivial

end Steps

section Run
variable {id : Nat} {db : Db}

/-- Along a history of payments, reversals, corrections and materializations of an installment, the
late interest accrued day by day and corrected is the one computed at once, in every state, exactly
when every accrual counts all the ledger holds. -/
theorem accrual_refines_iff (h : NeverLate id db) (steps : List LateStep) :
    (∀ done, done <+: steps → Refines id (lateRun id db done)) ↔
      ∀ done step, done ++ [step] <+: steps → CountsAll id (lateRun id db done) step := by
  have hrefines : Refines id db := by
    obtain ⟨inst, hrow, hnone⟩ := h.row
    intro x cursor hx hc
    obtain rfl : inst = x := Option.some.inj (hrow.symm.trans hx)
    rw [hnone] at hc
    cases hc
  exact foldl_prefix_iff (I := fun db => ∃ inst, LateBooks id db inst) (P := Refines id)
    (C := CountsAll id) (fun _ _ => next_books) (fun _ _ => next_refines) h.books hrefines steps

end Run

section Sample

private def sampleInstallment : LoanInstallment where
  id := 1
  loanId := 1
  number := 1
  dueDate := 0
  principal := 10000
  interest := 2000
  amount := 12000
  paidAmount := 0
  penaltyAmount := 0
  paidPenaltyAmount := 0
  lateCharge := none
  paidAt := none
  status := .OPEN

private def sampleDb : Db := { loanInstallments := [sampleInstallment] }

/-- Half of the principal, confirmed two days before the due date. -/
private def earlyPayment : PaymentSettlement where
  id := 1
  paymentId := 1
  memberId := 1
  obligation := .loanInstallment 1
  amounts := { amountReceived := 5000, amountApplied := 5000, principalApplied := 5000
               interestApplied := 0, penaltyApplied := 0, excessAmount := 0 }
  components := some { normalInterestApplied := 0, lateInterestApplied := 0, fixedPenaltyApplied := 0 }
  obligationStatusBefore := .OPEN
  obligationStatusAfter := .PARTIAL
  confirmedAt := -2 * dayLength + belemOffset
  confirmationSource := "WEBHOOK"
  webhookEventId := none
  receiptNumber := "PIX-V4-000000000001"
  receiptVersion := .v4
  receiptSnapshotJson := ""
  receiptHash := ""
  loanEvidence := none
  agreementEvidence := none

private def earlyColumns : PaymentColumns where
  paidAmount := 5000
  penaltyAmount := 0
  paidPenaltyAmount := 0
  paidFixedPenaltyAmount := 0
  paidLateInterestAmount := 0
  paidAt := none
  status := .PARTIAL

/-- Four days are accrued before the early payment is settled, and one more after it. -/
private def sampleSteps : List LateStep :=
  [.accrue 4 (some 0), .settle earlyPayment earlyColumns, .accrue 5 (some 0)]

private theorem sample_neverLate : NeverLate 1 sampleDb where
  row := ⟨sampleInstallment, by decide, by decide⟩
  events := by decide
  settlements := by decide
  reversed := by simp [sampleDb]
  givesBack := by simp [GivesBack, sampleDb]

/-- Four days are accrued, then half of the principal is settled as of the second of them, and a fifth
day is accrued. -/
private def overdueSteps : List LateStep :=
  [.accrue 4 (some 0), .settle { earlyPayment with confirmedAt := 2 * dayLength + belemOffset } earlyColumns,
    .accrue 5 (some 0)]

private theorem counted_of_later {db : Db} {throughDate : Int} {effectiveDate : Option Int}
    (h : (db.installment? 1).all fun inst =>
      inst.dueDate = 0 ∧ lateOn (fun d => d ≤ 0) 1 db.lateChargeEvents = 0) :
    CountsAll 1 db (.accrue throughDate effectiveDate) := by
  intro inst db' hinst _ _ _
  rw [hinst, Option.all_some, decide_eq_true_eq] at h
  rw [h.1]
  exact .inl h.2

private theorem overdue_counts (done : List LateStep) (step : LateStep) (h : done ++ [step] <+: overdueSteps) :
    CountsAll 1 (lateRun 1 sampleDb done) step := by
  cases done with
  | nil =>
    obtain ⟨rfl, -⟩ := List.cons_prefix_cons.mp h
    exact counted_of_later (by decide)
  | cons x done =>
    obtain ⟨rfl, hmore⟩ := List.cons_prefix_cons.mp h
    cases done with
    | nil =>
      obtain ⟨rfl, -⟩ := List.cons_prefix_cons.mp hmore
      trivial
    | cons y done =>
      obtain ⟨rfl, hrest⟩ := List.cons_prefix_cons.mp hmore
      cases done with
      | nil =>
        obtain ⟨rfl, -⟩ := List.cons_prefix_cons.mp hrest
        exact counted_of_later (by decide)
      | cons z done =>
        obtain ⟨-, hnone⟩ := List.cons_prefix_cons.mp hrest
        simp at hnone

/-- Two days at two thirds of a real and three at half of that. -/
theorem sample_accrual_refines :
    (∀ done, done <+: overdueSteps → Refines 1 (lateRun 1 sampleDb done)) ∧
      lateInterestMaterialized (lateRun 1 sampleDb overdueSteps) 1 (some 5) = .ok 233 :=
  ⟨(accrual_refines_iff sample_neverLate overdueSteps).mpr overdue_counts, by decide +kernel⟩

/-- The fifth day adds nothing: the loop has not counted what the early payment took back. -/
theorem early_payment_is_not_counted : NeverLate 1 sampleDb ∧
    lateInterestMaterialized (lateRun 1 sampleDb sampleSteps) 1 (some 5) = .ok 133 ∧
    ¬ Refines 1 (lateRun 1 sampleDb sampleSteps) := by
  have hmaterialized : lateInterestMaterialized (lateRun 1 sampleDb sampleSteps) 1 (some 5) = .ok 133 := by
    decide +kernel
  refine ⟨sample_neverLate, hmaterialized, fun hrefines => ?_⟩
  have hlast : ((lateRun 1 sampleDb sampleSteps).installment? 1).any (fun inst =>
      inst.projection.accruedThroughDate = some 5 ∧
        lateInterestAtOnce (lateRun 1 sampleDb sampleSteps) inst 5 = 167) = true := by decide +kernel
  obtain ⟨inst, hinst, hrow⟩ := (Option.any_eq_true _ _).mp hlast
  obtain ⟨hcursor, hexpected⟩ := of_decide_eq_true hrow
  have hequal := hrefines inst 5 hinst hcursor
  rw [hmaterialized, hexpected] at hequal
  exact absurd hequal (by decide)

end Sample

end Caixinha.Properties.LateRefinement
