import Caixinha.Effects.Attempts
import Caixinha.Effects.LateSteps

/-! The charges of an installment as they stand on a day, which materializing them keeps, and what is
due of it then. -/
namespace Caixinha.Effects

open Caixinha.Library Caixinha.Library.Table Caixinha.Library.DatedSum Fallible Caixinha.Model

variable {db db' : Db} {day : Int} {id : Nat} {inst : LoanInstallment}

section Books

/-- The assessments of the fixed penalty of an installment. -/
def assessments (db : Db) (id : Nat) : List LoanLateChargeEvent :=
  (installmentEvents db id).filter (fun e => e.eventType = .FIXED_PENALTY_ASSESSED)

/-- The charges of an installment as they stand on a day: nothing of them is dated later, the columns
show the ledger and never hold more payments than the settlements active on the day made. -/
structure ChargeBooks (day : Int) (id : Nat) (db : Db) (inst : LoanInstallment) : Prop where
  row : db.installment? id = some inst
  givesBack : GivesBack db id
  early : 0 ≤ lateOn (fun d => d ≤ inst.dueDate) id db.lateChargeEvents
  running : ∀ d, 0 ≤ runningBefore inst.dueDate (d + 1) id db.lateChargeEvents
  dated : ∀ e ∈ installmentEvents db id, e.eventType ≠ .FIXED_PENALTY_ASSESSED → e.effectiveDate ≤ day
  cursor : ∀ c, inst.projection.accruedThroughDate = some c → c ≤ day
  assessed : (assessments db id = [] ∧ inst.projection.fixedPenaltyAmount = 0) ∨
    ∃ e, assessments db id = [e] ∧ 0 ≤ e.amount ∧ inst.projection.fixedPenaltyAmount = e.amount
  late : inst.projection.lateInterestAmount = lateOn (fun _ => True) id db.lateChargeEvents
  paidFixed : 0 ≤ inst.projection.paidFixedPenaltyAmount ∧
    inst.projection.paidFixedPenaltyAmount ≤ inst.projection.fixedPenaltyAmount ∧
    inst.projection.paidFixedPenaltyAmount ≤ total (·.fixedPenalty) (activeSettlements db id day)
  paidLate : 0 ≤ inst.projection.paidLateInterestAmount ∧
    inst.projection.paidLateInterestAmount ≤ inst.projection.lateInterestAmount ∧
    inst.projection.paidLateInterestAmount ≤ total (·.lateInterest) (activeSettlements db id day)

theorem ChargeBooks.id_eq (h : ChargeBooks day id db inst) : inst.id = id := lookup_key h.row

/-- The columns of a day meet the constraints of their table. -/
theorem ChargeBooks.checked (h : ChargeBooks day id db inst) :
    ∀ p, inst.lateCharge = some p → checkProjection p = .ok () := by
  intro p hp
  obtain ⟨hfixed, hassessed, -⟩ := h.paidFixed
  obtain ⟨hlate, haccrued, -⟩ := h.paidLate
  have hprojection : inst.projection = p := by rw [LoanInstallment.projection, hp, Option.getD_some]
  rw [hprojection] at hfixed hassessed hlate haccrued
  unfold checkProjection
  simp only [bind_eq_ok, requireConstraint_eq_ok, exists_and_left, exists_const]
  exact ⟨by omega, hfixed, by omega, hlate, hassessed, haccrued⟩

/-- Only the tables of the charges matter. -/
theorem ChargeBooks.congr (h : ChargeBooks day id db inst)
    (hinstallments : db'.loanInstallments = db.loanInstallments)
    (hevents : db'.lateChargeEvents = db.lateChargeEvents)
    (hsettlements : db'.settlements = db.settlements) (hreversals : db'.reversals = db.reversals) :
    ChargeBooks day id db' inst := by
  cases db
  cases db'
  dsimp only at hinstallments hevents hsettlements hreversals
  subst hinstallments hevents hsettlements hreversals
  exact ⟨h.row, h.givesBack, h.early, h.running, h.dated, h.cursor, h.assessed, h.late, h.paidFixed,
    h.paidLate⟩

/-- The materialized charges of a day, from those before. -/
structure Recharged (day : Int) (id : Nat) (db : Db) (inst : LoanInstallment) (db' : Db)
    (after : LoanInstallment) : Prop where
  books : ChargeBooks day id db' after
  only : after = { inst with lateCharge := after.lateCharge }
  settlements : db'.settlements = db.settlements
  reversals : db'.reversals = db.reversals
  late : ∀ (p : Int → Prop) [DecidablePred p],
    lateOn p id db.lateChargeEvents ≤ lateOn p id db'.lateChargeEvents
  fixed : fixedPenaltyAssessed db id day ≤ fixedPenaltyAssessed db' id day

theorem ChargeBooks.unchanged (h : ChargeBooks day id db inst) : Recharged day id db inst db inst where
  books := h
  only := rfl
  settlements := rfl
  reversals := rfl
  late := fun _ _ => le_rfl
  fixed := le_rfl

theorem flushInstallment_ok (h : ∀ p, inst.lateCharge = some p → checkProjection p = .ok ()) (db : Db) :
    flushInstallment db inst = .ok (db.putInstallment inst) := by
  unfold flushInstallment
  cases hp : inst.lateCharge with
  | none => rfl
  | some p =>
    dsimp only
    rw [h p hp]
    rfl

private theorem lateOn_grows {new : List LoanLateChargeEvent}
    (h : ∀ e ∈ new.filter (fun e => e.loanInstallmentId = id), 0 ≤ e.lateDelta)
    (p : Int → Prop) [DecidablePred p] (events : List LoanLateChargeEvent) :
    lateOn p id events ≤ lateOn p id (events ++ new) := by
  have hnew : 0 ≤ lateOn p id new := sumOn_nonneg h
  rw [lateOn_append]
  omega

/-- New rows of the ledger, none of them a correction, with the columns that show them. -/
theorem ChargeBooks.extend (h : ChargeBooks day id db inst) (new : List LoanLateChargeEvent)
    (p : LateChargeProjection)
    (hnew : ∀ e ∈ new, e.loanInstallmentId = id ∧
      (e.eventType = .FIXED_PENALTY_ASSESSED ∨ e.eventType = .LATE_INTEREST_ACCRUED) ∧ 0 ≤ e.amount ∧
      (e.eventType ≠ .FIXED_PENALTY_ASSESSED → e.effectiveDate ≤ day))
    (hcursor : ∀ c, p.accruedThroughDate = some c → c ≤ day)
    (hassessed : (assessments db id ++ new.filter (fun e => e.eventType = .FIXED_PENALTY_ASSESSED) = [] ∧
        p.fixedPenaltyAmount = 0) ∨
      ∃ e, assessments db id ++ new.filter (fun e => e.eventType = .FIXED_PENALTY_ASSESSED) = [e] ∧
        0 ≤ e.amount ∧ p.fixedPenaltyAmount = e.amount)
    (hfixed : inst.projection.fixedPenaltyAmount ≤ p.fixedPenaltyAmount)
    (hlate : p.lateInterestAmount = lateOn (fun _ => True) id (db.lateChargeEvents ++ new))
    (hpaidFixed : p.paidFixedPenaltyAmount = inst.projection.paidFixedPenaltyAmount)
    (hpaidLate : p.paidLateInterestAmount = inst.projection.paidLateInterestAmount) :
    Recharged day id db inst
      (Db.putInstallment { db with lateChargeEvents := db.lateChargeEvents ++ new }
        { inst with lateCharge := some p }) { inst with lateCharge := some p } := by
  obtain rfl : inst.id = id := h.id_eq
  have hdelta : ∀ e ∈ new.filter (fun e => e.loanInstallmentId = inst.id), 0 ≤ e.lateDelta := by
    intro e he
    obtain ⟨-, htype, hamount, -⟩ := hnew e (List.mem_of_mem_filter he)
    rcases htype with htype | htype
    · rw [lateDelta_fixed htype]
    · simpa [LoanLateChargeEvent.lateDelta, htype] using hamount
  have hgrows : ∀ (q : Int → Prop) [DecidablePred q], lateOn q inst.id db.lateChargeEvents ≤
      lateOn q inst.id (db.lateChargeEvents ++ new) := fun q _ => lateOn_grows hdelta q _
  have hevents := installmentEvents_append db fun e he => (hnew e he).1
  have hassessments : assessments { db with lateChargeEvents := db.lateChargeEvents ++ new } inst.id =
      assessments db inst.id ++ new.filter (fun e => e.eventType = .FIXED_PENALTY_ASSESSED) := by
    rw [assessments, hevents, List.filter_append, assessments]
  obtain ⟨hpaid, hwithin, hactive⟩ := h.paidFixed
  obtain ⟨hpaid', hwithin', hactive'⟩ := h.paidLate
  have htotal := hgrows (fun _ => True)
  have hcolumn := h.late
  refine ⟨⟨?_, h.givesBack, h.early.trans (hgrows _), fun d => (h.running d).trans (hgrows _), ?_, hcursor, ?_,
    hlate, ⟨?_, ?_, ?_⟩, ⟨?_, ?_, ?_⟩⟩, rfl, rfl, rfl, fun q _ => hgrows q, ?_⟩
  · have hrow : lookup LoanInstallment.id db.loanInstallments inst.id = some inst := h.row
    exact lookup_replace_self (r := { inst with lateCharge := some p }) hrow
  · intro e he htype
    rcases List.mem_append.mp (hevents ▸ he : e ∈ installmentEvents db inst.id ++ new) with he | he
    · exact h.dated e he htype
    · exact (hnew e he).2.2.2 htype
  · exact hassessments ▸ hassessed
  · exact hpaidFixed ▸ hpaid
  · exact hpaidFixed ▸ hwithin.trans hfixed
  · exact hpaidFixed ▸ hactive
  · exact hpaidLate ▸ hpaid'
  · simp only [LoanInstallment.projection, Option.getD_some] at *
    omega
  · exact hpaidLate ▸ hactive'
  · have hsum : 0 ≤ ((new.filter (fun e => e.eventType = .FIXED_PENALTY_ASSESSED ∧
        e.effectiveDate ≤ day)).map (·.amount)).sum := by
      refine List.sum_nonneg fun amount hamount => ?_
      obtain ⟨e, he, rfl⟩ := List.mem_map.mp hamount
      exact (hnew e (List.mem_of_mem_filter he)).2.2.1
    change _ ≤ fixedPenaltyAssessed { db with lateChargeEvents := db.lateChargeEvents ++ new } inst.id day
    rw [fixedPenaltyAssessed, fixedPenaltyAssessed, hevents, List.filter_append, List.map_append,
      List.sum_append]
    omega

private theorem find?_assessment (db : Db) (id : Nat) :
    (installmentEvents db id).find? (fun e => e.eventType = .FIXED_PENALTY_ASSESSED) =
      (assessments db id).head? := (List.head?_filter ..).symm

private theorem reconstructLatePrincipalBase_ok (h : GivesBack db inst.id) (onDate : Int) :
    ∃ base, reconstructLatePrincipalBase db inst onDate = .ok base := by
  unfold reconstructLatePrincipalBase
  split
  · exact ⟨_, rfl⟩
  · obtain ⟨movements, hmovements⟩ := latePrincipalMovements_ok h
    rw [hmovements]
    exact ⟨_, rfl⟩

private theorem repeatedEvent?_assessment {new : NewLateChargeEvent}
    (h : assessments db new.loanInstallmentId = []) (htype : new.eventType = .FIXED_PENALTY_ASSESSED) :
    repeatedEvent? db new = none := by
  rw [repeatedEvent?, List.find?_eq_none]
  intro e he hrepeats
  have hmem : e ∈ assessments db new.loanInstallmentId := by
    refine List.mem_filter.mpr ⟨he, decide_eq_true ?_⟩
    rw [← htype]
    exact (of_decide_eq_true hrepeats).1
  rw [h] at hmem
  cases hmem

/-- The fixed penalty of a day is assessed. -/
theorem ChargeBooks.assess (h : ChargeBooks day id db inst) (effectiveDate : Option Int) :
    ∃ db' event, materializeFixedPenalty db id day effectiveDate = .ok (db', event) ∧
      ∃ after, Recharged day id db inst db' after := by
  obtain rfl : inst.id = id := h.id_eq
  unfold materializeFixedPenalty
  split
  · exact ⟨_, _, rfl, inst, h.unchanged⟩
  simp only [lockInstallment, h.row, orRefuse, ok_bind]
  split
  · exact ⟨_, _, rfl, inst, h.unchanged⟩
  split
  · exact ⟨_, _, rfl, inst, h.unchanged⟩
  rw [find?_assessment]
  rcases h.assessed with ⟨hnone, hzero⟩ | ⟨e, hone, hamount, hcolumn⟩
  · rw [hnone, List.head?_nil]
    dsimp only
    obtain ⟨base, hbase⟩ := reconstructLatePrincipalBase_ok h.givesBack (inst.dueDate + 1)
    rw [hbase, ok_bind]
    split
    · exact ⟨_, _, rfl, inst, h.unchanged⟩
    rw [insertUniqueEvent_new (repeatedEvent?_assessment hnone rfl)]
    dsimp only
    have hlate : inst.projection.lateInterestAmount = lateOn (fun _ => True) inst.id
        (db.lateChargeEvents ++ [recordedEvent db (assessmentOf inst)]) := by
      have hrow : lateOn (fun _ => True) inst.id [recordedEvent db (assessmentOf inst)] = 0 :=
        (lateOn_singleton rfl).trans ((if_pos trivial).trans (lateDelta_fixed rfl))
      rw [lateOn_append, hrow, add_zero, h.late]
    have hextended := h.extend [recordedEvent db (assessmentOf inst)]
      { inst.projection with fixedPenaltyAmount := calculateFixedPenalty false }
      (by simp [recordedEvent, calculateFixedPenalty, fixedPenaltyAmount]) h.cursor
      (.inr ⟨_, by rw [hnone]; rfl, by simp [recordedEvent, calculateFixedPenalty, fixedPenaltyAmount], rfl⟩)
      (by simp [hzero, calculateFixedPenalty, fixedPenaltyAmount]) hlate rfl rfl
    have hflush := flushInstallment_ok hextended.books.checked
      { db with lateChargeEvents := db.lateChargeEvents ++ [recordedEvent db (assessmentOf inst)] }
    exact ⟨_, _, bind_eq_ok.mpr ⟨_, hflush, rfl⟩, _, hextended⟩
  · rw [hone, List.head?_cons]
    dsimp only
    have hextended := h.extend [] { inst.projection with fixedPenaltyAmount := e.amount } (by simp) h.cursor
      (.inr ⟨e, by rw [hone]; rfl, hamount, rfl⟩) hcolumn.le (by simpa using h.late) rfl rfl
    rw [List.append_nil] at hextended
    exact ⟨_, _, bind_eq_ok.mpr ⟨_, flushInstallment_ok hextended.books.checked db, rfl⟩, _, hextended⟩

private theorem cursor_le {days : List Int} {cursor : Option Int} (hdays : ∀ d ∈ days, d ≤ day)
    (hcursor : ∀ c, cursor = some c → c ≤ day) :
    ∀ c, days.foldl (fun cursor day => some (cursor.elim day (max day))) cursor = some c → c ≤ day := by
  induction days generalizing cursor with
  | nil => exact hcursor
  | cons d days ih =>
    obtain ⟨hd, hdays⟩ := List.forall_mem_cons.mp hdays
    refine ih hdays fun c hc => ?_
    rw [← Option.some.inj hc]
    cases cursor with
    | none => exact hd
    | some x => exact max_le hd (hcursor x rfl)

/-- The late interest of a day is accrued. -/
theorem ChargeBooks.accrue (h : ChargeBooks day id db inst) (effectiveDate : Option Int) :
    ∃ db' created, materializeDailyLateInterest db id day effectiveDate = .ok (db', created) ∧
      ∃ after, Recharged day id db inst db' after := by
  obtain rfl : inst.id = id := h.id_eq
  unfold materializeDailyLateInterest
  split
  · exact ⟨_, _, rfl, inst, h.unchanged⟩
  simp only [lockInstallment, h.row, orRefuse, ok_bind]
  split
  · exact ⟨_, _, rfl, inst, h.unchanged⟩
  split
  · exact ⟨_, _, rfl, inst, h.unchanged⟩
  rename_i hlate
  obtain ⟨rows, hrows⟩ := dailyLateSchedule_ok h.givesBack day
  obtain ⟨hconsecutive, hlength⟩ := consecutive_dailyLateSchedule hrows
  obtain ⟨final, hfinal⟩ := accrueAll_ok hconsecutive fun d _ => h.running d
  obtain ⟨hstart, hdays⟩ := accrualStart_spec inst.dueDate (accruedDays db inst.id)
  obtain ⟨new, haccrued, -⟩ := Accrued.run (fun _ _ => True) (Accrued.init hstart) (Int.lt_succ _)
    (fun _ => rfl) hdays hconsecutive trivial (fun _ _ _ _ => trivial) hfinal
  have hnew : ∀ e ∈ new, e.loanInstallmentId = inst.id ∧
      (e.eventType = .FIXED_PENALTY_ASSESSED ∨ e.eventType = .LATE_INTEREST_ACCRUED) ∧ 0 ≤ e.amount ∧
      (e.eventType ≠ .FIXED_PENALTY_ASSESSED → e.effectiveDate ≤ day) := by
    intro e he
    obtain ⟨hid, htype, hamount, -, hday⟩ := haccrued.events e he
    exact ⟨hid, .inr htype, hamount, fun _ => by omega⟩
  have hnone : new.filter (fun e => e.eventType = .FIXED_PENALTY_ASSESSED) = [] :=
    List.filter_eq_nil_iff.mpr fun e he => by simp [(haccrued.events e he).2.1]
  have htotal : 0 ≤ lateOn (fun _ => True) inst.id (db.lateChargeEvents ++ new) := by
    have hgrows := lateOn_grows haccrued.delta_nonneg (fun _ => True) db.lateChargeEvents
    have hcolumn := h.late
    have hpaid := h.paidLate
    omega
  have hlateInterest : lateInterestMaterialized final.db inst.id none =
      .ok (lateOn (fun _ => True) inst.id (db.lateChargeEvents ++ new)) := by
    rw [lateInterestMaterialized_eq_ok, lateOn_all_none, haccrued.db_eq]
    exact ⟨rfl, htotal⟩
  have hdated : ∀ d ∈ accruedDays final.db inst.id, d ≤ day := by
    intro d hd
    rw [haccrued.db_eq, accruedDays_append db fun e he => (hnew e he).1] at hd
    rcases List.mem_append.mp hd with hd | hd
    · obtain ⟨e, he, rfl⟩ := List.mem_map.mp hd
      obtain ⟨he, htype⟩ := List.mem_filter.mp he
      exact h.dated e he (by simp [of_decide_eq_true htype])
    · obtain ⟨e, he, rfl⟩ := List.mem_map.mp hd
      have := (haccrued.events e (List.mem_of_mem_filter he)).2.2.2.2
      omega
  have hextended := h.extend new { inst.projection with
      accruedThroughDate := (accruedDays final.db inst.id).foldl
        (fun cursor day => some (cursor.elim day (max day))) inst.projection.accruedThroughDate
      lateInterestAmount := lateOn (fun _ => True) inst.id (db.lateChargeEvents ++ new) }
    hnew (cursor_le hdated h.cursor) (by rw [hnone, List.append_nil]; exact h.assessed) le_rfl rfl rfl rfl
  have hflush := flushInstallment_ok hextended.books.checked final.db
  rw [← haccrued.db_eq] at hextended
  exact ⟨_, _, bind_eq_ok.mpr ⟨rows, hrows, bind_eq_ok.mpr ⟨final, hfinal, bind_eq_ok.mpr
    ⟨_, hlateInterest, bind_eq_ok.mpr ⟨_, hflush, rfl⟩⟩⟩⟩, _, hextended⟩

theorem Recharged.trans {mid : Db} {x after : LoanInstallment} (h : Recharged day id db inst mid x)
    (h' : Recharged day id mid x db' after) : Recharged day id db inst db' after where
  books := h'.books
  only := by rw [h'.only, h.only]
  settlements := h'.settlements.trans h.settlements
  reversals := h'.reversals.trans h.reversals
  late := fun p _ => (h.late p).trans (h'.late p)
  fixed := h.fixed.trans h'.fixed

/-- The charges of a day are materialized. -/
theorem ChargeBooks.charge (h : ChargeBooks day id db inst) (effectiveDate : Option Int) :
    ∃ mid event db' created, materializeFixedPenalty db id day effectiveDate = .ok (mid, event) ∧
      materializeDailyLateInterest mid id day effectiveDate = .ok (db', created) ∧
      ∃ after, Recharged day id db inst db' after := by
  obtain ⟨mid, event, hassess, x, hassessed⟩ := h.assess effectiveDate
  obtain ⟨db', created, haccrue, after, haccrued⟩ := hassessed.books.accrue effectiveDate
  exact ⟨mid, event, db', created, hassess, haccrue, after, hassessed.trans haccrued⟩

end Books

section Due

/-- The late interest of an installment through a day. -/
abbrev lateThrough (db : Db) (id : Nat) (day : Int) : Int :=
  lateOn (fun d => d ≤ day) id db.lateChargeEvents

/-- What is due of an installment from its due date on. -/
def dueOn (db : Db) (inst : LoanInstallment) (day : Int) : LoanInstallmentObligation :=
  let settlements := activeSettlements db inst.id day
  let principalDue := max 0 (inst.principal - total (·.principalApplied) settlements)
  let normalPriceInterestDue := max 0 (inst.interest - total (·.normalInterest) settlements)
  let fixedPenaltyDue :=
    max 0 (fixedPenaltyAssessed db inst.id day - total (·.fixedPenalty) settlements)
  let lateInterestDue := max 0 (lateThrough db inst.id day - total (·.lateInterest) settlements)
  { principalDue, normalPriceInterestDue, fixedPenaltyDue, lateInterestDue
    totalDue := principalDue + normalPriceInterestDue + fixedPenaltyDue + lateInterestDue }

theorem loanInstallmentObligation_early (h : day < inst.dueDate) :
    loanInstallmentObligation db inst day = .ok nothingDue := by
  rw [loanInstallmentObligation, if_pos h]
  rfl

theorem loanInstallmentObligation_due (h : inst.dueDate ≤ day) (hledger : 0 ≤ lateThrough db inst.id day) :
    loanInstallmentObligation db inst day = .ok (dueOn db inst day) := by
  have hlate : lateInterestMaterialized db inst.id (some day) = .ok (lateThrough db inst.id day) := by
    rw [lateInterestMaterialized_eq_ok, lateOn_all_some]
    exact ⟨rfl, hledger⟩
  rw [loanInstallmentObligation, if_neg (not_lt.mpr h), hlate]
  rfl

/-- Components that can be due. -/
structure Payable (due : LoanInstallmentObligation) : Prop where
  principal : 0 ≤ due.principalDue
  normal : 0 ≤ due.normalPriceInterestDue
  fixed : 0 ≤ due.fixedPenaltyDue
  late : 0 ≤ due.lateInterestDue
  total : due.totalDue =
    due.principalDue + due.normalPriceInterestDue + due.fixedPenaltyDue + due.lateInterestDue

theorem payable_dueOn (db : Db) (inst : LoanInstallment) (day : Int) : Payable (dueOn db inst day) :=
  ⟨le_max_left _ _, le_max_left _ _, le_max_left _ _, le_max_left _ _, rfl⟩

private theorem normalizeMoney_ok {cents : Int} (h : 0 ≤ cents) :
    normalizeMoney cents = .ok (moneyJson cents) := by
  rw [normalizeMoney, refuseIf, if_neg (not_lt.mpr h)]
  rfl

theorem buildLoanInstallmentSnapshot_ok {due : LoanInstallmentObligation} (h : Payable due)
    (hnumber : 1 ≤ inst.number) (loanId : Nat) (day : Int) :
    ∃ snapshot, buildLoanInstallmentSnapshot loanId inst day due = .ok snapshot := by
  obtain ⟨hprincipal, hnormal, hfixed, hlate, -⟩ := h
  rw [buildLoanInstallmentSnapshot, refuseIf, if_neg (not_lt.mpr hnumber), ok_bind,
    normalizeMoney_ok hprincipal, ok_bind, normalizeMoney_ok hnormal, ok_bind, normalizeMoney_ok hfixed,
    ok_bind, normalizeMoney_ok hlate, ok_bind, normalizeMoney_ok (by omega)]
  exact ⟨_, rfl⟩

private theorem Recharged.active {after : LoanInstallment} (h : Recharged day id db inst db' after) :
    activeSettlements db' id day = activeSettlements db id day := by
  have hon : activeOn db' day = activeOn db day := by
    funext s
    rw [activeOn, activeOn, Db.reversalOfSettlement?, Db.reversalOfSettlement?, h.reversals]
  rw [activeSettlements, activeSettlements, installmentSettlements, installmentSettlements,
    h.settlements, hon]

/-- Materializing the charges of a day never lowers what is due. -/
theorem Recharged.dueOn_le {after : LoanInstallment} (h : Recharged day id db inst db' after)
    (hid : inst.id = id) : (dueOn db inst day).totalDue ≤ (dueOn db' after day).totalDue := by
  have hactive := h.active
  have hfixed := h.fixed
  have hlate := h.late (fun d => d ≤ day)
  have hprincipal : after.principal = inst.principal := by rw [h.only]
  have hinterest : after.interest = inst.interest := by rw [h.only]
  have hafter : after.id = id := by rw [h.only, hid]
  simp only [dueOn, hafter, hid, hactive, hprincipal, hinterest, lateThrough]
  omega

theorem ChargeBooks.through (h : ChargeBooks day id db inst) :
    lateThrough db id day = inst.projection.lateInterestAmount := by
  rw [h.late]
  refine sumOn_congr_of_ne_zero fun e he hamount => ?_
  simpa using h.dated e he fun hfixed => hamount (lateDelta_fixed hfixed)

theorem ChargeBooks.through_nonneg (h : ChargeBooks day id db inst) : 0 ≤ lateThrough db id day := by
  rw [h.through]
  obtain ⟨hpaid, hwithin, -⟩ := h.paidLate
  omega

/-- The columns have room for what is due of the charges. -/
theorem ChargeBooks.room (h : ChargeBooks day id db inst) :
    inst.projection.paidFixedPenaltyAmount + (dueOn db inst day).fixedPenaltyDue ≤
        inst.projection.fixedPenaltyAmount ∧
      inst.projection.paidLateInterestAmount + (dueOn db inst day).lateInterestDue ≤
        inst.projection.lateInterestAmount := by
  have hassessed : fixedPenaltyAssessed db id day ≤ inst.projection.fixedPenaltyAmount := by
    have hfilter : (installmentEvents db id).filter (fun e =>
        e.eventType = .FIXED_PENALTY_ASSESSED ∧ e.effectiveDate ≤ day) =
        (assessments db id).filter (fun e => e.effectiveDate ≤ day) := by
      rw [assessments, List.filter_filter]
      congr 1
      funext e
      rw [Bool.decide_and, Bool.and_comm]
    rw [fixedPenaltyAssessed, hfilter]
    rcases h.assessed with ⟨hnone, hzero⟩ | ⟨e, hone, hamount, hcolumn⟩
    · rw [hnone, hzero]
      simp
    · rw [hone, hcolumn]
      by_cases hday : e.effectiveDate ≤ day
      · simp [hday]
      · simpa [hday] using hamount
  have hthrough := h.through
  obtain ⟨-, hfixed, hfixedActive⟩ := h.paidFixed
  obtain ⟨-, hlate, hlateActive⟩ := h.paidLate
  simp only [dueOn, h.id_eq, hthrough]
  omega

end Due

end Caixinha.Effects
