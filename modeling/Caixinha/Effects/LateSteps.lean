import Caixinha.Effects.LateBooks
import Caixinha.Effects.Settled

/-! What each step of an installment's history does to its late-charge ledger. -/
namespace Caixinha.Effects

open Caixinha.Library Caixinha.Library.Table Caixinha.Library.DatedSum Fallible Caixinha.Model

section Accrual
variable {id : Nat} {db db' : Db} {inst after : LoanInstallment} {throughDate : Int}
  {effectiveDate : Option Int} {created : List LoanLateChargeEvent}

/-- The ledger accrued through a later day: the accruals bring what the loop has counted up to the
late interest of the principal base of now. -/
structure Extended (id : Nat) (db : Db) (inst : LoanInstallment) (throughDate : Int) (db' : Db)
    (after : LoanInstallment) : Prop where
  books : LateBooks id db' after
  terms : SameTerms inst after
  later : inst.projection.accruedThroughDate.getD inst.dueDate < throughDate
  cursor : after.projection.accruedThroughDate = some throughDate
  settlements : db'.settlements = db.settlements
  reversals : db'.reversals = db.reversals
  grows : ∀ (p : Int → Prop) [DecidablePred p],
    lateOn p id db.lateChargeEvents ≤ lateOn p id db'.lateChargeEvents
  early : lateOn (fun d => d ≤ inst.dueDate) id db'.lateChargeEvents =
    lateOn (fun d => d ≤ inst.dueDate) id db.lateChargeEvents
  running : runningBefore inst.dueDate (throughDate + 1) id db'.lateChargeEvents =
    max (runningBefore inst.dueDate (inst.projection.accruedThroughDate.getD inst.dueDate + 1) id
      db.lateChargeEvents) (lateInterestAtOnce db inst throughDate)

private theorem CursorOf.unique {days : List Int} {a b : Option Int} (ha : CursorOf days a)
    (hb : CursorOf days b) : a = b := by
  cases a with
  | none =>
    rw [show days = [] from ha] at hb
    cases b with
    | none => rfl
    | some y => exact absurd hb.1 List.not_mem_nil
  | some x =>
    cases b with
    | none =>
      rw [show days = [] from hb] at ha
      exact absurd ha.1 List.not_mem_nil
    | some y => rw [le_antisymm (hb.2 x ha.1) (ha.2 y hb.1)]

/-- What the loop has counted before a day, once it has gone through the days before it. -/
def Counted (id : Nat) (db : Db) (inst : LoanInstallment) (c day running : Int) : Prop :=
  (day ≤ c + 1 → running = runningBefore inst.dueDate day id db.lateChargeEvents) ∧
    (c + 1 < day → running = max (runningBefore inst.dueDate (c + 1) id db.lateChargeEvents)
      (lateInterestAtOnce db inst (day - 1)))

private theorem nothing_after_cursor (h : LateBooks id db inst) {day : Int}
    (hday : inst.projection.accruedThroughDate.getD inst.dueDate < day) :
    lateOn (fun d => d = day) id db.lateChargeEvents = 0 := by
  rw [h.sum_congr (q := fun _ => False) (fun c d hc hd => by
    rw [hc, Option.getD_some] at hday
    simp only [iff_false]
    omega)]
  exact sumOn_eq_zero fun _ _ hfalse => hfalse

private theorem consecutive_le {first : Int} {rows : List (Int × Int × Int)}
    (h : ConsecutiveFrom first rows) {row : Int × Int × Int} (hrow : row ∈ rows) : first ≤ row.1 := by
  induction rows generalizing first with
  | nil => cases hrow
  | cons x rows ih =>
    obtain ⟨hx, hrest⟩ := h
    rcases List.mem_cons.mp hrow with rfl | hrow
    · exact hx.ge
    · have := ih hrest hrow
      omega

/-- One day keeps the count. -/
private theorem counted_step (h : LateBooks id db inst) {day expected running : Int}
    (hday : inst.dueDate < day) (hexpected : expected = lateInterestAtOnce db inst day)
    (hcounted : Counted id db inst (inst.projection.accruedThroughDate.getD inst.dueDate) day running) :
    Counted id db inst (inst.projection.accruedThroughDate.getD inst.dueDate) (day + 1)
      (if day < inst.projection.accruedThroughDate.getD inst.dueDate + 1
        then running + lateOn (fun d => d = day) id db.lateChargeEvents
        else max (running + lateOn (fun d => d = day) id db.lateChargeEvents) expected) := by
  have hzero : inst.projection.accruedThroughDate.getD inst.dueDate < day →
      lateOn (fun d => d = day) id db.lateChargeEvents = 0 := nothing_after_cursor h
  revert hcounted hzero
  generalize inst.projection.accruedThroughDate.getD inst.dueDate = c
  rintro ⟨hbefore, hafter⟩ hzero
  by_cases hearly : day < c + 1
  · rw [if_pos hearly]
    refine ⟨fun _ => ?_, fun hlate => by omega⟩
    have hnext : runningBefore inst.dueDate (day + 1) id db.lateChargeEvents =
        runningBefore inst.dueDate day id db.lateChargeEvents +
          lateOn (fun d => d = day) id db.lateChargeEvents := sumOn_succ hday
    rw [hbefore hearly.le, hnext]
  · rw [if_neg hearly, hzero (by omega), add_zero, hexpected]
    refine ⟨fun hle => by omega, fun _ => ?_⟩
    rw [show day + 1 - 1 = day by ring]
    rcases Int.lt_or_eq_of_le (not_lt.mp hearly) with hlater | hfirst
    · have hmono : lateInterestAtOnce db inst (day - 1) ≤ lateInterestAtOnce db inst day :=
        lateInterestAtOnce_mono (by omega)
      rw [hafter hlater, max_assoc, max_eq_right hmono]
    · rw [hbefore (by omega), hfirst]

/-- What the loop of a call appends, and what it has counted at the end. -/
theorem LateBooks.accrueAll_spec {rows : List (Int × Int × Int)} {final : Accrual}
    (h : LateBooks id db inst) (hdue : inst.dueDate < throughDate)
    (hrows : dailyLateSchedule db inst throughDate = .ok rows)
    (hfinal : accrueAll id db inst.dueDate rows = .ok final) :
    ∃ new, Accrued id db inst.dueDate (inst.projection.accruedThroughDate.getD inst.dueDate + 1)
        (throughDate + 1) final new ∧
      Counted id db inst (inst.projection.accruedThroughDate.getD inst.dueDate) (throughDate + 1)
        final.running := by
  obtain ⟨hconsecutive, hlength⟩ := consecutive_dailyLateSchedule hrows
  obtain ⟨hstart, hdays⟩ := accrualStart_spec inst.dueDate (accruedDays db id)
  rw [accrueAll] at hfinal
  rw [h.start] at hstart hdays hfinal
  have hinit : Counted id db inst (inst.projection.accruedThroughDate.getD inst.dueDate)
      (inst.dueDate + 1) 0 := by
    have hle := h.due_le
    refine ⟨fun _ => ?_, fun hlate => by omega⟩
    symm
    exact sumOn_eq_zero fun _ _ hboth => by omega
  have hrun := Accrued.run (Counted id db inst _) (Accrued.init hstart)
    (Int.lt_succ _) (fun _ => rfl) hdays hconsecutive hinit (fun row hrow r hr => by
      have hle := consecutive_le hconsecutive hrow
      exact counted_step h (by omega) (dailyLateSchedule_row hrows hrow) hr) hfinal
  rwa [show inst.dueDate + 1 + (rows.length : Int) = throughDate + 1 by omega] at hrun

theorem Accrued.delta_nonneg {dueDate start day : Int} {state : Accrual} {new : List LoanLateChargeEvent}
    (h : Accrued id db dueDate start day state new) :
    ∀ e ∈ new.filter (fun e => e.loanInstallmentId = id), 0 ≤ e.lateDelta := by
  intro e he
  obtain ⟨-, htype, hpos, -⟩ := h.events e (List.mem_of_mem_filter he)
  simpa [LoanLateChargeEvent.lateDelta, htype] using hpos

/-- A call that goes through accrues the days it has not accrued yet. -/
theorem LateBooks.accrue (h : LateBooks id db inst)
    (hok : materializeDailyLateInterest db id throughDate effectiveDate = .ok (db', created)) :
    ∃ after, (Booked id db inst inst.dueDate 0 db' after ∧
        (isLateChargeEligible inst.dueDate effectiveDate = true →
          throughDate ≤ inst.projection.accruedThroughDate.getD inst.dueDate)) ∨
      (isLateChargeEligible inst.dueDate effectiveDate = true ∧ Extended id db inst throughDate db' after) := by
  obtain ⟨rfl, hidle⟩ | ⟨x, rows, final, hx, heligible, hdue, hrows, hfinal, rfl⟩ := materializeDailyLateInterest_spec hok
  · exact ⟨inst, .inl ⟨h.unchanged _, fun heligible => (hidle inst h.row heligible).trans h.due_le⟩⟩
  obtain rfl : inst = x := Option.some.inj (h.row.symm.trans hx)
  obtain ⟨new, haccrued, hrunning⟩ := h.accrueAll_spec hdue hrows hfinal
  obtain ⟨-, hdays⟩ := accrualStart_spec inst.dueDate (accruedDays db id)
  rw [h.start] at hdays
  have hnew : ∀ e ∈ new, e.loanInstallmentId = id := fun e he => (haccrued.events e he).1
  have hdaysOf : newDays new = new.map (·.effectiveDate) := by
    rw [newDays, List.filter_eq_self.mpr fun e he => by simpa using (haccrued.events e he).2.1]
  have hadvance : CursorOf (accruedDays db id ++ newDays new)
      (accruedInstallment inst id (db.lateChargeEvents ++ new)).projection.accruedThroughDate := by
    have hall : CursorOf (accruedDays db id ++ newDays new) ((accruedDays db id ++ newDays new).foldl
        (fun cursor day => some (cursor.elim day (max day))) inst.projection.accruedThroughDate) :=
      h.cursor.advance
    rw [← accruedDays_append db hnew] at hall ⊢
    exact hall
  have hterms : SameTerms inst (accruedInstallment inst id (db.lateChargeEvents ++ new)) :=
    ⟨rfl, rfl, rfl⟩
  rw [haccrued.db_eq]
  refine ⟨accruedInstallment inst id (db.lateChargeEvents ++ new), ?_⟩
  rcases lt_or_ge (inst.projection.accruedThroughDate.getD inst.dueDate) throughDate with hlater | hpast
  · right
    have hlast : CursorOf (accruedDays db id ++ newDays new) (some throughDate) := by
      obtain ⟨e, he, hdate⟩ := haccrued.covers throughDate (by omega) (Int.lt_succ _)
      refine ⟨List.mem_append_right _ (hdaysOf ▸ List.mem_map.mpr ⟨e, he, hdate⟩), fun d hd => ?_⟩
      rcases List.mem_append.mp hd with hd | hd
      · have := hdays d hd
        omega
      · obtain ⟨e, he, rfl⟩ := List.mem_map.mp (hdaysOf ▸ hd)
        have := (haccrued.events e he).2.2.2.2
        omega
    have hcursor := hadvance.unique hlast
    have hdue' := h.due_le
    refine ⟨heligible, h.extend hterms hnew hadvance ?_ ?_ ?_, hterms, hlater, hcursor, rfl, rfl, ?_, ?_, ?_⟩
    · intro d hd
      obtain ⟨e, he, rfl⟩ := List.mem_map.mp (hdaysOf ▸ hd)
      have := (haccrued.events e he).2.2.2.1
      omega
    · intro e he hfixed
      refine ⟨throughDate, hcursor, ?_⟩
      rcases List.mem_append.mp he with he | he
      · obtain ⟨c, hc, hle⟩ := h.dated e he hfixed
        rw [hc, Option.getD_some] at hlater
        omega
      · have := (haccrued.events e he).2.2.2.2
        omega
    · intro e he
      obtain ⟨hsettlement, hreversal⟩ := haccrued.unlinked e he
      simp [hsettlement, hreversal]
    · intro p _
      have hsum : lateOn p id (db.lateChargeEvents ++ new) =
          lateOn p id db.lateChargeEvents + lateOn p id new := lateOn_append
      have hnonneg : 0 ≤ lateOn p id new := sumOn_nonneg haccrued.delta_nonneg
      simp only [Db.putInstallment]
      omega
    · have hsum : lateOn (fun d => d ≤ inst.dueDate) id (db.lateChargeEvents ++ new) =
          lateOn (fun d => d ≤ inst.dueDate) id db.lateChargeEvents +
            lateOn (fun d => d ≤ inst.dueDate) id new := lateOn_append
      have hzero : lateOn (fun d => d ≤ inst.dueDate) id new = 0 := by
        refine sumOn_eq_zero fun e he hle => ?_
        have := (haccrued.events e (List.mem_of_mem_filter he)).2.2.2.1
        omega
      simp only [Db.putInstallment]
      omega
    · have hcount := hrunning.2 (by omega)
      have hfinalRunning := haccrued.running
      rw [hcount, haccrued.db_eq, show throughDate + 1 - 1 = throughDate by ring] at hfinalRunning
      exact hfinalRunning.symm
  · left
    have hnil : new = [] := List.eq_nil_iff_forall_not_mem.mpr fun e he => by
      have := (haccrued.events e he).2.2.2
      omega
    subst hnil
    have hcursor := hadvance.unique (by rw [newDays, List.filter_nil, List.map_nil, List.append_nil]; exact h.cursor)
    have hwrite := h.write hterms hcursor inst.dueDate
    rw [List.append_nil] at hwrite ⊢
    exact ⟨hwrite, fun _ => hpast⟩

end Accrual

section Steps
variable {id : Nat} {db mid db' : Db} {inst after x : LoanInstallment} {new : NewLateChargeEvent}
  {s : PaymentSettlement} {r : PaymentReversal} {columns : PaymentColumns} {day delta : Int}
  {settlementId : Nat} {throughDate : Int} {effectiveDate : Option Int}

theorem SameTerms.trans (h : SameTerms inst x) (h' : SameTerms x after) : SameTerms inst after :=
  ⟨h'.id_eq.trans h.id_eq, h'.dueDate.trans h.dueDate, h'.principal.trans h.principal⟩

/-- The late interest reads the terms of an installment and its history only. -/
theorem lateInterestAtOnce_same (hterms : SameTerms inst after)
    (hsettlements : db'.settlements = db.settlements) (hreversals : db'.reversals = db.reversals)
    (throughDate : Int) : lateInterestAtOnce db' after throughDate = lateInterestAtOnce db inst throughDate := by
  have hopen : openPrincipal db' after = openPrincipal db inst := by
    funext day
    unfold openPrincipal principalPaid principalOff Db.reversalOfSettlement?
    rw [hterms.id_eq, hterms.principal, hsettlements, hreversals]
  rw [lateInterestAtOnce, lateInterestAtOnce, hopen, hterms.dueDate]

theorem adjustmentDelta_same (hterms : SameTerms inst after)
    (hcursor : after.projection.accruedThroughDate = inst.projection.accruedThroughDate)
    (hevents : db'.lateChargeEvents = db.lateChargeEvents)
    (hsettlements : db'.settlements = db.settlements) (hreversals : db'.reversals = db.reversals) :
    adjustmentDelta db' after new = adjustmentDelta db inst new := by
  have hrepeated : repeatedEvent? db' new = repeatedEvent? db new := by
    rw [repeatedEvent?, repeatedEvent?, installmentEvents, installmentEvents, hevents]
  unfold adjustmentDelta
  rw [hcursor, hrepeated, hevents, hterms.id_eq]
  simp only [lateInterestAtOnce_same hterms hsettlements hreversals]

/-- A booking after other columns were written is a booking. -/
theorem Booked.after_write (h : Booked id mid x day delta db' after) (hterms : SameTerms inst x)
    (hcursor : x.projection.accruedThroughDate = inst.projection.accruedThroughDate)
    (hevents : mid.lateChargeEvents = db.lateChargeEvents)
    (hsettlements : mid.settlements = db.settlements) (hreversals : mid.reversals = db.reversals) :
    Booked id db inst day delta db' after where
  books := h.books
  terms := hterms.trans h.terms
  cursor := h.cursor.trans hcursor
  settlements := h.settlements.trans hsettlements
  reversals := h.reversals.trans hreversals
  sums := by
    intro p _
    rw [← hevents]
    exact h.sums p

private theorem withColumns_terms (inst : LoanInstallment) (columns : PaymentColumns) :
    SameTerms inst (inst.withColumns columns) := ⟨rfl, rfl, rfl⟩

private theorem withColumns_cursor (inst : LoanInstallment) (columns : PaymentColumns) :
    (inst.withColumns columns).projection.accruedThroughDate = inst.projection.accruedThroughDate := by
  rw [LoanInstallment.projection, LoanInstallment.projection, LoanInstallment.withColumns]
  cases inst.lateCharge <;> rfl

private theorem writeColumns_spec (h : LateBooks id db inst)
    (hok : writeColumns id db columns = .ok db') : db' = db.putInstallment (inst.withColumns columns) := by
  unfold writeColumns at hok
  simp only [bind_eq_ok, lockInstallment, orRefuse_eq_ok, h.row, Option.some.injEq,
    exists_eq_left'] at hok
  exact (flushInstallment_spec hok).1

/-- A payment joins the history, and its correction is booked. -/
theorem LateBooks.settle_step (h : LateBooks id db inst)
    (hok : (LateStep.settle s columns).apply id db = .ok db') :
    0 ≤ s.amounts.principalApplied ∧
      LateBooks id { db with settlements := db.settlements ++ [nextSettlement id db s] } inst ∧
      ∃ after, Booked id { db with settlements := db.settlements ++ [nextSettlement id db s] } inst
        (s.financialDate + 1) (adjustmentDelta
          { db with settlements := db.settlements ++ [nextSettlement id db s] } inst
          (decreaseOf id (nextSettlement id db s))) db' after := by
  simp only [LateStep.apply, bind_eq_ok, pure_eq_ok, Prod.exists, exists_and_right, exists_eq_right] at hok
  obtain ⟨⟨⟨⟩, hcheck⟩, written, hwritten, event, hadjust⟩ := hok
  obtain rfl := writeColumns_spec h hwritten
  have hterms := withColumns_terms inst columns
  have hcursor := withColumns_cursor inst columns
  have hwrite := (h.write hterms hcursor inst.dueDate).books
  have hsettle := hwrite.settle (s := nextSettlement id db s) rfl
  obtain ⟨after, hbooked⟩ := hsettle.adjustSettlement (s := nextSettlement id db s) rfl
    ⟨_, List.mem_append_right _ (List.mem_singleton_self _), rfl⟩ hadjust
  refine ⟨(checkSettlement_amounts hcheck).1.principal_nonneg, h.settle rfl, after, ?_⟩
  have hsame : adjustmentDelta { db.putInstallment (inst.withColumns columns) with
        settlements := db.settlements ++ [nextSettlement id db s] } (inst.withColumns columns)
        (decreaseOf id (nextSettlement id db s)) =
      adjustmentDelta { db with settlements := db.settlements ++ [nextSettlement id db s] } inst
        (decreaseOf id (nextSettlement id db s)) := adjustmentDelta_same hterms hcursor rfl rfl rfl
  rw [← hsame]
  exact hbooked.after_write hterms hcursor rfl rfl rfl

theorem settlementOf_eq_ok : settlementOf id db settlementId = .ok s →
    s ∈ db.settlements ∧ s.id = settlementId ∧ s.obligation = .loanInstallment id := by
  intro h
  rw [settlementOf, orRefuse_eq_ok] at h
  exact ⟨List.mem_of_find?_eq_some h, by simpa using List.find?_some h⟩

/-- A reversal joins the history, and its correction is booked. -/
theorem LateBooks.reverse_step (h : LateBooks id db inst)
    (hok : (LateStep.reverse settlementId r columns).apply id db = .ok db') :
    ∃ s, settlementOf id db settlementId = .ok s ∧ 0 ≤ s.amounts.principalApplied ∧
      db.reversalOfSettlement? s.id = none ∧
      LateBooks id { db with reversals := db.reversals ++ [nextReversal db s r] } inst ∧
      ∃ after, Booked id { db with reversals := db.reversals ++ [nextReversal db s r] } inst
        (r.financialDate + 1) (adjustmentDelta
          { db with reversals := db.reversals ++ [nextReversal db s r] } inst
          (increaseOf id (nextReversal db s r))) db' after := by
  simp only [LateStep.apply, bind_eq_ok, pure_eq_ok, Prod.exists, exists_and_right, exists_eq_right] at hok
  obtain ⟨s, hs, inserted, hinsert, written, hwritten, event, hadjust⟩ := hok
  obtain ⟨hmem, -, hobligation⟩ := settlementOf_eq_ok hs
  obtain ⟨rfl, hamounts, -, hfresh⟩ := insertReversal_eq_ok.mp hinsert
  have hfirst : db.reversalOfSettlement? s.id = none := reversalOfSettlement?_eq_none_iff.mpr hfresh
  have hreversed := h.reverse (r := nextReversal db s r) hmem hfirst rfl rfl
  obtain rfl := writeColumns_spec hreversed hwritten
  have hterms := withColumns_terms inst columns
  have hcursor := withColumns_cursor inst columns
  have hwrite := (hreversed.write hterms hcursor inst.dueDate).books
  obtain ⟨after, hbooked⟩ := hwrite.adjustReversal hobligation
    (List.mem_append_right _ (List.mem_singleton_self _)) hadjust
  refine ⟨s, hs, hamounts.principal_nonneg, hfirst, hreversed, after, ?_⟩
  have hsame : adjustmentDelta (Db.putInstallment
        { db with reversals := db.reversals ++ [nextReversal db s r] } (inst.withColumns columns))
        (inst.withColumns columns) (increaseOf id (nextReversal db s r)) =
      adjustmentDelta { db with reversals := db.reversals ++ [nextReversal db s r] } inst
        (increaseOf id (nextReversal db s r)) := adjustmentDelta_same hterms hcursor rfl rfl rfl
  rw [← hsame]
  exact hbooked.after_write hterms hcursor rfl rfl rfl

theorem LateBooks.adjustSettlement_step (h : LateBooks id db inst)
    (hok : (LateStep.adjustSettlement settlementId).apply id db = .ok db') :
    ∃ s, settlementOf id db settlementId = .ok s ∧ ∃ after, Booked id db inst (s.financialDate + 1)
      (adjustmentDelta db inst (decreaseOf id s)) db' after := by
  simp only [LateStep.apply, bind_eq_ok, pure_eq_ok, Prod.exists, exists_and_right,
    exists_eq_right] at hok
  obtain ⟨s, hs, event, hadjust⟩ := hok
  obtain ⟨hmem, -, hobligation⟩ := settlementOf_eq_ok hs
  exact ⟨s, hs, h.adjustSettlement hobligation ⟨s, hmem, rfl⟩ hadjust⟩

theorem LateBooks.adjustReversal_step (h : LateBooks id db inst)
    (hok : (LateStep.adjustReversal settlementId).apply id db = .ok db') :
    ∃ s r, settlementOf id db settlementId = .ok s ∧ db.reversalOfSettlement? settlementId = some r ∧
      ∃ after, Booked id db inst (r.financialDate + 1) (adjustmentDelta db inst (increaseOf id r)) db'
        after := by
  simp only [LateStep.apply, bind_eq_ok, pure_eq_ok, Prod.exists, exists_and_right,
    exists_eq_right] at hok
  obtain ⟨s, hs, r, hr, event, hadjust⟩ := hok
  rw [reversalOf, orRefuse_eq_ok] at hr
  exact ⟨s, r, hs, hr, h.adjustReversal (settlementOf_eq_ok hs).2.2 (List.mem_of_find?_eq_some hr) hadjust⟩

/-- The row of the fixed penalty. -/
abbrev assessmentOf (inst : LoanInstallment) : NewLateChargeEvent where
  loanInstallmentId := inst.id
  eventType := .FIXED_PENALTY_ASSESSED
  effectiveDate := inst.dueDate + 1
  amount := calculateFixedPenalty false

/-- The fixed penalty is no late interest. -/
theorem LateBooks.assess_step (h : LateBooks id db inst)
    (hok : (LateStep.assess throughDate effectiveDate).apply id db = .ok db') :
    ∃ day after, Booked id db inst day 0 db' after := by
  simp only [LateStep.apply, bind_eq_ok, pure_eq_ok, Prod.exists, exists_and_right,
    exists_eq_right] at hok
  obtain ⟨event, hok⟩ := hok
  have hsame : Booked id db inst 0 0 db inst := h.unchanged 0
  unfold materializeFixedPenalty at hok
  split at hok
  · rw [pure_eq_ok, Prod.mk.injEq] at hok
    exact ⟨0, inst, hok.1 ▸ hsame⟩
  simp only [bind_eq_ok, lockInstallment, orRefuse_eq_ok, h.row, Option.some.injEq,
    exists_eq_left'] at hok
  split at hok
  · rw [pure_eq_ok, Prod.mk.injEq] at hok
    exact ⟨0, inst, hok.1 ▸ hsame⟩
  split at hok
  · rw [pure_eq_ok, Prod.mk.injEq] at hok
    exact ⟨0, inst, hok.1 ▸ hsame⟩
  split at hok
  · simp only [bind_eq_ok, pure_eq_ok, Prod.mk.injEq] at hok
    obtain ⟨next, hflush, rfl, -⟩ := hok
    obtain ⟨rfl, -⟩ := flushInstallment_spec hflush
    refine ⟨0, _, h.write ?_ ?_ 0⟩
    · exact ⟨rfl, rfl, rfl⟩
    · rfl
  · rw [bind_eq_ok] at hok
    obtain ⟨base, -, hok⟩ := hok
    split at hok
    · rw [pure_eq_ok, Prod.mk.injEq] at hok
      exact ⟨0, inst, hok.1 ▸ hsame⟩
    · simp only [bind_eq_ok, pure_eq_ok, Prod.mk.injEq] at hok
      obtain ⟨next, hflush, rfl, -⟩ := hok
      obtain ⟨rfl, -⟩ := flushInstallment_spec hflush
      cases hrepeated : repeatedEvent? db (assessmentOf inst) with
      | some existing =>
        rw [show insertUniqueEvent db (assessmentOf inst) = (db, existing, false) by
          rw [insertUniqueEvent, hrepeated]]
        refine ⟨0, _, h.write ?_ ?_ 0⟩
        · exact ⟨rfl, rfl, rfl⟩
        · rfl
      | none =>
        rw [insertUniqueEvent_new hrepeated]
        have hrow : (recordedEvent db (assessmentOf inst)).lateDelta = 0 := lateDelta_fixed rfl
        rw [← hrow]
        refine ⟨_, _, h.book ?_ ?_ h.id_eq ?_ ?_ ?_⟩
        · exact ⟨rfl, rfl, rfl⟩
        · rfl
        · simp [recordedEvent]
        · simp [recordedEvent]
        · simp [recordedEvent]

end Steps

section Run
variable {id : Nat} {db db' : Db} {inst : LoanInstallment} {step : LateStep}

/-- The day and the amount a step would book on the ledger as a correction. -/
def booking (id : Nat) (db : Db) (inst : LoanInstallment) : LateStep → Option (Int × Int)
  | .settle s _ =>
    some (s.financialDate + 1, adjustmentDelta
      { db with settlements := db.settlements ++ [nextSettlement id db s] } inst
      (decreaseOf id (nextSettlement id db s)))
  | .reverse settlementId r _ =>
    match settlementOf id db settlementId with
    | .ok s => some (r.financialDate + 1, adjustmentDelta
        { db with reversals := db.reversals ++ [nextReversal db s r] } inst
        (increaseOf id (nextReversal db s r)))
    | .error _ => none
  | .adjustSettlement settlementId =>
    match settlementOf id db settlementId with
    | .ok s => some (s.financialDate + 1, adjustmentDelta db inst (decreaseOf id s))
    | .error _ => none
  | .adjustReversal settlementId =>
    match db.reversalOfSettlement? settlementId with
    | some r => some (r.financialDate + 1, adjustmentDelta db inst (increaseOf id r))
    | none => none
  | .assess _ _ => none
  | .accrue _ _ => none

/-- What a step does to the sums of the ledger: it adds the booking, or accruals. -/
theorem LateBooks.step_sums (h : LateBooks id db inst) (hok : step.apply id db = .ok db') :
    ∃ after, LateBooks id db' after ∧ after.dueDate = inst.dueDate ∧
      ((∃ day delta, booking id db inst step = some (day, delta) ∧
        ∀ (p : Int → Prop) [DecidablePred p], lateOn p id db'.lateChargeEvents =
          lateOn p id db.lateChargeEvents + if p day then delta else 0) ∨
      (booking id db inst step = none ∧ ∀ (p : Int → Prop) [DecidablePred p],
        lateOn p id db.lateChargeEvents ≤ lateOn p id db'.lateChargeEvents)) := by
  cases step with
  | settle s columns =>
    obtain ⟨-, -, after, hbooked⟩ := h.settle_step hok
    exact ⟨after, hbooked.books, hbooked.terms.dueDate, .inl ⟨_, _, rfl, hbooked.sums⟩⟩
  | reverse settlementId r columns =>
    obtain ⟨s, hs, -, -, -, after, hbooked⟩ := h.reverse_step hok
    refine ⟨after, hbooked.books, hbooked.terms.dueDate, .inl ⟨_, _, ?_, hbooked.sums⟩⟩
    rw [booking, hs]
  | adjustSettlement settlementId =>
    obtain ⟨s, hs, after, hbooked⟩ := h.adjustSettlement_step hok
    refine ⟨after, hbooked.books, hbooked.terms.dueDate, .inl ⟨_, _, ?_, hbooked.sums⟩⟩
    rw [booking, hs]
  | adjustReversal settlementId =>
    obtain ⟨s, r, -, hr, after, hbooked⟩ := h.adjustReversal_step hok
    refine ⟨after, hbooked.books, hbooked.terms.dueDate, .inl ⟨_, _, ?_, hbooked.sums⟩⟩
    rw [booking, hr]
  | assess throughDate effectiveDate =>
    obtain ⟨day, after, hbooked⟩ := h.assess_step hok
    refine ⟨after, hbooked.books, hbooked.terms.dueDate, .inr ⟨rfl, fun p _ => ?_⟩⟩
    rw [hbooked.sums p, ite_self, add_zero]
  | accrue throughDate effectiveDate =>
    simp only [LateStep.apply, bind_eq_ok, pure_eq_ok, Prod.exists, exists_and_right,
      exists_eq_right] at hok
    obtain ⟨created, hok⟩ := hok
    obtain ⟨after, ⟨hbooked, -⟩ | ⟨-, hextended⟩⟩ := h.accrue hok
    · refine ⟨after, hbooked.books, hbooked.terms.dueDate, .inr ⟨rfl, fun p _ => ?_⟩⟩
      rw [hbooked.sums p, ite_self, add_zero]
    · exact ⟨after, hextended.books, hextended.terms.dueDate, .inr ⟨rfl, hextended.grows⟩⟩

theorem next_books (h : ∃ inst, LateBooks id db inst) :
    ∃ inst, LateBooks id (step.next id db) inst := by
  obtain ⟨inst, h⟩ := h
  unfold LateStep.next
  split
  · rename_i db' hok
    obtain ⟨after, hbooks, -⟩ := h.step_sums hok
    exact ⟨after, hbooks⟩
  · exact ⟨inst, h⟩

/-- An installment no late interest has been materialized for, with any payments on record. -/
structure NeverLate (id : Nat) (db : Db) : Prop where
  row : ∃ inst, db.installment? id = some inst ∧ inst.projection.accruedThroughDate = none
  events : installmentEvents db id = []
  settlements : Keyed PaymentSettlement.id db.settlements
  reversed : ∀ r ∈ db.reversals, ∃ s ∈ db.settlements, s.id = r.settlementId
  givesBack : GivesBack db id

theorem NeverLate.books (h : NeverLate id db) : ∃ inst, LateBooks id db inst := by
  obtain ⟨inst, hrow, hnone⟩ := h.row
  have hdays : accruedDays db id = [] := by rw [accruedDays, h.events]; rfl
  refine ⟨inst, hrow, h.settlements, h.reversed, h.givesBack, ?_, ?_, ?_, ?_⟩
  · rw [hnone]
    exact hdays
  · simp [hdays]
  · simp [h.events]
  · simp [h.events]

end Run

end Caixinha.Effects
