import Caixinha.Library.DatedSum
import Caixinha.Effects.Charges

/-! The late-charge events of one installment as a dated ledger: what a day adds, and what the
accrual loop and the adjustments append. -/
namespace Caixinha.Effects

open Caixinha.Library Caixinha.Library.Table Caixinha.Library.DatedSum Fallible Caixinha.Model

/-- The late interest the ledger of an installment holds over some dates. -/
abbrev lateOn (p : Int → Prop) [DecidablePred p] (id : Nat) (events : List LoanLateChargeEvent) : Int :=
  sumOn LoanLateChargeEvent.effectiveDate LoanLateChargeEvent.lateDelta p
    (events.filter (fun e => e.loanInstallmentId = id))

/-- What the accrual loop has counted before a day: the events after the due date. -/
abbrev runningBefore (dueDate day : Int) (id : Nat) (events : List LoanLateChargeEvent) : Int :=
  lateOn (fun d => dueDate < d ∧ d < day) id events

section Sums
variable {id : Nat} {db : Db} {events new : List LoanLateChargeEvent} {p q : Int → Prop}
  [DecidablePred p] [DecidablePred q] {dueDate day : Int} {e : LoanLateChargeEvent}

theorem lateOn_append : lateOn p id (events ++ new) = lateOn p id events + lateOn p id new := by
  rw [lateOn, List.filter_append, sumOn_append]

theorem lateOn_singleton (h : e.loanInstallmentId = id) :
    lateOn p id [e] = if p e.effectiveDate then e.lateDelta else 0 := by
  rw [lateOn, List.filter_cons_of_pos (by simpa using h), List.filter_nil, sumOn_singleton]

/-- The late interest on record is a sum of the ledger, refused when it is negative. -/
theorem lateInterestMaterialized_eq (through : Option Int) :
    lateInterestMaterialized db id through =
      if lateOn (fun d => through.all (d ≤ ·)) id db.lateChargeEvents < 0 then
        .error (.valueError "Mora materializada não pode ser negativa.")
      else .ok (lateOn (fun d => through.all (d ≤ ·)) id db.lateChargeEvents) := by
  unfold lateInterestMaterialized installmentEvents lateOn sumOn
  simp only [Bool.decide_eq_true]

theorem lateOn_all_none :
    lateOn (fun d => (none : Option Int).all (d ≤ ·)) id events = lateOn (fun _ => True) id events :=
  sumOn_congr fun _ _ => by simp

theorem lateOn_all_some :
    lateOn (fun d => (some day).all (d ≤ ·)) id events = lateOn (fun d => d ≤ day) id events :=
  sumOn_congr fun _ _ => by simp

theorem lateInterestMaterialized_eq_ok {through : Option Int} {v : Int} :
    lateInterestMaterialized db id through = .ok v ↔
      v = lateOn (fun d => through.all (d ≤ ·)) id db.lateChargeEvents ∧ 0 ≤ v := by
  rw [lateInterestMaterialized_eq]
  split
  · constructor
    · intro h
      cases h
    · rintro ⟨rfl, h⟩
      omega
  · rw [Except.ok.injEq]
    constructor
    · rintro rfl
      exact ⟨rfl, by omega⟩
    · rintro ⟨rfl, -⟩
      rfl

end Sums

section Insert
variable {db : Db} {new : NewLateChargeEvent}

/-- The row a new event becomes. -/
def recordedEvent (db : Db) (new : NewLateChargeEvent) : LoanLateChargeEvent where
  id := nextKey LoanLateChargeEvent.id db.lateChargeEvents
  loanInstallmentId := new.loanInstallmentId
  eventType := new.eventType
  effectiveDate := new.effectiveDate
  amount := new.amount
  eligiblePrincipal := new.eligiblePrincipal
  paymentSettlementId := new.paymentSettlementId
  paymentReversalId := new.paymentReversalId

theorem insertUniqueEvent_new (h : repeatedEvent? db new = none) : insertUniqueEvent db new =
    ({ db with lateChargeEvents := db.lateChargeEvents ++ [recordedEvent db new] },
      recordedEvent db new, true) := by
  unfold insertUniqueEvent
  rw [h]
  rfl

/-- The accrual of one day. -/
abbrev accrualOn (id : Nat) (day amount : Int) (principal : Option Int) : NewLateChargeEvent where
  loanInstallmentId := id
  eventType := .LATE_INTEREST_ACCRUED
  effectiveDate := day
  amount := amount
  eligiblePrincipal := principal

/-- No accrual repeats on a day that has none. -/
theorem repeatedEvent?_accrual {id : Nat} {day amount : Int} {principal : Option Int}
    (h : day ∉ accruedDays db id) : repeatedEvent? db (accrualOn id day amount principal) = none := by
  rw [repeatedEvent?, List.find?_eq_none]
  intro e he
  simp only [decide_eq_true_eq]
  rintro ⟨htype, hdate, -⟩
  refine h (List.mem_map.mpr ⟨e, List.mem_filter.mpr ⟨he, ?_⟩, hdate trivial⟩)
  simpa using htype

end Insert

section Loop
variable {id : Nat} {db : Db} {dueDate start day : Int} {new : List LoanLateChargeEvent}
  {state next : Accrual} {row : Int × Int × Int} {rows : List (Int × Int × Int)} {deltaOn : Int → Int}

/-- What the accrual loop has appended once it has gone through the days before `day`. -/
structure Accrued (id : Nat) (db : Db) (dueDate start day : Int) (state : Accrual)
    (new : List LoanLateChargeEvent) : Prop where
  db_eq : state.db = { db with lateChargeEvents := db.lateChargeEvents ++ new }
  events : ∀ e ∈ new, e.loanInstallmentId = id ∧ e.eventType = .LATE_INTEREST_ACCRUED ∧
    0 ≤ e.amount ∧ start ≤ e.effectiveDate ∧ e.effectiveDate < day
  covers : ∀ d, start ≤ d → d < day → ∃ e ∈ new, e.effectiveDate = d
  unlinked : ∀ e ∈ new, e.paymentSettlementId = none ∧ e.paymentReversalId = none
  running : state.running = runningBefore dueDate day id state.db.lateChargeEvents

/-- The loop starts on the first overdue day with nothing appended. -/
theorem Accrued.init (hstart : dueDate < start) :
    Accrued id db dueDate start (dueDate + 1) { db } [] where
  db_eq := by simp
  events := by simp
  covers := fun d h h' => by omega
  unlinked := by simp
  running := by
    symm
    exact sumOn_eq_zero fun e _ h => by omega

/-- One round: the balance after the day, and at most one more accrual. -/
theorem Accrued.step (h : Accrued id db dueDate start day state new) (hday : dueDate < day)
    (hdelta : deltaOn day = lateOn (· = day) id db.lateChargeEvents)
    (hstart : ∀ d ∈ accruedDays db id, d < start) (hrow : row.1 = day)
    (hok : accrueDay id start deltaOn state row = .ok next) :
    0 ≤ state.running + deltaOn day ∧
      next.running = (if day < start then state.running + deltaOn day
        else max (state.running + deltaOn day) row.2.2) ∧
      ∃ new', Accrued id db dueDate start (day + 1) next new' := by
  obtain ⟨d, principal, expected⟩ := row
  obtain rfl : d = day := hrow
  have hnone : lateOn (· = d) id new = 0 := by
    refine sumOn_eq_zero fun e he hd => ?_
    have := (h.events e (List.mem_of_mem_filter he)).2.2.2.2
    omega
  have hday' : lateOn (· = d) id state.db.lateChargeEvents = deltaOn d := by
    rw [h.db_eq, lateOn_append, hnone, hdelta, add_zero]
  have hrunning : runningBefore dueDate (d + 1) id state.db.lateChargeEvents =
      state.running + deltaOn d := by
    rw [runningBefore, lateOn, sumOn_succ hday, ← hday', h.running]
  unfold accrueDay at hok
  simp only [bind_eq_ok, refuseIf_eq_ok, exists_and_left, exists_const, not_lt] at hok
  obtain ⟨hnonneg, hok⟩ := hok
  refine ⟨hnonneg, ?_⟩
  by_cases hearly : d < start
  · rw [if_pos hearly, pure_eq_ok] at hok
    subst hok
    refine ⟨by rw [if_pos hearly], new, h.db_eq, ?_, ?_, h.unlinked, hrunning.symm⟩
    · intro e he
      obtain ⟨hid, htype, hpos, hge, hlt⟩ := h.events e he
      exact ⟨hid, htype, hpos, hge, by omega⟩
    · intro k hk hk'
      exact h.covers k hk (by omega)
  · have hfresh : d ∉ accruedDays state.db id := by
      intro hmem
      obtain ⟨e, he, hdate⟩ := List.mem_map.mp hmem
      obtain ⟨he, htype⟩ := List.mem_filter.mp he
      rw [installmentEvents, h.db_eq, List.filter_append] at he
      rcases List.mem_append.mp he with he | he
      · have : d < start := hstart d (List.mem_map.mpr ⟨e, List.mem_filter.mpr ⟨he, htype⟩, hdate⟩)
        omega
      · have := (h.events e (List.mem_of_mem_filter he)).2.2.2.2
        omega
    rw [if_neg hearly, insertUniqueEvent_new (repeatedEvent?_accrual hfresh), pure_eq_ok] at hok
    subst hok
    refine ⟨?_, new ++ [recordedEvent state.db
      (accrualOn id d (max 0 (expected - (state.running + deltaOn d))) (some principal))], ?_, ?_, ?_, ?_, ?_⟩
    · rw [if_neg hearly]
      simp only [recordedEvent]
      omega
    · rw [h.db_eq]
      simp
    · intro e he
      rcases List.mem_append.mp he with he | he
      · obtain ⟨hid, htype, hpos, hge, hlt⟩ := h.events e he
        exact ⟨hid, htype, hpos, hge, by omega⟩
      · rw [List.mem_singleton.mp he]
        exact ⟨rfl, rfl, le_max_left _ _, not_lt.mp hearly, Int.lt_succ d⟩
    · intro k hk hk'
      rcases Int.lt_or_eq_of_le (Int.lt_add_one_iff.mp hk') with hlt | rfl
      · obtain ⟨e, he, hdate⟩ := h.covers k hk hlt
        exact ⟨e, List.mem_append_left _ he, hdate⟩
      · exact ⟨_, List.mem_append_right _ (List.mem_singleton_self _), rfl⟩
    · intro e he
      rcases List.mem_append.mp he with he | he
      · exact h.unlinked e he
      · rw [List.mem_singleton.mp he]
        exact ⟨rfl, rfl⟩
    · have hlast : runningBefore dueDate (d + 1) id (state.db.lateChargeEvents ++ [recordedEvent state.db
            (accrualOn id d (max 0 (expected - (state.running + deltaOn d))) (some principal))]) =
          state.running + deltaOn d + max 0 (expected - (state.running + deltaOn d)) := by
        have hone : runningBefore dueDate (d + 1) id [recordedEvent state.db
            (accrualOn id d (max 0 (expected - (state.running + deltaOn d))) (some principal))] =
            max 0 (expected - (state.running + deltaOn d)) :=
          (lateOn_singleton rfl).trans (if_pos ⟨hday, Int.lt_succ d⟩)
        exact lateOn_append.trans (congrArg₂ (· + ·) hrunning hone)
      exact hlast.symm

/-- A day is refused exactly when the balance after it is negative. -/
theorem accrueDay_of_nonneg (h : 0 ≤ state.running + deltaOn row.1) :
    ∃ next, accrueDay id start deltaOn state row = .ok next := by
  unfold accrueDay
  simp only [refuseIf, if_neg (not_lt.mpr h), ok_bind]
  split
  · exact ⟨_, rfl⟩
  · exact ⟨_, rfl⟩

theorem accrueDay_of_neg (h : state.running + deltaOn row.1 < 0) :
    accrueDay id start deltaOn state row =
      .error (.valueError "Mora materializada não pode ser negativa.") := by
  unfold accrueDay
  simp only [refuseIf, if_pos h]
  rfl

/-- Rows for one day after the other. -/
def ConsecutiveFrom : Int → List (Int × Int × Int) → Prop
  | _, [] => True
  | day, row :: rows => row.1 = day ∧ ConsecutiveFrom (day + 1) rows

theorem consecutive_scheduleFrom (principalOn : Int → Int) (n : Nat) (first : Int)
    (segments : List PrincipalSegment) :
    ConsecutiveFrom first (scheduleFrom principalOn segments
      ((List.range n).map (fun k : Nat => first + (k : Int)))) := by
  induction n generalizing first segments with
  | zero => trivial
  | succ n ih =>
    have hrest : (List.range n).map ((fun k : Nat => first + (k : Int)) ∘ Nat.succ) =
        (List.range n).map (fun k : Nat => first + 1 + (k : Int)) := by
      apply List.map_congr_left
      intro k _
      simp only [Function.comp_apply, Nat.cast_succ]
      ring
    rw [List.range_succ_eq_map, List.map_cons, List.map_map, hrest, scheduleFrom]
    refine ⟨by simp, ?_⟩
    exact ih (first + 1) _

theorem lateDays_eq (dueDate throughDate : Int) : lateDays dueDate throughDate =
    (List.range (throughDate - dueDate).toNat).map (fun k : Nat => dueDate + 1 + (k : Int)) := by
  have hcast : ∀ xs : List Nat, (do let a ← xs; pure (a : Int)) = xs.map (fun a : Nat => (a : Int)) :=
    fun xs => List.map_eq_flatMap.symm
  rw [lateDays, hcast, List.map_map]
  rfl

/-- The loop goes through when no balance it meets is negative, and `Q` holds of the balance it ends
with if every day preserves it. -/
theorem Accrued.run (Q : Int → Int → Prop) (h : Accrued id db dueDate start day state new)
    (hday : dueDate < day) (hdelta : ∀ d, deltaOn d = lateOn (· = d) id db.lateChargeEvents)
    (hstart : ∀ d ∈ accruedDays db id, d < start) (hrows : ConsecutiveFrom day rows)
    (hQ : Q day state.running)
    (hstep : ∀ row ∈ rows, ∀ r, Q row.1 r → Q (row.1 + 1)
      (if row.1 < start then r + deltaOn row.1 else max (r + deltaOn row.1) row.2.2))
    (hok : rows.foldlM (accrueDay id start deltaOn) state = .ok next) :
    ∃ new', Accrued id db dueDate start (day + rows.length) next new' ∧
      Q (day + rows.length) next.running := by
  induction rows generalizing day state new with
  | nil =>
    rw [List.foldlM_nil, pure_eq_ok] at hok
    subst hok
    exact ⟨new, by simpa using h, by simpa using hQ⟩
  | cons row rows ih =>
    obtain ⟨hrow, hrows⟩ := hrows
    rw [List.foldlM_cons, bind_eq_ok] at hok
    obtain ⟨middle, hmiddle, hok⟩ := hok
    obtain ⟨-, hrunning, new', hnext⟩ := h.step hday (hdelta day) hstart hrow hmiddle
    have hQ' : Q (day + 1) middle.running := by
      have hthis := hstep row (List.mem_cons_self ..) state.running (hrow ▸ hQ)
      rw [hrow] at hthis
      rw [hrunning]
      exact hthis
    obtain ⟨new'', hfinal, hQ''⟩ := ih hnext (by omega) hrows hQ'
      (fun row hmem => hstep row (List.mem_cons_of_mem _ hmem)) hok
    rw [List.length_cons, Nat.cast_succ, add_comm (rows.length : Int) 1, ← add_assoc]
    exact ⟨new'', hfinal, hQ''⟩

end Loop

section Cursor
variable {days more : List Int} {cursor : Option Int} {dueDate : Int}

/-- The cursor of an installment is its last accrued day. -/
def CursorOf (days : List Int) : Option Int → Prop
  | none => days = []
  | some c => c ∈ days ∧ ∀ d ∈ days, d ≤ c

/-- The first day the loop accrues. -/
def accrualStart (dueDate : Int) (days : List Int) : Int :=
  days.foldl (fun start day => max start (day + 1)) (dueDate + 1)

theorem accrualStart_spec (dueDate : Int) (days : List Int) :
    dueDate < accrualStart dueDate days ∧ ∀ d ∈ days, d < accrualStart dueDate days := by
  have hmono : ∀ (first : Int) (xs : List Int), first ≤ xs.foldl (fun start day => max start (day + 1)) first ∧
      ∀ d ∈ xs, d < xs.foldl (fun start day => max start (day + 1)) first := by
    intro first xs
    induction xs generalizing first with
    | nil => simp
    | cons x xs ih =>
      obtain ⟨hle, hall⟩ := ih (max first (x + 1))
      rw [List.foldl_cons]
      refine ⟨by omega, fun d hd => ?_⟩
      rcases List.mem_cons.mp hd with rfl | hd
      · omega
      · exact hall d hd
  obtain ⟨hle, hall⟩ := hmono (dueDate + 1) days
  exact ⟨by rw [accrualStart]; omega, hall⟩

theorem CursorOf.start (h : CursorOf days cursor) (hdue : ∀ d ∈ days, dueDate < d) :
    accrualStart dueDate days = cursor.getD dueDate + 1 := by
  have hupper : ∀ (bound first : Int) (xs : List Int), first ≤ bound → (∀ d ∈ xs, d + 1 ≤ bound) →
      xs.foldl (fun start day => max start (day + 1)) first ≤ bound := by
    intro bound first xs hfirst hall
    induction xs generalizing first with
    | nil => simpa using hfirst
    | cons x xs ih =>
      rw [List.foldl_cons]
      have := hall x (List.mem_cons_self ..)
      exact ih (max first (x + 1)) (by omega) fun d hd => hall d (List.mem_cons_of_mem _ hd)
  obtain ⟨hlt, hall⟩ := accrualStart_spec dueDate days
  cases cursor with
  | none =>
    rw [show days = [] from h]
    rfl
  | some c =>
    obtain ⟨hmem, hmax⟩ := h
    have hge := hall c hmem
    have hdue' := hdue c hmem
    have hle : accrualStart dueDate days ≤ c + 1 :=
      hupper (c + 1) (dueDate + 1) days (by omega) fun d hd => by
        have := hmax d hd
        omega
    rw [Option.getD_some]
    omega

/-- The new cursor is the last accrued day again. -/
theorem CursorOf.advance (h : CursorOf days cursor) : CursorOf (days ++ more)
    ((days ++ more).foldl (fun cursor day => some (cursor.elim day (max day))) cursor) := by
  have hfold : ∀ (seen xs : List Int) (c : Option Int), CursorOf seen c →
      CursorOf (seen ++ xs) (xs.foldl (fun cursor day => some (cursor.elim day (max day))) c) := by
    intro seen xs
    induction xs generalizing seen with
    | nil => simp
    | cons x xs ih =>
      intro c hc
      have hnext : CursorOf (seen ++ [x]) (some (c.elim x (max x))) := by
        cases c with
        | none =>
          rw [show seen = [] from hc]
          simp [CursorOf]
        | some c =>
          obtain ⟨hmem, hmax⟩ := hc
          refine ⟨?_, fun d hd => ?_⟩
          · rcases le_total x c with hle | hle
            · simp [max_eq_right hle, hmem]
            · simp [max_eq_left hle]
          · simp only [Option.elim_some]
            rcases List.mem_append.mp hd with hd | hd
            · exact (hmax d hd).trans (le_max_right _ _)
            · rw [List.mem_singleton.mp hd]
              exact le_max_left _ _
      have hrest := ih (seen ++ [x]) _ hnext
      rwa [List.append_assoc, List.singleton_append] at hrest
  have hall := hfold days (days ++ more) cursor h
  have hsame : ∀ d, d ∈ days ++ (days ++ more) ↔ d ∈ days ++ more := by
    intro d
    simp only [List.mem_append]
    tauto
  revert hall
  generalize (days ++ more).foldl (fun cursor day => some (cursor.elim day (max day))) cursor = c
  intro hall
  cases c with
  | none =>
    rw [CursorOf, List.append_eq_nil_iff] at hall
    exact hall.2
  | some c => exact ⟨(hsame c).mp hall.1, fun d hd => hall.2 d ((hsame d).mpr hd)⟩

end Cursor

section Daily
variable {id : Nat} {db db' : Db} {inst : LoanInstallment} {throughDate : Int} {effectiveDate : Option Int}
  {created : List LoanLateChargeEvent} {rows : List (Int × Int × Int)}

/-- The principal base the schedule of a day is computed from. -/
def basePrincipal (inst : LoanInstallment) (movements : List (Int × Int)) (day : Int) : Int :=
  max 0 (inst.principal - principalPaidThrough movements day)

theorem dailyLateSchedule_eq_ok : dailyLateSchedule db inst throughDate = .ok rows ↔
    ∃ movements, latePrincipalMovements db inst.id = .ok movements ∧
      rows = scheduleFrom (basePrincipal inst movements) [] (lateDays inst.dueDate throughDate) := by
  unfold dailyLateSchedule
  simp only [bind_eq_ok, pure_eq_ok]
  constructor
  · rintro ⟨movements, hmovements, rfl⟩
    exact ⟨movements, hmovements, rfl⟩
  · rintro ⟨movements, hmovements, rfl⟩
    exact ⟨movements, hmovements, rfl⟩

theorem length_scheduleFrom (principalOn : Int → Int) (segments : List PrincipalSegment)
    (days : List Int) : (scheduleFrom principalOn segments days).length = days.length := by
  induction days generalizing segments with
  | nil => rfl
  | cons day days ih => rw [scheduleFrom, List.length_cons, ih, List.length_cons]

theorem consecutive_dailyLateSchedule (h : dailyLateSchedule db inst throughDate = .ok rows) :
    ConsecutiveFrom (inst.dueDate + 1) rows ∧ rows.length = (throughDate - inst.dueDate).toNat := by
  obtain ⟨movements, -, rfl⟩ := dailyLateSchedule_eq_ok.mp h
  rw [lateDays_eq]
  exact ⟨consecutive_scheduleFrom _ _ _ _, by rw [length_scheduleFrom]; simp⟩

/-- The loop of one call, from the state it starts in. -/
def accrueAll (id : Nat) (db : Db) (dueDate : Int) (rows : List (Int × Int × Int)) : Tx Accrual :=
  rows.foldlM (accrueDay id (accrualStart dueDate (accruedDays db id))
    (fun day => lateOn (· = day) id db.lateChargeEvents)) { db }

/-- The columns a call writes once its accruals are appended. -/
def accruedInstallment (inst : LoanInstallment) (id : Nat) (events : List LoanLateChargeEvent) :
    LoanInstallment :=
  { inst with lateCharge := some { inst.projection with
      accruedThroughDate := (((events.filter (fun e => e.loanInstallmentId = id)).filter
        (fun e => e.eventType = .LATE_INTEREST_ACCRUED)).map (·.effectiveDate)).foldl
          (fun cursor day => some (cursor.elim day (max day))) inst.projection.accruedThroughDate
      lateInterestAmount := lateOn (fun _ => True) id events } }

/-- What a successful call did: nothing, or the accruals of the days it went through. -/
theorem materializeDailyLateInterest_spec
    (h : materializeDailyLateInterest db id throughDate effectiveDate = .ok (db', created)) :
    (db' = db ∧ ∀ inst, db.installment? id = some inst →
        isLateChargeEligible inst.dueDate effectiveDate = true → throughDate ≤ inst.dueDate) ∨
      ∃ inst rows final, db.installment? id = some inst ∧
      isLateChargeEligible inst.dueDate effectiveDate = true ∧ inst.dueDate < throughDate ∧
      dailyLateSchedule db inst throughDate = .ok rows ∧
      accrueAll id db inst.dueDate rows = .ok final ∧
      db' = final.db.putInstallment (accruedInstallment inst id final.db.lateChargeEvents) := by
  unfold materializeDailyLateInterest at h
  split at h
  · rename_i hnone
    rw [pure_eq_ok, Prod.mk.injEq] at h
    refine .inl ⟨h.1.symm, fun inst _ heligible => ?_⟩
    rw [Option.isNone_iff_eq_none.mp hnone] at heligible
    cases heligible
  rw [bind_eq_ok] at h
  obtain ⟨inst, hinst, h⟩ := h
  rw [lockInstallment, orRefuse_eq_ok] at hinst
  obtain rfl : inst.id = id := lookup_key hinst
  split at h
  · rename_i heligible
    rw [pure_eq_ok, Prod.mk.injEq] at h
    refine .inl ⟨h.1.symm, fun x hx hyes => ?_⟩
    obtain rfl := Option.some.inj (hinst.symm.trans hx)
    exact absurd hyes heligible
  rename_i heligible
  split at h
  · rename_i hthrough
    rw [pure_eq_ok, Prod.mk.injEq] at h
    refine .inl ⟨h.1.symm, fun x hx _ => ?_⟩
    obtain rfl := Option.some.inj (hinst.symm.trans hx)
    exact hthrough
  rename_i hthrough
  simp only [bind_eq_ok, pure_eq_ok, Prod.mk.injEq] at h
  obtain ⟨schedule, hschedule, accrual, hfold, late, hlate, next, hflush, rfl, -⟩ := h
  obtain ⟨rfl, -⟩ := flushInstallment_spec hflush
  obtain ⟨rfl, -⟩ := lateInterestMaterialized_eq_ok.mp hlate
  refine .inr ⟨inst, schedule, accrual, hinst, by simpa using heligible, not_le.mp hthrough, hschedule, ?_, ?_⟩
  · rw [accrueAll, ← hfold]
    rfl
  · rw [lateOn_all_none]
    rfl

/-- The loop does not fail when no balance of the ledger is negative after the due date. -/
theorem accrueAll_ok {dueDate : Int} (hrows : ConsecutiveFrom (dueDate + 1) rows)
    (hnonneg : ∀ day, dueDate < day → 0 ≤ runningBefore dueDate (day + 1) id db.lateChargeEvents) :
    ∃ final, accrueAll id db dueDate rows = .ok final := by
  obtain ⟨hdue, hstart⟩ := accrualStart_spec dueDate (accruedDays db id)
  suffices hall : ∀ (rows : List (Int × Int × Int)) (day : Int) (state : Accrual)
      (new : List LoanLateChargeEvent), dueDate < day → ConsecutiveFrom day rows →
      Accrued id db dueDate (accrualStart dueDate (accruedDays db id)) day state new →
      ∃ final, rows.foldlM (accrueDay id (accrualStart dueDate (accruedDays db id))
        (fun day => lateOn (· = day) id db.lateChargeEvents)) state = .ok final from
    hall rows (dueDate + 1) { db } [] (by omega) hrows (Accrued.init hdue)
  intro rows
  induction rows with
  | nil => exact fun day state new _ _ _ => ⟨state, rfl⟩
  | cons row rows ih =>
    intro day state new hday hrows h
    obtain ⟨hrow, hrows⟩ := hrows
    have hbalance : 0 ≤ state.running + lateOn (· = row.1) id db.lateChargeEvents := by
      have hnew : 0 ≤ runningBefore dueDate day id new := by
        refine sumOn_nonneg fun e he => ?_
        obtain ⟨-, htype, hpos, -⟩ := h.events e (List.mem_of_mem_filter he)
        simpa [LoanLateChargeEvent.lateDelta, htype] using hpos
      have hafter := hnonneg day hday
      rw [runningBefore, lateOn, sumOn_succ hday] at hafter
      have hrunning : state.running = runningBefore dueDate day id db.lateChargeEvents +
          runningBefore dueDate day id new := by
        rw [h.running, h.db_eq]
        exact lateOn_append
      rw [hrow, hrunning]
      unfold runningBefore lateOn at hnew ⊢
      omega
    obtain ⟨middle, hmiddle⟩ : ∃ next, accrueDay id (accrualStart dueDate (accruedDays db id))
      (fun day => lateOn (· = day) id db.lateChargeEvents) state row = .ok next :=
      accrueDay_of_nonneg hbalance
    obtain ⟨-, -, new', hnext⟩ := h.step hday rfl hstart hrow hmiddle
    obtain ⟨final, hfinal⟩ := ih (day + 1) middle new' (by omega) hrows hnext
    exact ⟨final, by rw [List.foldlM_cons, hmiddle, ok_bind, hfinal]⟩

/-- And it fails on a negative balance of a day that is accrued already. -/
theorem accrueAll_error {dueDate bad : Int} (hrows : ConsecutiveFrom (dueDate + 1) rows)
    (hlength : bad ≤ dueDate + rows.length) (hbad : dueDate < bad)
    (hearly : bad < accrualStart dueDate (accruedDays db id))
    (hneg : runningBefore dueDate (bad + 1) id db.lateChargeEvents < 0) :
    accrueAll id db dueDate rows =
      .error (.valueError "Mora materializada não pode ser negativa.") := by
  obtain ⟨hdue, hstart⟩ := accrualStart_spec dueDate (accruedDays db id)
  suffices hall : ∀ (rows : List (Int × Int × Int)) (day : Int) (state : Accrual)
      (new : List LoanLateChargeEvent), dueDate < day → day ≤ bad → bad < day + rows.length →
      ConsecutiveFrom day rows →
      Accrued id db dueDate (accrualStart dueDate (accruedDays db id)) day state new →
      rows.foldlM (accrueDay id (accrualStart dueDate (accruedDays db id))
        (fun day => lateOn (· = day) id db.lateChargeEvents)) state =
        .error (.valueError "Mora materializada não pode ser negativa.") from
    hall rows (dueDate + 1) { db } [] (by omega) (by omega) (by omega) hrows (Accrued.init hdue)
  intro rows
  induction rows with
  | nil =>
    intro day state new _ hle hlt
    rw [List.length_nil] at hlt
    omega
  | cons row rows ih =>
    intro day state new hday hle hlt hrows h
    obtain ⟨hrow, hrows⟩ := hrows
    rw [List.foldlM_cons]
    by_cases hbalance : state.running + lateOn (· = row.1) id db.lateChargeEvents < 0
    · rw [accrueDay_of_neg hbalance]
      rfl
    · obtain ⟨middle, hmiddle⟩ : ∃ next, accrueDay id (accrualStart dueDate (accruedDays db id))
        (fun day => lateOn (· = day) id db.lateChargeEvents) state row = .ok next :=
        accrueDay_of_nonneg (not_lt.mp hbalance)
      obtain ⟨-, -, new', hnext⟩ := h.step hday rfl hstart hrow hmiddle
      rw [hmiddle, ok_bind]
      rcases Int.lt_or_eq_of_le hle with hlater | rfl
      · rw [List.length_cons, Nat.cast_succ] at hlt
        exact ih (day + 1) middle new' (by omega) (by omega) (by omega) hrows hnext
      · exfalso
        have hnew : runningBefore dueDate day id new = 0 := by
          refine sumOn_eq_zero fun e he _ => ?_
          have := (h.events e (List.mem_of_mem_filter he)).2.2.2
          omega
        have hrunning : state.running = runningBefore dueDate day id db.lateChargeEvents +
            runningBefore dueDate day id new := by
          rw [h.running, h.db_eq]
          exact lateOn_append
        rw [runningBefore, lateOn, sumOn_succ hday] at hneg
        rw [hrow, hrunning, hnew] at hbalance
        unfold runningBefore lateOn at hbalance
        omega

end Daily

section Adjustment
variable {id : Nat} {db db' : Db} {inst : LoanInstallment} {new : NewLateChargeEvent}
  {event : Option LoanLateChargeEvent}

/-- The correction an adjustment books, from what is on record through the cursor and what the
principal base of now would have borne. -/
def correction (type : LateChargeEventType) (current expected : Int) : Int :=
  if type = .LATE_INTEREST_ADJUSTMENT_DECREASE then min (max 0 (current - expected)) current
  else max 0 (expected - current)

/-- The columns an adjustment writes. -/
def adjustedInstallment (inst : LoanInstallment) (events : List LoanLateChargeEvent) : LoanInstallment :=
  { inst with lateCharge := some { inst.projection with
      lateInterestAmount := lateOn (fun _ => True) inst.id events } }

/-- What a successful adjustment did: nothing, or one row dated at the latest on the cursor. -/
theorem materializeAdjustment_spec (h : materializeAdjustment db inst new = .ok (db', event)) :
    (db' = db ∧ ∀ cursor, inst.projection.accruedThroughDate = some cursor →
        new.effectiveDate ≤ cursor → (repeatedEvent? db new).isSome) ∨ ∃ cursor expected row, inst.projection.accruedThroughDate = some cursor ∧
      new.effectiveDate ≤ cursor ∧ repeatedEvent? db new = none ∧
      expectedLateInterest db inst cursor = .ok expected ∧
      0 ≤ lateOn (fun d => d ≤ cursor) inst.id db.lateChargeEvents ∧
      row = recordedEvent db { new with
        amount := correction new.eventType
          (lateOn (fun d => d ≤ cursor) inst.id db.lateChargeEvents) expected } ∧
      db' = { db with lateChargeEvents := db.lateChargeEvents ++ [row] }.putInstallment
        (adjustedInstallment inst (db.lateChargeEvents ++ [row])) := by
  unfold materializeAdjustment at h
  split at h
  · rename_i hcursor
    rw [pure_eq_ok, Prod.mk.injEq] at h
    exact .inl ⟨h.1.symm, by simp [hcursor]⟩
  rename_i cursor hcursor
  split at h
  · rename_i hdate
    rw [pure_eq_ok, Prod.mk.injEq] at h
    refine .inl ⟨h.1.symm, fun c hc hle => ?_⟩
    rw [hcursor, Option.some.injEq] at hc
    omega
  rename_i hdate
  split at h
  · rename_i existing hexisting
    rw [pure_eq_ok, Prod.mk.injEq] at h
    exact .inl ⟨h.1.symm, by simp [hexisting]⟩
  rename_i hnone
  simp only [bind_eq_ok, pure_eq_ok, Prod.mk.injEq] at h
  obtain ⟨current, hcurrent, expected, hexpected, late, hlate, next, hflush, rfl, -⟩ := h
  obtain ⟨rfl, hnonneg⟩ := lateInterestMaterialized_eq_ok.mp hcurrent
  rw [lateOn_all_some] at hnonneg hflush hlate
  have hinsert : ∀ amount, insertUniqueEvent db { new with amount } =
      ({ db with lateChargeEvents := db.lateChargeEvents ++ [recordedEvent db { new with amount }] },
        recordedEvent db { new with amount }, true) := fun amount => insertUniqueEvent_new hnone
  rw [hinsert] at hlate hflush
  obtain ⟨rfl, -⟩ := lateInterestMaterialized_eq_ok.mp hlate
  obtain ⟨rfl, -⟩ := flushInstallment_spec hflush
  refine .inr ⟨cursor, expected, _, hcursor, not_lt.mp hdate, hnone, hexpected, hnonneg, rfl, ?_⟩
  rw [lateOn_all_none]
  rfl

end Adjustment

end Caixinha.Effects
