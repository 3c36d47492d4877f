import Caixinha.Effects.LatePrincipal
import Caixinha.Model.LateHistory

/-! What stays true of the late-charge ledger of an installment, and what one correction and one
accrual add to it. -/
namespace Caixinha.Effects

open Caixinha.Library Caixinha.Library.Table Caixinha.Library.DatedSum Fallible Caixinha.Model

/-- The ledger of the installment `id` along its history: the cursor is the last accrued day, and
every row of late interest is dated at the latest on it and names a settlement or reversal on record. -/
structure LateBooks (id : Nat) (db : Db) (inst : LoanInstallment) : Prop where
  row : db.installment? id = some inst
  settlements : Keyed PaymentSettlement.id db.settlements
  reversed : ∀ r ∈ db.reversals, ∃ s ∈ db.settlements, s.id = r.settlementId
  givesBack : GivesBack db id
  cursor : CursorOf (accruedDays db id) inst.projection.accruedThroughDate
  overdue : ∀ d ∈ accruedDays db id, inst.dueDate < d
  dated : ∀ e ∈ installmentEvents db id, e.eventType ≠ .FIXED_PENALTY_ASSESSED →
    ∃ c, inst.projection.accruedThroughDate = some c ∧ e.effectiveDate ≤ c
  linked : ∀ e ∈ installmentEvents db id,
    (∀ k, e.paymentSettlementId = some k → ∃ s ∈ db.settlements, s.id = k) ∧
      ∀ k, e.paymentReversalId = some k → ∃ r ∈ db.reversals, r.id = k

/-- What of an installment bears on its late interest. -/
structure SameTerms (inst after : LoanInstallment) : Prop where
  id_eq : after.id = inst.id
  dueDate : after.dueDate = inst.dueDate
  principal : after.principal = inst.principal

section Sums
variable {id : Nat} {db : Db} {inst : LoanInstallment} {p q : Int → Prop} [DecidablePred p]
  [DecidablePred q] {c : Int}

theorem LateBooks.id_eq (h : LateBooks id db inst) : inst.id = id := lookup_key h.row

theorem lateDelta_fixed {e : LoanLateChargeEvent} (h : e.eventType = .FIXED_PENALTY_ASSESSED) :
    e.lateDelta = 0 := by
  simp [LoanLateChargeEvent.lateDelta, h]

/-- Only the days through the cursor matter. -/
theorem LateBooks.sum_congr (h : LateBooks id db inst)
    (hpq : ∀ c d, inst.projection.accruedThroughDate = some c → d ≤ c → (p d ↔ q d)) :
    lateOn p id db.lateChargeEvents = lateOn q id db.lateChargeEvents := by
  refine sumOn_congr_of_ne_zero fun e he hamount => ?_
  obtain ⟨c, hc, hle⟩ := h.dated e he fun hfixed => hamount (lateDelta_fixed hfixed)
  exact hpq c e.effectiveDate hc hle

theorem LateBooks.sum_none (h : LateBooks id db inst)
    (hnone : inst.projection.accruedThroughDate = none) : lateOn p id db.lateChargeEvents = 0 := by
  rw [h.sum_congr (q := fun _ => False) (by simp [hnone])]
  exact sumOn_eq_zero fun _ _ hfalse => hfalse

/-- The whole ledger is its prefix through the cursor. -/
theorem LateBooks.total_nonneg (h : LateBooks id db inst)
    (hthrough : ∀ day, 0 ≤ lateOn (fun d => d ≤ day) id db.lateChargeEvents) :
    0 ≤ lateOn (fun _ => True) id db.lateChargeEvents := by
  have hcursor := hthrough (inst.projection.accruedThroughDate.getD 0)
  rwa [h.sum_congr (q := fun _ => True) (fun c d hc hd => by simpa [hc] using hd)] at hcursor

theorem LateBooks.due_lt (h : LateBooks id db inst)
    (hc : inst.projection.accruedThroughDate = some c) : inst.dueDate < c := by
  have hcursor := h.cursor
  rw [hc] at hcursor
  exact h.overdue c hcursor.1

theorem LateBooks.start (h : LateBooks id db inst) : accrualStart inst.dueDate (accruedDays db id) =
    inst.projection.accruedThroughDate.getD inst.dueDate + 1 := h.cursor.start h.overdue

theorem LateBooks.due_le (h : LateBooks id db inst) :
    inst.dueDate ≤ inst.projection.accruedThroughDate.getD inst.dueDate := by
  cases hc : inst.projection.accruedThroughDate with
  | none => exact le_rfl
  | some c => exact (h.due_lt hc).le

/-- The days before and after the due date make up the ledger. -/
theorem lateOn_due (db : Db) (id : Nat) {dueDate day : Int} (hday : dueDate ≤ day) :
    lateOn (fun d => d ≤ day) id db.lateChargeEvents =
      lateOn (fun d => d ≤ dueDate) id db.lateChargeEvents +
        runningBefore dueDate (day + 1) id db.lateChargeEvents := by
  unfold runningBefore lateOn
  rw [← sumOn_or (fun x _ => by omega)]
  refine sumOn_congr fun x _ => ?_
  omega

end Sums

section Extend
variable {id : Nat} {db : Db} {inst after : LoanInstallment} {new : List LoanLateChargeEvent}
  {s : PaymentSettlement} {r : PaymentReversal}

/-- The days among some new rows that are accruals. -/
def newDays (new : List LoanLateChargeEvent) : List Int :=
  (new.filter (fun e => e.eventType = .LATE_INTEREST_ACCRUED)).map (·.effectiveDate)

theorem installmentEvents_append (db : Db) (h : ∀ e ∈ new, e.loanInstallmentId = id) :
    installmentEvents { db with lateChargeEvents := db.lateChargeEvents ++ new } id =
      installmentEvents db id ++ new := by
  have hall : new.filter (fun e => e.loanInstallmentId = id) = new :=
    List.filter_eq_self.mpr fun e he => by simpa using h e he
  rw [installmentEvents, List.filter_append, hall, installmentEvents]

theorem accruedDays_append (db : Db) (h : ∀ e ∈ new, e.loanInstallmentId = id) :
    accruedDays { db with lateChargeEvents := db.lateChargeEvents ++ new } id =
      accruedDays db id ++ newDays new := by
  rw [accruedDays, installmentEvents_append db h, List.filter_append, List.map_append]
  rfl

/-- New rows of the ledger with the columns that follow them. -/
theorem LateBooks.extend (h : LateBooks id db inst) (hterms : SameTerms inst after)
    (hnew : ∀ e ∈ new, e.loanInstallmentId = id)
    (hcursor : CursorOf (accruedDays db id ++ newDays new) after.projection.accruedThroughDate)
    (hoverdue : ∀ d ∈ newDays new, inst.dueDate < d)
    (hdated : ∀ e ∈ installmentEvents db id ++ new, e.eventType ≠ .FIXED_PENALTY_ASSESSED →
      ∃ c, after.projection.accruedThroughDate = some c ∧ e.effectiveDate ≤ c)
    (hlinked : ∀ e ∈ new, (∀ k, e.paymentSettlementId = some k → ∃ s ∈ db.settlements, s.id = k) ∧
      ∀ k, e.paymentReversalId = some k → ∃ r ∈ db.reversals, r.id = k) :
    LateBooks id (Db.putInstallment { db with lateChargeEvents := db.lateChargeEvents ++ new } after)
      after where
  row := by
    have hid : after.id = id := hterms.id_eq.trans h.id_eq
    have hrow : lookup LoanInstallment.id db.loanInstallments after.id = some inst := by
      rw [hid]
      exact h.row
    have hself := lookup_replace_self hrow
    rwa [hid] at hself
  settlements := h.settlements
  reversed := h.reversed
  givesBack := h.givesBack
  cursor := by
    have hdays := accruedDays_append db hnew
    exact hdays ▸ hcursor
  overdue := by
    have hdays := accruedDays_append db hnew
    intro d hd
    rw [hterms.dueDate]
    rcases List.mem_append.mp (hdays ▸ hd : d ∈ accruedDays db id ++ newDays new) with hd | hd
    · exact h.overdue d hd
    · exact hoverdue d hd
  dated := by
    have hevents := installmentEvents_append db hnew
    intro e he
    exact hdated e (hevents ▸ he)
  linked := by
    have hevents := installmentEvents_append db hnew
    intro e he
    rcases List.mem_append.mp (hevents ▸ he : e ∈ installmentEvents db id ++ new) with he | he
    · exact h.linked e he
    · exact hlinked e he

/-- A settlement that no reversal names yet. -/
theorem LateBooks.unreversed (h : LateBooks id db inst)
    (hid : s.id = nextKey PaymentSettlement.id db.settlements) :
    db.reversalOfSettlement? s.id = none := by
  rw [reversalOfSettlement?_eq_none_iff]
  intro r hr heq
  obtain ⟨x, hx, hxid⟩ := h.reversed r hr
  have hlt : x.id < nextKey PaymentSettlement.id db.settlements := key_lt_nextKey hx
  omega

theorem LateBooks.settle (h : LateBooks id db inst)
    (hid : s.id = nextKey PaymentSettlement.id db.settlements) :
    LateBooks id { db with settlements := db.settlements ++ [s] } inst where
  row := h.row
  settlements := keyed_append h.settlements hid
  reversed := by
    intro r hr
    obtain ⟨x, hx, hxid⟩ := h.reversed r hr
    exact ⟨x, List.mem_append_left _ hx, hxid⟩
  givesBack := by
    intro x hx hobligation r hr
    rcases List.mem_append.mp hx with hx | hx
    · exact h.givesBack x hx hobligation r hr
    · have hnone : db.reversalOfSettlement? s.id = none := h.unreversed hid
      rw [List.mem_singleton.mp hx] at hr
      exact absurd (hr.symm.trans hnone) (by simp)
  cursor := h.cursor
  overdue := h.overdue
  dated := h.dated
  linked := by
    intro e he
    obtain ⟨hsettlement, hreversal⟩ := h.linked e he
    refine ⟨fun k hk => ?_, hreversal⟩
    obtain ⟨x, hx, hxid⟩ := hsettlement k hk
    exact ⟨x, List.mem_append_left _ hx, hxid⟩

theorem LateBooks.reverse (h : LateBooks id db inst) (hs : s ∈ db.settlements)
    (hfirst : db.reversalOfSettlement? s.id = none) (hsettlement : r.settlementId = s.id)
    (hamounts : r.amounts.principalApplied = s.amounts.principalApplied) :
    LateBooks id { db with reversals := db.reversals ++ [r] } inst where
  row := h.row
  settlements := h.settlements
  reversed := by
    intro x hx
    rcases List.mem_append.mp hx with hx | hx
    · exact h.reversed x hx
    · rw [List.mem_singleton.mp hx]
      exact ⟨s, hs, hsettlement.symm⟩
  givesBack := by
    intro x hx hobligation back hback
    rw [Db.reversalOfSettlement?, List.find?_append] at hback
    by_cases hxs : x.id = s.id
    · obtain rfl : x = s := eq_of_mem_of_key h.settlements hx hs hxs
      rw [Db.reversalOfSettlement?] at hfirst
      rw [hfirst, List.find?_cons_of_pos (by simpa using hsettlement), Option.none_or,
        Option.some.injEq] at hback
      rw [← hback, hamounts]
    · rw [List.find?_cons_of_neg (by simpa [hsettlement] using Ne.symm hxs), List.find?_nil,
        Option.or_none] at hback
      exact h.givesBack x hx hobligation back hback
  cursor := h.cursor
  overdue := h.overdue
  dated := h.dated
  linked := by
    intro e he
    obtain ⟨hlinked, hreversal⟩ := h.linked e he
    refine ⟨hlinked, fun k hk => ?_⟩
    obtain ⟨x, hx, hxid⟩ := hreversal k hk
    exact ⟨x, List.mem_append_left _ hx, hxid⟩

end Extend

section Booking
variable {id : Nat} {db db' : Db} {inst after : LoanInstallment} {new : NewLateChargeEvent}
  {s : PaymentSettlement} {r : PaymentReversal} {event : Option LoanLateChargeEvent}

/-- What an adjustment would add to the ledger now. -/
def adjustmentDelta (db : Db) (inst : LoanInstallment) (new : NewLateChargeEvent) : Int :=
  match inst.projection.accruedThroughDate with
  | none => 0
  | some c =>
    if c < new.effectiveDate ∨ (repeatedEvent? db new).isSome then 0
    else
      let amount := correction new.eventType
        (lateOn (fun d => d ≤ c) inst.id db.lateChargeEvents) (lateInterestAtOnce db inst c)
      if new.eventType = .LATE_INTEREST_ADJUSTMENT_DECREASE then -amount else amount

/-- The ledger with one amount added on a day, the rest of the late interest as it was. -/
structure Booked (id : Nat) (db : Db) (inst : LoanInstallment) (day delta : Int) (db' : Db)
    (after : LoanInstallment) : Prop where
  books : LateBooks id db' after
  terms : SameTerms inst after
  cursor : after.projection.accruedThroughDate = inst.projection.accruedThroughDate
  settlements : db'.settlements = db.settlements
  reversals : db'.reversals = db.reversals
  sums : ∀ (p : Int → Prop) [DecidablePred p], lateOn p id db'.lateChargeEvents =
    lateOn p id db.lateChargeEvents + if p day then delta else 0

theorem SameTerms.refl (inst : LoanInstallment) : SameTerms inst inst := ⟨rfl, rfl, rfl⟩

/-- Nothing of the late interest changed. -/
theorem LateBooks.unchanged (h : LateBooks id db inst) (day : Int) : Booked id db inst day 0 db inst where
  books := h
  terms := .refl inst
  cursor := rfl
  settlements := rfl
  reversals := rfl
  sums := by simp

/-- Writing other columns leaves the late interest as it was. -/
theorem LateBooks.write (h : LateBooks id db inst) (hterms : SameTerms inst after)
    (hcursor : after.projection.accruedThroughDate = inst.projection.accruedThroughDate) (day : Int) :
    Booked id db inst day 0 (db.putInstallment after) after where
  books := by
    have hbooks : LateBooks id (Db.putInstallment
        { db with lateChargeEvents := db.lateChargeEvents ++ [] } after) after := by
      refine h.extend hterms (by simp) ?_ (by simp [newDays]) ?_ (by simp)
      · rw [newDays, List.filter_nil, List.map_nil, List.append_nil, hcursor]
        exact h.cursor
      · rw [List.append_nil, hcursor]
        exact h.dated
    simpa using hbooks
  terms := hterms
  cursor := hcursor
  settlements := rfl
  reversals := rfl
  sums := by simp [Db.putInstallment]

/-- A new row that accrues no day, dated at the latest on the cursor. -/
theorem LateBooks.book (h : LateBooks id db inst) {row : LoanLateChargeEvent}
    (hterms : SameTerms inst after)
    (hcursor : after.projection.accruedThroughDate = inst.projection.accruedThroughDate)
    (hid : row.loanInstallmentId = id) (htype : row.eventType ≠ .LATE_INTEREST_ACCRUED)
    (hdated : row.eventType ≠ .FIXED_PENALTY_ASSESSED →
      ∃ c, inst.projection.accruedThroughDate = some c ∧ row.effectiveDate ≤ c)
    (hlinked : (∀ k, row.paymentSettlementId = some k → ∃ s ∈ db.settlements, s.id = k) ∧
      ∀ k, row.paymentReversalId = some k → ∃ r ∈ db.reversals, r.id = k) :
    Booked id db inst row.effectiveDate row.lateDelta
      (Db.putInstallment { db with lateChargeEvents := db.lateChargeEvents ++ [row] } after) after where
  books := by
    have hdays : newDays [row] = [] := by simp [newDays, htype]
    refine h.extend hterms (by simpa using hid) ?_ (by simp [hdays]) ?_ (by simpa using hlinked)
    · rw [hdays, List.append_nil, hcursor]
      exact h.cursor
    · intro e he hfixed
      rw [hcursor]
      rcases List.mem_append.mp he with he | he
      · exact h.dated e he hfixed
      · rw [List.mem_singleton.mp he] at hfixed ⊢
        exact hdated hfixed
  terms := hterms
  cursor := hcursor
  settlements := rfl
  reversals := rfl
  sums := by
    intro p _
    have hsum : lateOn p id (db.lateChargeEvents ++ [row]) =
        lateOn p id db.lateChargeEvents + if p row.effectiveDate then row.lateDelta else 0 := by
      rw [lateOn_append, lateOn_singleton hid]
    exact hsum

/-- An adjustment books what the ledger differs by from the principal base of now. -/
theorem LateBooks.adjust (h : LateBooks id db inst) (hid : new.loanInstallmentId = id)
    (htype : new.eventType = .LATE_INTEREST_ADJUSTMENT_DECREASE ∨
      new.eventType = .LATE_INTEREST_ADJUSTMENT_INCREASE)
    (hlinked : (∀ k, new.paymentSettlementId = some k → ∃ s ∈ db.settlements, s.id = k) ∧
      ∀ k, new.paymentReversalId = some k → ∃ r ∈ db.reversals, r.id = k)
    (hok : materializeAdjustment db inst new = .ok (db', event)) :
    ∃ after, Booked id db inst new.effectiveDate (adjustmentDelta db inst new) db' after := by
  obtain ⟨rfl, hnone⟩ | ⟨c, expected, row, hc, hdate, hnone, hexpected, -, hrow, rfl⟩ :=
    materializeAdjustment_spec hok
  · have hzero : adjustmentDelta db' inst new = 0 := by
      unfold adjustmentDelta
      split
      · rfl
      · rename_i c hc
        refine if_pos ?_
        by_cases hdate : new.effectiveDate ≤ c
        · exact .inr (hnone c hc hdate)
        · exact .inl (not_le.mp hdate)
    rw [hzero]
    exact ⟨inst, h.unchanged _⟩
  · have hdelta : adjustmentDelta db inst new = row.lateDelta := by
      rw [adjustmentDelta, hc, hrow]
      simp only [hnone, Option.isSome_none, Bool.false_eq_true, or_false, if_neg (not_lt.mpr hdate)]
      rw [← expectedLateInterest_eq hexpected]
      rcases htype with htype | htype <;>
        simp [recordedEvent, LoanLateChargeEvent.lateDelta, htype]
    have hday : new.effectiveDate = row.effectiveDate := by rw [hrow]; rfl
    have hsame : row.eventType = new.eventType := by rw [hrow]; rfl
    rw [hdelta, hday]
    refine ⟨adjustedInstallment inst (db.lateChargeEvents ++ [row]), h.book ⟨rfl, rfl, rfl⟩ rfl ?_ ?_ ?_ ?_⟩
    · rw [hrow]
      exact hid
    · rw [hsame]
      rcases htype with htype | htype <;> simp [htype]
    · exact fun _ => ⟨c, hc, hday ▸ hdate⟩
    · rw [hrow]
      exact hlinked

/-- The row the correction of a settlement asks for. -/
abbrev decreaseOf (id : Nat) (s : PaymentSettlement) : NewLateChargeEvent where
  loanInstallmentId := id
  eventType := .LATE_INTEREST_ADJUSTMENT_DECREASE
  effectiveDate := s.financialDate + 1
  amount := 0
  paymentSettlementId := some s.id

/-- And the correction of a reversal. -/
abbrev increaseOf (id : Nat) (r : PaymentReversal) : NewLateChargeEvent where
  loanInstallmentId := id
  eventType := .LATE_INTEREST_ADJUSTMENT_INCREASE
  effectiveDate := r.financialDate + 1
  amount := 0
  paymentReversalId := some r.id

private theorem delta_none (hnone : inst.lateCharge.isNone) : adjustmentDelta db inst new = 0 := by
  have hcursor : inst.projection.accruedThroughDate = none := by
    rw [LoanInstallment.projection, Option.isNone_iff_eq_none.mp hnone]
    rfl
  rw [adjustmentDelta, hcursor]

theorem LateBooks.adjustSettlement (h : LateBooks id db inst)
    (hobligation : s.obligation = .loanInstallment id) (hs : ∃ x ∈ db.settlements, x.id = s.id)
    (hok : materializeSettlementLateInterestAdjustment db s = .ok (db', event)) :
    ∃ after, Booked id db inst (s.financialDate + 1) (adjustmentDelta db inst (decreaseOf id s)) db'
      after := by
  unfold materializeSettlementLateInterestAdjustment at hok
  rw [hobligation] at hok
  simp only [bind_eq_ok, lockInstallment, orRefuse_eq_ok, h.row, Option.some.injEq,
    exists_eq_left'] at hok
  split at hok
  · rename_i hnone
    rw [pure_eq_ok, Prod.mk.injEq] at hok
    rw [delta_none hnone, ← hok.1]
    exact ⟨inst, h.unchanged _⟩
  · rw [h.id_eq] at hok
    exact h.adjust rfl (.inl rfl) ⟨by simpa using hs, by simp⟩ hok

theorem LateBooks.adjustReversal (h : LateBooks id db inst)
    (hobligation : s.obligation = .loanInstallment id) (hr : r ∈ db.reversals)
    (hok : materializeReversalLateInterestAdjustment db s r = .ok (db', event)) :
    ∃ after, Booked id db inst (r.financialDate + 1) (adjustmentDelta db inst (increaseOf id r)) db'
      after := by
  unfold materializeReversalLateInterestAdjustment at hok
  rw [hobligation] at hok
  simp only [bind_eq_ok, lockInstallment, orRefuse_eq_ok, h.row, Option.some.injEq,
    exists_eq_left'] at hok
  split at hok
  · rename_i hnone
    rw [pure_eq_ok, Prod.mk.injEq] at hok
    rw [delta_none hnone, ← hok.1]
    exact ⟨inst, h.unchanged _⟩
  · rw [h.id_eq] at hok
    exact h.adjust rfl (.inr rfl) ⟨by simp, by simpa using ⟨r, hr, rfl⟩⟩ hok

end Booking

end Caixinha.Effects
