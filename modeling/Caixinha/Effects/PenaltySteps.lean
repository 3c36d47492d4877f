import Caixinha.Effects.PixCharges
import Caixinha.Effects.PenaltyBooks
import Caixinha.Model.PenaltyRegimes

/-! What the materializations of late charges, the operations of the program and the worker leave of
the books of installments. -/
namespace Caixinha.Effects

open Caixinha.Library Caixinha.Library.Table Caixinha.Library.DatedSum Caixinha.Library.Decimal Fallible
open Caixinha.Model

section Materialize
variable {env : Env} {db db' : Db} {id : Nat} {day : Int} {effectiveDate : Option Int}
  {events : List LoanLateChargeEvent}

private theorem find?_fixed :
    (events.filter (fun e => e.loanInstallmentId = id)).find?
        (fun e => e.eventType = .FIXED_PENALTY_ASSESSED) = (fixedEvents id events).head? := by
  rw [← List.head?_filter, List.filter_filter, fixedEvents]
  congr 2
  funext e
  rw [Bool.decide_and, Bool.and_comm]

/-- The columns an assessment writes. -/
def assessedInstallment (inst : LoanInstallment) (amount : Int) : LoanInstallment :=
  { inst with lateCharge := some { inst.projection with fixedPenaltyAmount := amount } }

/-- The row of the fixed penalty of an installment. -/
def assessmentRow (db : Db) (inst : LoanInstallment) : LoanLateChargeEvent :=
  recordedEvent db
    { loanInstallmentId := inst.id, eventType := .FIXED_PENALTY_ASSESSED
      effectiveDate := inst.dueDate + 1, amount := calculateFixedPenalty false }

/-- What a successful assessment did: nothing, the columns of the row there was, or the first row. -/
theorem materializeFixedPenalty_spec {event : Option LoanLateChargeEvent}
    (h : materializeFixedPenalty db id day effectiveDate = .ok (db', event)) :
    db' = db ∨ ∃ inst, db.installment? id = some inst ∧
      ((∃ existing, (fixedEvents id db.lateChargeEvents).head? = some existing ∧
          db' = db.putInstallment (assessedInstallment inst existing.amount)) ∨
        (fixedEvents id db.lateChargeEvents = [] ∧
          db' = { db with lateChargeEvents := db.lateChargeEvents ++ [assessmentRow db inst] }.putInstallment
            (assessedInstallment inst (assessmentRow db inst).amount))) := by
  unfold materializeFixedPenalty at h
  split at h
  · rw [pure_eq_ok, Prod.mk.injEq] at h
    exact .inl h.1.symm
  rw [bind_eq_ok] at h
  obtain ⟨inst, hinst, h⟩ := h
  rw [lockInstallment, orRefuse_eq_ok] at hinst
  obtain rfl : inst.id = id := lookup_key hinst
  split at h
  · rw [pure_eq_ok, Prod.mk.injEq] at h
    exact .inl h.1.symm
  dsimp only at h
  split at h
  · rw [pure_eq_ok, Prod.mk.injEq] at h
    exact .inl h.1.symm
  rw [installmentEvents, find?_fixed] at h
  split at h
  · rename_i existing hexisting
    simp only [bind_eq_ok, pure_eq_ok, Prod.mk.injEq] at h
    obtain ⟨next, hflush, rfl, -⟩ := h
    obtain ⟨rfl, -⟩ := flushInstallment_spec hflush
    exact .inr ⟨inst, hinst, .inl ⟨existing, hexisting, rfl⟩⟩
  · rename_i hnone
    rw [bind_eq_ok] at h
    obtain ⟨base, -, h⟩ := h
    split at h
    · rw [pure_eq_ok, Prod.mk.injEq] at h
      exact .inl h.1.symm
    · have hempty : fixedEvents inst.id db.lateChargeEvents = [] := List.head?_eq_none_iff.mp hnone
      have hunrepeated : repeatedEvent? db
          { loanInstallmentId := inst.id, eventType := .FIXED_PENALTY_ASSESSED
            effectiveDate := inst.dueDate + 1, amount := calculateFixedPenalty false } = none := by
        rw [repeatedEvent?, List.find?_eq_none]
        intro e he hrepeated
        rw [installmentEvents, List.mem_filter] at he
        have hmem : e ∈ fixedEvents inst.id db.lateChargeEvents :=
          List.mem_filter.mpr ⟨he.1, by simpa using ⟨of_decide_eq_true he.2, (of_decide_eq_true hrepeated).1⟩⟩
        rw [hempty] at hmem
        cases hmem
      simp only [bind_eq_ok, pure_eq_ok, Prod.mk.injEq] at h
      obtain ⟨next, hflush, rfl, -⟩ := h
      obtain ⟨rfl, -⟩ := flushInstallment_spec hflush
      refine .inr ⟨inst, hinst, .inr ⟨hempty, ?_⟩⟩
      rw [insertUniqueEvent_new hunrepeated]
      rfl

theorem regular_materializeFixedPenalty {event : Option LoanLateChargeEvent} (h : RegularBooks env db)
    (hok : materializeFixedPenalty db id day effectiveDate = .ok (db', event)) :
    RegularBooks env db' := by
  obtain rfl | ⟨inst, hinst, hwritten⟩ := materializeFixedPenalty_spec hok
  · exact h
  obtain rfl : inst.id = id := lookup_key hinst
  have hrow := h inst.id inst hinst
  rcases hwritten with ⟨existing, hexisting, rfl⟩ | ⟨hempty, rfl⟩
  · have hsingle : fixedEvents inst.id db.lateChargeEvents = [existing] := by
      have honce := hrow.books.once
      obtain ⟨rest, hlist⟩ := List.head?_eq_some_iff.mp hexisting
      rw [hlist, List.length_cons] at honce
      rw [hlist, List.length_eq_zero_iff.mp (by omega : rest.length = 0)]
    have hfixed : existing.amount = fixedOn inst.id db.lateChargeEvents := by
      rw [fixedOn, hsingle, List.map_singleton, List.sum_singleton]
    refine h.write (y := assessedInstallment inst existing.amount) (w := []) hinst rfl ?_ (by simp) ?_
    · rw [List.append_nil]
      rfl
    · exact ⟨⟨hrow.books.once, hfixed, hrow.books.lateInterest⟩, hrow.within⟩
  · have hrowid : (assessmentRow db inst).loanInstallmentId = inst.id := rfl
    have hone : fixedEvents inst.id [assessmentRow db inst] = [assessmentRow db inst] :=
      List.filter_cons_of_pos (decide_eq_true ⟨hrowid, rfl⟩)
    have hfixed : fixedOn inst.id (db.lateChargeEvents ++ [assessmentRow db inst]) =
        (assessmentRow db inst).amount := by
      rw [fixedOn, fixedEvents_append, hempty, List.nil_append, hone, List.map_singleton,
        List.sum_singleton]
    have hlate : lateOn (fun _ => True) inst.id (db.lateChargeEvents ++ [assessmentRow db inst]) =
        lateOn (fun _ => True) inst.id db.lateChargeEvents := by
      have hzero : (assessmentRow db inst).lateDelta = 0 := rfl
      rw [lateOn_append, lateOn_singleton hrowid, hzero, ite_self, add_zero]
    refine h.write (y := assessedInstallment inst (assessmentRow db inst).amount)
      (w := [assessmentRow db inst]) hinst rfl rfl ?_ ⟨⟨?_, hfixed.symm, ?_⟩, ?_⟩
    · intro e he
      rw [List.mem_singleton.mp he]
      exact hrowid
    · change (fixedEvents inst.id (db.lateChargeEvents ++ [assessmentRow db inst])).length ≤ 1
      rw [fixedEvents_append, hempty, List.nil_append, hone, List.length_singleton]
    · exact hrow.books.lateInterest.trans hlate.symm
    · intro heligible
      have hwithin := hrow.within heligible
      have hnone : fixedOn inst.id db.lateChargeEvents = 0 := by rw [fixedOn, hempty]; rfl
      change inst.penaltyAmount ≤ ledgerCharges inst.id (db.lateChargeEvents ++ [assessmentRow db inst])
      rw [ledgerCharges, hnone] at hwithin
      rw [ledgerCharges, hfixed, hlate]
      have hamount : (assessmentRow db inst).amount = 1000 := rfl
      omega

theorem regular_materializeDailyLateInterest {created : List LoanLateChargeEvent}
    (h : RegularBooks env db)
    (hok : materializeDailyLateInterest db id day effectiveDate = .ok (db', created)) :
    RegularBooks env db' := by
  obtain ⟨rfl, -⟩ | ⟨inst, rows, final, hinst, -, -, hrows, hfinal, rfl⟩ :=
    materializeDailyLateInterest_spec hok
  · exact h
  obtain rfl : inst.id = id := lookup_key hinst
  have hrow := h inst.id inst hinst
  obtain ⟨hstart, hdays⟩ := accrualStart_spec inst.dueDate (accruedDays db inst.id)
  obtain ⟨new, haccrued, -⟩ := Accrued.run (fun _ _ => True) (Accrued.init hstart) (Int.lt_succ _)
    (fun _ => rfl) hdays (consecutive_dailyLateSchedule hrows).1 trivial (fun _ _ _ _ => trivial) hfinal
  have hevents : final.db.lateChargeEvents = db.lateChargeEvents ++ new := by rw [haccrued.db_eq]
  have hnone : fixedEvents inst.id new = [] := by
    apply List.filter_eq_nil_iff.mpr
    intro e he
    have htype := (haccrued.events e he).2.1
    simp [htype]
  have hfixed : fixedOn inst.id final.db.lateChargeEvents = fixedOn inst.id db.lateChargeEvents := by
    rw [fixedOn, hevents, fixedEvents_append, hnone, List.append_nil, fixedOn]
  have hgrows : lateOn (fun _ => True) inst.id db.lateChargeEvents ≤
      lateOn (fun _ => True) inst.id final.db.lateChargeEvents := by
    have hnonneg : 0 ≤ lateOn (fun _ => True) inst.id new := by
      refine sumOn_nonneg fun e he => ?_
      obtain ⟨-, htype, hpos, -⟩ := haccrued.events e (List.mem_of_mem_filter he)
      simpa [LoanLateChargeEvent.lateDelta, htype] using hpos
    rw [hevents, lateOn_append]
    omega
  refine h.write (y := accruedInstallment inst inst.id final.db.lateChargeEvents) (w := new) hinst ?_
    hevents (fun e he => (haccrued.events e he).1) ⟨⟨?_, ?_, rfl⟩, fun heligible => ?_⟩
  · rw [haccrued.db_eq]
    rfl
  · change (fixedEvents inst.id final.db.lateChargeEvents).length ≤ 1
    rw [hevents, fixedEvents_append, hnone, List.append_nil]
    exact hrow.books.once
  · exact hrow.books.fixedPenalty.trans hfixed.symm
  · have hwithin := hrow.within heligible
    change inst.penaltyAmount ≤ ledgerCharges inst.id final.db.lateChargeEvents
    rw [ledgerCharges] at hwithin ⊢
    omega

/-- A correction of the late interest, and the penalty written after it. -/
private theorem regular_adjusted {new : NewLateChargeEvent} {event : Option LoanLateChargeEvent}
    {inst x : LoanInstallment} (h : RegularBooks env db) (hinst : db.installment? id = some inst)
    (hid : new.loanInstallmentId = inst.id) (htype : new.eventType ≠ .FIXED_PENALTY_ASSESSED)
    (hok : materializeAdjustment db inst new = .ok (db', event))
    (hx : db'.installment? id = some x) : RegularBooks env (db'.putInstallment x.withPenaltyTotal) := by
  obtain rfl : inst.id = id := lookup_key hinst
  have hrow := h inst.id inst hinst
  obtain ⟨rfl, -⟩ | ⟨cursor, expected, row, -, -, -, -, -, hrecorded, rfl⟩ :=
    materializeAdjustment_spec hok
  · obtain rfl := Option.some.inj (hinst.symm.trans hx)
    have hkey := (withPenaltyTotal_projection inst).2.1
    refine h.write (y := inst.withPenaltyTotal) (w := []) (x := inst) (hkey.symm ▸ hinst) rfl ?_
      (by simp) hrow.withPenaltyTotal
    rw [List.append_nil]
    rfl
  · have hrowid : row.loanInstallmentId = inst.id := by rw [hrecorded]; exact hid
    have hnone : fixedEvents inst.id [row] = [] := by
      have hrowtype : row.eventType = new.eventType := by rw [hrecorded]; rfl
      simp [fixedEvents, hrowtype, htype]
    have hself : adjustedInstallment inst (db.lateChargeEvents ++ [row]) = x := by
      refine Option.some.inj (Eq.trans ?_ hx)
      exact (@lookup_replace_self _ LoanInstallment.id _
        (adjustedInstallment inst (db.lateChargeEvents ++ [row])) _ hinst).symm
    have hbooks : InBooks (db.lateChargeEvents ++ [row]) x := by
      rw [← hself]
      refine ⟨?_, ?_, rfl⟩
      · change (fixedEvents inst.id (db.lateChargeEvents ++ [row])).length ≤ 1
        rw [fixedEvents_append, hnone, List.append_nil]
        exact hrow.books.once
      · change inst.projection.fixedPenaltyAmount = fixedOn inst.id (db.lateChargeEvents ++ [row])
        rw [fixedOn, fixedEvents_append, hnone, List.append_nil]
        exact hrow.books.fixedPenalty
    have hkey : x.withPenaltyTotal.id = inst.id := by
      rw [(withPenaltyTotal_projection x).2.1, ← hself]
      rfl
    refine h.write (y := x.withPenaltyTotal) (w := [row]) (x := inst) (hkey.symm ▸ hinst) ?_ rfl ?_ ?_
    · refine replace_replace ?_ _
      rw [hkey]
      rfl
    · intro e he
      rw [List.mem_singleton.mp he, hrowid, hkey]
    · exact hbooks.withPenaltyTotal (by rw [← hself]; rfl)

end Materialize

section Settle
variable {env : Env} {db db' : Db} {clock effectiveAt received : Int} {c : Confirmation}
  {payment : Payment} {app : Application} {s settlement : PaymentSettlement} {r : PaymentReversal}
  {id paymentId adminId : Nat} {reason : String} {now : Option Timestamp}

/-- The correction of a settlement or a reversal, and the penalty written after it. -/
private theorem regular_corrected {event : Option LoanLateChargeEvent} {mid : Db}
    {inst x : LoanInstallment} {new : NewLateChargeEvent} (h : RegularBooks env db)
    (hinst : db.installment? id = some inst) (hid : new.loanInstallmentId = inst.id)
    (htype : new.eventType ≠ .FIXED_PENALTY_ASSESSED)
    (hok : (if inst.lateCharge.isNone then pure (db, none) else materializeAdjustment db inst new) =
      .ok (mid, event))
    (hx : mid.installment? id = some x) (hflush : flushInstallment mid x.withPenaltyTotal = .ok db') :
    RegularBooks env db' := by
  obtain ⟨rfl, -⟩ := flushInstallment_spec hflush
  split at hok
  · rw [pure_eq_ok, Prod.mk.injEq] at hok
    obtain ⟨rfl, -⟩ := hok
    have hkey : x.withPenaltyTotal.id = id := (withPenaltyTotal_projection x).2.1.trans (lookup_key hx)
    refine h.write (y := x.withPenaltyTotal) (w := []) (x := x) (hkey.symm ▸ hx) rfl ?_ (by simp)
      (h id x hx).withPenaltyTotal
    rw [List.append_nil]
    rfl
  · exact regular_adjusted h hinst hid htype hok hx

private theorem regular_adjustAfterSettlement (h : RegularBooks env db)
    (hok : adjustAfterSettlement db s = .ok db') : RegularBooks env db' := by
  unfold adjustAfterSettlement at hok
  split at hok
  · rename_i id _ hobligation
    simp only [bind_eq_ok, lockInstallment, orRefuse_eq_ok, Prod.exists] at hok
    obtain ⟨mid, event, hadjust, x, hx, hflush⟩ := hok
    unfold materializeSettlementLateInterestAdjustment at hadjust
    rw [hobligation] at hadjust
    simp only [bind_eq_ok, lockInstallment, orRefuse_eq_ok] at hadjust
    obtain ⟨inst, hinst, hadjust⟩ := hadjust
    exact regular_corrected h hinst rfl (fun htype => by cases htype) hadjust hx hflush
  · rw [Except.ok.injEq] at hok
    exact hok ▸ h

private theorem regular_adjustAfterReversal (h : RegularBooks env db)
    (hobligation : settlement.obligation = .loanInstallment id)
    (hok : adjustAfterReversal db settlement r id = .ok db') : RegularBooks env db' := by
  unfold adjustAfterReversal at hok
  split at hok
  · rw [Except.ok.injEq] at hok
    exact hok ▸ h
  · simp only [bind_eq_ok, lockInstallment, orRefuse_eq_ok, Prod.exists] at hok
    obtain ⟨mid, event, hadjust, x, hx, hflush⟩ := hok
    unfold materializeReversalLateInterestAdjustment at hadjust
    rw [hobligation] at hadjust
    simp only [bind_eq_ok, lockInstallment, orRefuse_eq_ok] at hadjust
    obtain ⟨inst, hinst, hadjust⟩ := hadjust
    exact regular_corrected h hinst rfl (fun htype => by cases htype) hadjust hx hflush

/-- The columns a payment of a versioned row leaves. -/
private theorem regular_allocateTo {events : List LoanLateChargeEvent} {x : LoanInstallment}
    {a : Allocation} {financialDate remaining : Int} (h : RegularRow env events x) :
    RegularRow env events (allocateTo x a effectiveAt financialDate remaining) := by
  have hcredited : RegularRow env events { x with
      paidAmount := x.paidAmount + a.base
      paidPenaltyAmount := x.paidPenaltyAmount + a.penalty
      lateCharge := x.lateCharge.map (fun p => { p with
        paidFixedPenaltyAmount := p.paidFixedPenaltyAmount + a.fixedPenalty
        paidLateInterestAmount := p.paidLateInterestAmount + a.lateInterest }) } := by
    refine h.same ⟨rfl, rfl, rfl, ?_, ?_⟩
    · cases hp : x.lateCharge <;> simp [LoanInstallment.projection, hp]
    · cases hp : x.lateCharge <;> simp [LoanInstallment.projection, hp]
  unfold allocateTo
  dsimp only
  split
  · exact hcredited.withPenaltyTotal.same ⟨rfl, rfl, rfl, rfl, rfl⟩
  · exact hcredited.withPenaltyTotal.same ⟨rfl, rfl, rfl, rfl, rfl⟩

private theorem allocateTo_id {x : LoanInstallment} {a : Allocation} {financialDate remaining : Int} :
    (allocateTo x a effectiveAt financialDate remaining).id = x.id := by
  unfold allocateTo
  dsimp only
  split
  · exact (withPenaltyTotal_projection _).2.1
  · exact (withPenaltyTotal_projection _).2.1

private theorem regular_charges {day : Int} {charged : Db} {inst : LoanInstallment}
    {obligation : LoanInstallmentObligation} (h : RegularBooks env db)
    (hcharged : ChargedFor env db id day charged inst obligation) : RegularBooks env charged := by
  obtain ⟨penalized, event, created, hpenalty, hdaily⟩ := hcharged.charges
  exact regular_materializeDailyLateInterest (regular_materializeFixedPenalty h hpenalty) hdaily

private theorem regular_applied (hs : Sound db) (h : RegularBooks env db)
    (hposted : payment.ledgerPostedAt = none)
    (happ : applyToObligation env db clock effectiveAt received c payment = .ok app) :
    Keyed LoanInstallment.id app.db.loanInstallments ∧ RegularBooks env app.db := by
  rcases applyToObligation_cases happ with ⟨inst, agreement, -, -, -, happ⟩ |
      ⟨contribution, -, happ⟩ | ⟨inst, -, hinst, happ⟩
  · obtain ⟨row, after, agreementAfter, -, -, -, -, -, -, -, rfl⟩ := applyToAgreementInstallment_spec happ
    exact ⟨hs.installments, h.congr rfl rfl⟩
  · obtain ⟨locked, account, rows, hlock, -, -, rfl⟩ := applyToContribution_spec hposted happ
    obtain ⟨accounts, rfl, -⟩ := lockMemberFinancialAccount_spec hlock
    exact ⟨hs.installments, h.congr rfl rfl⟩
  · obtain ⟨new, happlied, -⟩ := installment_applied hs happ
    refine ⟨keyed_of_keys happlied.installments hs.installments, ?_⟩
    unfold applyToInstallment at happ
    simp only [bind_eq_ok, orRefuse_eq_ok, Prod.exists] at happ
    obtain ⟨loan, -, locked, account, hlock, happ⟩ := happ
    obtain ⟨accounts, rfl, -⟩ := lockMemberFinancialAccount_spec hlock
    have hlocked : RegularBooks env { db with accounts := db.accounts ++ accounts } := h.congr rfl rfl
    split at happ
    · obtain ⟨at_, charged, x, due, a, after, interestRows, penaltyRows, entries, loanAfter, evidence,
        -, -, hcharged, -, -, -, rfl, -, -, -, -, -, -, rfl⟩ := applyToVersionedInstallment_spec happ
      have hbooks := regular_charges hlocked hcharged
      refine hbooks.write (y := allocateTo x a at_.instant (financialCivilDate at_.instant) _)
        (w := []) (x := x) ?_ rfl (by simp) (by simp) ?_
      · rw [allocateTo_id, lookup_key hcharged.row]
        exact hcharged.row
      · exact regular_allocateTo (hbooks _ x hcharged.row)
    · obtain ⟨after, penalty, base, penaltyRows, interestRows, entries, loanAfter, evidence, hpay, -, -,
        -, -, -, -, rfl⟩ := applyToLegacyInstallment_spec happ
      have hsame : SameCharges inst after := by
        have hafter : after = (applyPayment inst received clock).1 := by rw [hpay]
        rw [hafter]
        exact ⟨rfl, rfl, rfl, rfl, rfl⟩
      refine hlocked.write (y := after) (w := []) (x := inst) ?_ rfl (by simp) (by simp) ?_
      · rw [hsame.id_eq]
        exact hinst
      · exact (hlocked _ inst hinst).same hsame

theorem regular_settle (hs : Sound db) (h : RegularBooks env db)
    (hok : settleConfirmedPixPayment env db clock paymentId c = .ok (db', s)) :
    RegularBooks env db' := by
  obtain ⟨payment, hp, hid, ⟨-, rfl⟩ | ⟨hnone, hposted, -, app, happ, hrecord⟩⟩ := settle_cases hok
  · exact h
  subst hid
  obtain ⟨hkeyed, happlied⟩ := regular_applied hs h hposted happ
  obtain ⟨charged, entries, -, hadjust, -, -, rfl⟩ := recordSettlement_spec hkeyed hrecord
  have hrecorded : RegularBooks env (recordedDb payment c clock (effectiveInstant clock payment c)
      (receivedAmount payment) app) := happlied.congr rfl rfl
  exact (regular_adjustAfterSettlement hrecorded hadjust).congr rfl rfl

theorem regular_reverse (hs : Sound db) (h : RegularBooks env db)
    (hok : reversePayment env db clock paymentId adminId reason now = .ok (db', r)) :
    RegularBooks env db' := by
  obtain ⟨payment, -, -, ⟨-, rfl⟩ | ⟨-, -, settlement, -, hreverse⟩⟩ := reverse_cases hok
  · exact h
  unfold reverseObligation at hreverse
  split at hreverse
  · rename_i id hobligation
    obtain ⟨e, locked, account, plan, x, -, hlock, hplan, hx, hwrite⟩ := reverseLoanPayment_spec hreverse
    obtain ⟨accounts, rfl, -⟩ := lockMemberFinancialAccount_spec hlock
    obtain rfl : plan.inst.id = id := lookup_key hplan.installment
    have hkeyed : Keyed LoanInstallment.id
        { db with accounts := db.accounts ++ accounts }.loanInstallments := hs.installments
    obtain ⟨pairs, components, entries, adjusted, snapshot, -, -, -, -, -, -, -, -, hadjust, -, rfl⟩ :=
      writeLoanReversal_spec hkeyed hx.id_eq hobligation hwrite
    have hwritten : RegularBooks env (reversedLoanDb { db with accounts := db.accounts ++ accounts }
        settlement plan e x entries (pairs.map Prod.snd) components) := by
      refine h.write (y := restoredInstallment plan.inst x.amounts settlement.components e) (w := [])
        (x := plan.inst) hplan.installment rfl ?_ (by simp) ?_
      · rw [List.append_nil]
        rfl
      · refine (h _ _ hplan.installment).same ⟨rfl, rfl, rfl, ?_, ?_⟩
        · cases settlement.components <;> cases hp : plan.inst.lateCharge <;>
            simp [restoredInstallment, LoanInstallment.projection, hp]
        · cases settlement.components <;> cases hp : plan.inst.lateCharge <;>
            simp [restoredInstallment, LoanInstallment.projection, hp]
    exact (regular_adjustAfterReversal hwritten hobligation hadjust).congr rfl rfl
  · obtain ⟨e, agreement, inst, original, x, -, -, -, hreversal, hwrite⟩ :=
      reverseAgreementPayment_spec hs.ledger hreverse
    obtain ⟨compensating, components, snapshot, -, -, -, -, -, -, rfl⟩ :=
      writeAgreementReversal_spec hreversal.id_eq hwrite
    exact h.congr rfl rfl
  · obtain ⟨c, locked, account, credit, originals, pairs, components, entries, -, hreversible, -, -, -,
      -, -, rfl⟩ := reverseContributionPayment_spec hreverse
    obtain ⟨accounts, rfl, -⟩ := lockMemberFinancialAccount_spec hreversible.lock
    exact h.congr rfl rfl

end Settle

section Operations
variable {env : Env} {db db' : Db} {clock : Int} {id : Nat}

theorem regular_attemptSnapshot {inst : LoanInstallment} {day : Int} {due : LoanInstallmentObligation}
    {snapshot : Json.Value} (h : RegularBooks env db)
    (hok : attemptSnapshot env db inst day = .ok (db', due, snapshot)) : RegularBooks env db' := by
  unfold attemptSnapshot at hok
  simp only [bind_eq_ok, pure_eq_ok, Prod.exists, Prod.mk.injEq] at hok
  obtain ⟨penalized, event, hpenalty, charged, created, hdaily, x, -, due', -, snapshot', -, rfl, -⟩ := hok
  exact regular_materializeDailyLateInterest (regular_materializeFixedPenalty h hpenalty) hdaily

theorem regular_putPayment (h : RegularBooks env db) (p : Payment) : RegularBooks env (db.putPayment p) :=
  h.congr rfl rfl

theorem regular_reserve {now : Option Timestamp} {reservation : Reservation} (h : RegularBooks env db)
    (hok : reserve env db clock id now = .ok reservation) : RegularBooks env reservation.db := by
  unfold reserve at hok
  simp only [bind_eq_ok, refuseIf_eq_ok, lockInstallment, orRefuse_eq_ok, Prod.exists,
    exists_and_left, exists_const] at hok
  obtain ⟨inst, -, -, charged, due, snapshot, hsnapshot, -, hok⟩ := hok
  have hcharged := regular_attemptSnapshot h hsnapshot
  have hinsert : ∀ (x : Db) (attempt : Payment), RegularBooks env x →
      RegularBooks env (insertAttempt x id attempt).db := by
    intro x attempt hx
    unfold insertAttempt
    split
    · exact hx
    · exact hx.congr rfl rfl
  split at hok
  · rw [pure_eq_ok] at hok
    exact hok ▸ hinsert _ _ hcharged
  · simp only [bind_eq_ok] at hok
    obtain ⟨decision, -, hok⟩ := hok
    split at hok
    · rw [pure_eq_ok] at hok
      exact hok ▸ hcharged
    · simp only [bind_eq_ok, pure_eq_ok] at hok
      obtain ⟨retired, -, rfl⟩ := hok
      exact hinsert _ _ (regular_putPayment hcharged retired)

theorem regular_approve {paymentId : Nat} {confirmedAt : Option Timestamp} {payload : RemotePayload}
    {result : Option PaymentSettlement} (hs : Sound db) (h : RegularBooks env db)
    (hok : approveOrReconcile env db clock paymentId confirmedAt payload = .ok (db', result)) :
    RegularBooks env db' := by
  obtain ⟨found, hfound, happroval⟩ := approve_cases hok
  obtain rfl : found.id = paymentId := lookup_key hfound
  have hquote : ∀ {id confirmed charged due snapshot}, Quoted env db (confirmedBy found confirmedAt)
      confirmedAt id confirmed charged due snapshot → RegularBooks env charged := by
    intro id confirmed charged due snapshot hquoted
    obtain ⟨inst, -, hsnapshot⟩ := hquoted.quote
    exact regular_attemptSnapshot h hsnapshot
  cases happroval with
  | aside status => exact regular_putPayment h _
  | expired => exact regular_putPayment h _
  | mismatch hquoted => exact regular_putPayment (hquote hquoted) _
  | already hquoted => exact regular_putPayment (hquote hquoted) _
  | @settled id confirmed charged due snapshot _ s hquoted _ _ hsettle =>
    have hstep : Step (fun p => p.id = found.id) False (referredBy db found.id) db
        (charged.putPayment (approvedAttempt (confirmedBy found confirmedAt))) :=
      step_chargedPut hs (hquoted.charges hs) hfound rfl rfl ⟨fun h => h, nofun⟩
    exact regular_settle (hstep.sound hs) (regular_putPayment (hquote hquoted) _) hsettle

theorem regular_settleWithOwnBalance {financialAt : Option Timestamp} {result : OwnBalanceResult}
    (h : RegularBooks env db)
    (hok : settleLoanWithOwnBalance db clock id financialAt = .ok (db', result)) :
    RegularBooks env db' := by
  unfold settleLoanWithOwnBalance at hok
  simp only [bind_eq_ok, refuseIf_eq_ok, orRefuse_eq_ok, Prod.exists, exists_and_left,
    exists_const] at hok
  obtain ⟨-, loan, -, locked, account, hlock, hok⟩ := hok
  obtain ⟨accounts, rfl, -⟩ := lockMemberFinancialAccount_spec hlock
  split at hok
  · rw [pure_eq_ok, Prod.mk.injEq] at hok
    obtain ⟨rfl, -⟩ := hok
    exact h.congr rfl rfl
  · simp only [bind_eq_ok, pure_eq_ok, refuseIf_eq_ok, Prod.exists, Prod.mk.injEq, exists_and_left,
      exists_const] at hok
    obtain ⟨-, -, -, quote, -, -, -, -, credited, e, hadd, rfl, -⟩ := hok
    obtain ⟨rfl, -⟩ := addMemberFinancialEntry_spec hadd
    refine h.forall₂ (List.forall₂_map_right_iff.mpr (List.forall₂_same.mpr fun i _ => ?_)) rfl
    split
    · exact ⟨rfl, rfl, rfl, rfl, rfl⟩
    · exact ⟨rfl, rfl, rfl, rfl, rfl⟩

theorem regular_renegotiateWithOwnBalance {amount : Int} {result : OwnBalanceResult}
    (h : RegularBooks env db)
    (hok : renegotiateLoanWithOwnBalance db clock id amount = .ok (db', result)) :
    RegularBooks env db' := by
  unfold renegotiateLoanWithOwnBalance at hok
  simp only [bind_eq_ok, refuseIf_eq_ok, orRefuse_eq_ok, Prod.exists, exists_and_left,
    exists_const] at hok
  obtain ⟨loan, -, locked, account, hlock, -, -, hok⟩ := hok
  obtain ⟨accounts, rfl, -⟩ := lockMemberFinancialAccount_spec hlock
  split at hok
  · rw [pure_eq_ok, Prod.mk.injEq] at hok
    obtain ⟨rfl, -⟩ := hok
    exact h.congr rfl rfl
  · simp only [bind_eq_ok, pure_eq_ok, refuseIf_eq_ok, Prod.exists, Prod.mk.injEq, exists_and_left,
      exists_const] at hok
    obtain ⟨-, -, -, credited, e, hadd, rfl, -⟩ := hok
    obtain ⟨rfl, -⟩ := addMemberFinancialEntry_spec hadd
    exact h.congr rfl rfl

theorem regular_releaseLoan {released : Bool} (h : RegularBooks env db)
    (hok : releaseLoan env db clock id = .ok (db', released)) : RegularBooks env db' := by
  unfold releaseLoan at hok
  simp only [bind_eq_ok, orRefuse_eq_ok, Prod.exists] at hok
  obtain ⟨loan, -, locked, account, hlock, hok⟩ := hok
  obtain ⟨accounts, rfl, -⟩ := lockMemberFinancialAccount_spec hlock
  split at hok
  · split at hok
    · rw [pure_eq_ok, Prod.mk.injEq] at hok
      obtain ⟨rfl, -⟩ := hok
      exact h.congr rfl rfl
    · rw [pure_eq_ok, Prod.mk.injEq] at hok
      obtain ⟨rfl, -⟩ := hok
      exact h.congr rfl rfl
  · simp only [bind_eq_ok, pure_eq_ok, refuseIf_eq_ok, Prod.exists, Prod.mk.injEq, exists_and_left,
      exists_const] at hok
    obtain ⟨-, posted, e, hpost, committed, hcommit, rfl, -⟩ := hok
    obtain ⟨rfl, -⟩ := postEntry_spec hpost
    unfold commitPrincipal at hcommit
    split at hcommit
    · rw [pure_eq_ok] at hcommit
      subst hcommit
      exact h.congr rfl rfl
    · simp only [bind_eq_ok, pure_eq_ok, Prod.exists] at hcommit
      obtain ⟨added, entry, hadd, rfl⟩ := hcommit
      obtain ⟨rfl, -⟩ := addMemberFinancialEntry_spec hadd
      exact h.congr rfl rfl

/-- Every operation keeps the books regular. -/
theorem regular_attempt {op : Operation} (hs : Sound db) (h : RegularBooks env db)
    (hok : attempt env db clock op = .ok db') : RegularBooks env db' := by
  cases op with
  | settle paymentId c =>
    obtain ⟨⟨final, s⟩, hsettle, rfl⟩ := map_eq_ok.mp hok
    exact regular_settle hs h hsettle
  | reverse paymentId adminId reason now =>
    obtain ⟨⟨final, r⟩, hreverse, rfl⟩ := map_eq_ok.mp hok
    exact regular_reverse hs h hreverse
  | evidence paymentId status received =>
    obtain rfl := Except.ok.inj hok
    unfold keepEvidence
    split
    · exact h
    · exact regular_putPayment h _
  | cancel contributionId reason =>
    obtain rfl := Except.ok.inj hok
    unfold cancelContribution
    split
    · exact h
    · split
      · exact h
      · exact h.congr rfl rfl
  | reserve installmentId now =>
    obtain ⟨reservation, hreserve, rfl⟩ := map_eq_ok.mp hok
    exact regular_reserve h hreserve
  | bindProvider attemptId result =>
    obtain rfl := Except.ok.inj hok
    unfold bindProvider
    split
    · exact h
    · split
      · exact h
      · exact regular_putPayment h _
  | markAmbiguous attemptId =>
    obtain rfl := Except.ok.inj hok
    unfold markAmbiguous
    split
    · exact h
    · split
      · exact h
      · exact regular_putPayment h _
  | approve paymentId confirmedAt payload =>
    obtain ⟨⟨final, result⟩, happrove, rfl⟩ := map_eq_ok.mp hok
    exact regular_approve hs h happrove
  | settleWithOwnBalance loanId financialAt =>
    obtain ⟨⟨final, result⟩, hsettle, rfl⟩ := map_eq_ok.mp hok
    exact regular_settleWithOwnBalance h hsettle
  | renegotiateWithOwnBalance loanId amount =>
    obtain ⟨⟨final, result⟩, hrenegotiate, rfl⟩ := map_eq_ok.mp hok
    exact regular_renegotiateWithOwnBalance h hrenegotiate
  | releaseLoan loanId =>
    obtain ⟨⟨final, released⟩, hrelease, rfl⟩ := map_eq_ok.mp hok
    exact regular_releaseLoan h hrelease
  | expense amount =>
    change createExpense env db clock amount = .ok db' at hok
    unfold createExpense at hok
    simp only [bind_eq_ok, pure_eq_ok, Prod.exists] at hok
    obtain ⟨posted, e, hpost, rfl⟩ := hok
    obtain ⟨rfl, -⟩ := postEntry_spec hpost
    exact h.congr rfl rfl
  | ledgerReverse entryId reason =>
    change ledgerReverse env db clock entryId reason = .ok db' at hok
    unfold ledgerReverse reverseEntry at hok
    simp only [bind_eq_ok, pure_eq_ok, orRefuse_eq_ok, refuseIf_eq_ok, Prod.exists, exists_and_left,
      exists_const] at hok
    obtain ⟨original, -, posted, e, ⟨-, -, hpost⟩, rfl⟩ := hok
    obtain ⟨rfl, -⟩ := postEntry_spec hpost
    exact h.congr rfl rfl

end Operations

section Worker
variable {env : Env} {db db' : Db} {onDate increment : Int} {rate : Number} {i j : LoanInstallment}

/-- The run counts days on the row: it is overdue and not paid, days passed since the last run that
counted, and the rate is not zero. -/
def Penalized (inst : LoanInstallment) (onDate : Int) (rate : Number) : Prop :=
  inst.dueDate < onDate ∧ inst.status ≠ .PAID ∧ penaltyDays inst onDate ≠ 0 ∧ rate.coefficient ≠ 0

instance (inst : LoanInstallment) (onDate : Int) (rate : Number) :
    Decidable (Penalized inst onDate rate) := inferInstanceAs (Decidable (_ ∧ _))

/-- A row stays as it is exactly when no days are counted on it. -/
theorem accrueInstallment_same_iff (h : accrueInstallment onDate rate i = .ok (j, increment)) :
    j = i ↔ ¬ Penalized i onDate rate := by
  have hidle : (i, (0 : Int)) = (j, increment) → ¬ Penalized i onDate rate →
      (j = i ↔ ¬ Penalized i onDate rate) := by
    intro heq hnot
    exact ⟨fun _ => hnot, fun _ => (Prod.mk.inj heq).1.symm⟩
  unfold accrueInstallment at h
  split at h
  · rename_i hopen
    unfold calculateDailyPenalty at h
    simp only [bind_eq_ok, refuseIf_eq_ok, exists_and_left, exists_const] at h
    obtain ⟨-, h⟩ := h
    split at h
    · rename_i hclosed
      refine hidle (pure_eq_ok.mp h) fun hpenalized => hclosed.elim hpenalized.2.1 fun hle => ?_
      have := hpenalized.1
      omega
    · split at h
      · rename_i hstill
        exact hidle (pure_eq_ok.mp h) fun hpenalized =>
          hstill.elim hpenalized.2.2.1 hpenalized.2.2.2
      · rename_i hmoves
        simp only [bind_eq_ok, pure_eq_ok, Prod.mk.injEq] at h
        obtain ⟨cents, -, rfl, -⟩ := h
        rw [not_or] at hmoves
        refine ⟨fun hsame => ?_, fun hnot => absurd ⟨hopen.1, hopen.2, hmoves⟩ hnot⟩
        -- the day of the run is written, and no days pass between it and itself
        have hlast : i.lastPenaltyDate = some onDate := (congrArg (·.lastPenaltyDate) hsame).symm
        refine absurd ?_ hmoves.1
        rw [penaltyDays, hlast, Option.getD_some]
        omega
  · rename_i hnot
    exact hidle (Except.ok.inj h) fun hpenalized => hnot ⟨hpenalized.1, hpenalized.2.1⟩

theorem accrue_rows (h : accrueOverduePenalties db onDate rate = .ok db') :
    List.Forall₂ (fun i j => ∃ increment, accrueInstallment onDate rate i = .ok (j, increment))
      db.loanInstallments db'.loanInstallments ∧ db'.lateChargeEvents = db.lateChargeEvents := by
  unfold accrueOverduePenalties at h
  simp only [bind_eq_ok, pure_eq_ok, refuseIf_eq_ok, exists_and_left, exists_const] at h
  obtain ⟨-, rows, hrows, rfl⟩ := h
  exact ⟨List.forall₂_map_right_iff.mpr ((forall₂_of_mapM hrows).imp fun _ row hrow => ⟨row.2, hrow⟩),
    rfl⟩

/-- A run that counts no days on versioned rows keeps the books regular. -/
theorem regular_accrue (h : RegularBooks env db)
    (hskip : ∀ i ∈ db.loanInstallments, isLateChargeEligible i.dueDate env.lateChargeEffectiveDate →
      ¬ Penalized i onDate rate)
    (hok : accrueOverduePenalties db onDate rate = .ok db') : RegularBooks env db' := by
  obtain ⟨hrows, hevents⟩ := accrue_rows hok
  intro k y hy
  have hrel := @lookup_forall₂ _ LoanInstallment.id _ _ _ hrows (fun i j hij => ?_) k
  · rw [Db.installment?] at hy
    rw [hy] at hrel
    cases hfound : lookup LoanInstallment.id db.loanInstallments k with
    | none =>
      rw [hfound] at hrel
      cases hrel
    | some x =>
      rw [hfound] at hrel
      cases hrel with
      | some hstep =>
        obtain ⟨increment, hstep⟩ := hstep
        have hx := h k x hfound
        obtain ⟨⟨penalty, day, rfl⟩, -⟩ := accrueInstallment_spec hstep
        refine ⟨hevents ▸ hx.books.same rfl rfl rfl, fun heligible => ?_⟩
        have hsame := (accrueInstallment_same_iff hstep).mpr (hskip x (lookup_mem hfound) heligible)
        rw [hsame, hevents]
        exact hx.within (hsame ▸ heligible)
  · obtain ⟨increment, hstep⟩ := hij
    obtain ⟨⟨penalty, day, rfl⟩, -⟩ := accrueInstallment_spec hstep
    rfl

end Worker

end Caixinha.Effects
