import Caixinha.Effects.Posting

/-! What materializing late charges changes: the late-charge columns of one installment, and
new rows of its event ledger. -/
namespace Caixinha.Effects

open Caixinha.Library Caixinha.Library.Table Fallible Caixinha.Model

/-- Only the late-charge columns of the installment `id` differ. -/
def ChargedAs (id : Nat) (x y : LoanInstallment) : Prop :=
  y = { x with lateCharge := y.lateCharge, penaltyAmount := y.penaltyAmount } ∧ (x.id ≠ id → y = x)

theorem ChargedAs.refl (id : Nat) (x : LoanInstallment) : ChargedAs id x x := ⟨rfl, fun _ => rfl⟩

theorem ChargedAs.of_lateCharge {id : Nat} {x : LoanInstallment} (hid : x.id = id)
    (p : Option LateChargeProjection) : ChargedAs id x { x with lateCharge := p } :=
  ⟨rfl, fun hne => absurd hid hne⟩

theorem ChargedAs.of_withPenaltyTotal {id : Nat} {x : LoanInstallment} (hid : x.id = id) :
    ChargedAs id x x.withPenaltyTotal := by
  refine ⟨?_, fun hne => absurd hid hne⟩
  unfold LoanInstallment.withPenaltyTotal
  split
  · rename_i p hp
    simp [hp]
  · rfl

theorem ChargedAs.id_eq {id : Nat} {x y : LoanInstallment} (h : ChargedAs id x y) : y.id = x.id := by
  rw [h.1]

theorem ChargedAs.trans {id : Nat} {x y z : LoanInstallment} (h : ChargedAs id x y)
    (h' : ChargedAs id y z) : ChargedAs id x z := by
  obtain ⟨hxy, hne⟩ := h
  obtain ⟨hyz, hne'⟩ := h'
  refine ⟨?_, fun hx => ?_⟩
  · rw [hyz, hxy]
  · obtain rfl := hne hx
    exact hne' hx

/-- Nothing but the charges of the installment `id` differs, and its events are only added to. -/
structure Charged (id : Nat) (db db' : Db) : Prop where
  only : db' = { db with
    loanInstallments := db'.loanInstallments, lateChargeEvents := db'.lateChargeEvents }
  installments : List.Forall₂ (ChargedAs id) db.loanInstallments db'.loanInstallments
  events : ∃ new, db'.lateChargeEvents = db.lateChargeEvents ++ new ∧
    ∀ e ∈ new, e.loanInstallmentId = id

section Charged
variable {id : Nat} {db db' db'' : Db} {inst x : LoanInstallment}

theorem forall₂_chargedAs_refl (id : Nat) (rows : List LoanInstallment) :
    List.Forall₂ (ChargedAs id) rows rows := List.forall₂_same.mpr fun x _ => ChargedAs.refl id x

theorem Charged.refl (id : Nat) (db : Db) : Charged id db db :=
  ⟨rfl, forall₂_chargedAs_refl id _, [], by simp, by simp⟩

theorem Charged.trans (h : Charged id db db') (h' : Charged id db' db'') : Charged id db db'' := by
  obtain ⟨new, hnew, hid⟩ := h.events
  obtain ⟨new', hnew', hid'⟩ := h'.events
  refine ⟨?_, ?_, new ++ new', ?_, ?_⟩
  · rw [h'.only, h.only]
  · exact forall₂_trans (fun _ _ _ => ChargedAs.trans) h.installments h'.installments
  · rw [hnew', hnew, List.append_assoc]
  · intro e he
    rcases List.mem_append.mp he with he | he
    · exact hid e he
    · exact hid' e he

theorem Charged.keyed (h : Charged id db db') (hkeyed : Keyed LoanInstallment.id db.loanInstallments) :
    Keyed LoanInstallment.id db'.loanInstallments :=
  keyed_forall₂ h.installments (fun _ _ => ChargedAs.id_eq) hkeyed

theorem Charged.installment? (h : Charged id db db') (k : Nat) :
    Option.Rel (ChargedAs id) (db.installment? k) (db'.installment? k) :=
  lookup_forall₂ h.installments (fun _ _ => ChargedAs.id_eq) k

theorem flushInstallment_spec (h : flushInstallment db inst = .ok db') :
    db' = db.putInstallment inst ∧ ∀ p, inst.lateCharge = some p → checkProjection p = .ok () := by
  unfold flushInstallment at h
  split at h
  · rename_i hnone
    simp only [pure_eq_ok] at h
    exact ⟨h.symm, by simp [hnone]⟩
  · rename_i p hp
    simp only [bind_eq_ok, pure_eq_ok] at h
    obtain ⟨u, hcheck, rfl⟩ := h
    refine ⟨rfl, fun q hq => ?_⟩
    rw [hp, Option.some.injEq] at hq
    exact hq ▸ hcheck

theorem charged_flush (hkeyed : Keyed LoanInstallment.id db.loanInstallments)
    (hx : db.installment? id = some x) (hinst : ChargedAs id x inst)
    (h : flushInstallment db inst = .ok db') : Charged id db db' := by
  obtain ⟨rfl, -⟩ := flushInstallment_spec h
  have hid : inst.id = id := hinst.id_eq.trans (lookup_key hx)
  refine ⟨rfl, ?_, [], by simp [Db.putInstallment], by simp⟩
  exact forall₂_replace (ChargedAs.refl id) hkeyed (by rw [hid]; exact hx) hinst

theorem charged_insertUniqueEvent (new : NewLateChargeEvent) (hid : new.loanInstallmentId = id) :
    Charged id db (insertUniqueEvent db new).1 := by
  unfold insertUniqueEvent
  split
  · exact Charged.refl id db
  · exact ⟨rfl, forall₂_chargedAs_refl id _, [_], rfl, by simpa using hid⟩

end Charged

section Materialize
variable {id : Nat} {db db' : Db} {day : Int} {effectiveDate : Option Int}

theorem charged_materializeFixedPenalty {event : Option LoanLateChargeEvent}
    (hkeyed : Keyed LoanInstallment.id db.loanInstallments)
    (h : materializeFixedPenalty db id day effectiveDate = .ok (db', event)) : Charged id db db' := by
  unfold materializeFixedPenalty at h
  split at h
  · rw [pure_eq_ok, Prod.mk.injEq] at h
    exact h.1 ▸ Charged.refl id db
  rw [bind_eq_ok] at h
  obtain ⟨inst, hinst, h⟩ := h
  rw [lockInstallment, orRefuse_eq_ok] at hinst
  have hid : inst.id = id := lookup_key hinst
  split at h
  · rw [pure_eq_ok, Prod.mk.injEq] at h
    exact h.1 ▸ Charged.refl id db
  dsimp only at h
  split at h
  · rw [pure_eq_ok, Prod.mk.injEq] at h
    exact h.1 ▸ Charged.refl id db
  split at h
  · simp only [bind_eq_ok, pure_eq_ok, Prod.mk.injEq] at h
    obtain ⟨next, hflush, rfl, -⟩ := h
    exact charged_flush hkeyed hinst (.of_lateCharge hid _) hflush
  · rw [bind_eq_ok] at h
    obtain ⟨base, -, h⟩ := h
    split at h
    · rw [pure_eq_ok, Prod.mk.injEq] at h
      exact h.1 ▸ Charged.refl id db
    · simp only [bind_eq_ok, pure_eq_ok, Prod.mk.injEq] at h
      obtain ⟨next, hflush, rfl, -⟩ := h
      have hinsert : Charged id db (insertUniqueEvent db
          { loanInstallmentId := inst.id, eventType := .FIXED_PENALTY_ASSESSED
            effectiveDate := inst.dueDate + 1, amount := calculateFixedPenalty false }).1 :=
        charged_insertUniqueEvent _ hid
      refine hinsert.trans (charged_flush (hinsert.keyed hkeyed) ?_ (.of_lateCharge hid _) hflush)
      rw [Db.installment?] at hinst ⊢
      unfold insertUniqueEvent
      split <;> exact hinst

theorem charged_accrueDay {start : Int} {deltaOn : Int → Int} {state next : Accrual}
    {row : Int × Int × Int} (h : accrueDay id start deltaOn state row = .ok next) :
    Charged id state.db next.db ∧ next.db.loanInstallments = state.db.loanInstallments := by
  unfold accrueDay at h
  simp only [bind_eq_ok, refuseIf_eq_ok, exists_and_left, exists_const] at h
  obtain ⟨-, h⟩ := h
  split at h
  · rw [pure_eq_ok] at h
    exact h ▸ ⟨Charged.refl id _, rfl⟩
  · rw [pure_eq_ok] at h
    subst h
    refine ⟨charged_insertUniqueEvent _ rfl, ?_⟩
    unfold insertUniqueEvent
    split <;> rfl

theorem charged_materializeDailyLateInterest {created : List LoanLateChargeEvent}
    (hkeyed : Keyed LoanInstallment.id db.loanInstallments)
    (h : materializeDailyLateInterest db id day effectiveDate = .ok (db', created)) :
    Charged id db db' := by
  unfold materializeDailyLateInterest at h
  split at h
  · rw [pure_eq_ok, Prod.mk.injEq] at h
    exact h.1 ▸ Charged.refl id db
  rw [bind_eq_ok] at h
  obtain ⟨inst, hinst, h⟩ := h
  rw [lockInstallment, orRefuse_eq_ok] at hinst
  have hid : inst.id = id := lookup_key hinst
  split at h
  · rw [pure_eq_ok, Prod.mk.injEq] at h
    exact h.1 ▸ Charged.refl id db
  split at h
  · rw [pure_eq_ok, Prod.mk.injEq] at h
    exact h.1 ▸ Charged.refl id db
  simp only [bind_eq_ok, pure_eq_ok, Prod.mk.injEq] at h
  obtain ⟨schedule, -, accrual, hfold, late, -, next, hflush, rfl, -⟩ := h
  have haccrual : Charged id db accrual.db ∧ accrual.db.loanInstallments = db.loanInstallments := by
    refine foldlM_invariant (fun state => Charged id db state.db ∧
      state.db.loanInstallments = db.loanInstallments) ?_ ⟨Charged.refl id db, rfl⟩ hfold
    intro state row next hstate hnext
    rw [hid] at hnext
    obtain ⟨hcharged, hsame⟩ := charged_accrueDay hnext
    exact ⟨hstate.1.trans hcharged, hsame.trans hstate.2⟩
  refine haccrual.1.trans (charged_flush (haccrual.1.keyed hkeyed) ?_ (.of_lateCharge hid _) hflush)
  rw [Db.installment?, haccrual.2]
  exact hinst

theorem charged_materializeAdjustment {inst : LoanInstallment} {new : NewLateChargeEvent}
    {event : Option LoanLateChargeEvent} (hkeyed : Keyed LoanInstallment.id db.loanInstallments)
    (hinst : db.installment? id = some inst) (hnew : new.loanInstallmentId = id)
    (h : materializeAdjustment db inst new = .ok (db', event)) : Charged id db db' := by
  have hid : inst.id = id := lookup_key hinst
  unfold materializeAdjustment at h
  split at h
  · rw [pure_eq_ok, Prod.mk.injEq] at h
    exact h.1 ▸ Charged.refl id db
  split at h
  · rw [pure_eq_ok, Prod.mk.injEq] at h
    exact h.1 ▸ Charged.refl id db
  split at h
  · rw [pure_eq_ok, Prod.mk.injEq] at h
    exact h.1 ▸ Charged.refl id db
  · simp only [bind_eq_ok, pure_eq_ok, Prod.mk.injEq] at h
    obtain ⟨current, -, expected, -, late, -, next, hflush, rfl, -⟩ := h
    have hinsert : ∀ amount, Charged id db (insertUniqueEvent db { new with amount }).1 ∧
        (insertUniqueEvent db { new with amount }).1.loanInstallments = db.loanInstallments := by
      intro amount
      refine ⟨charged_insertUniqueEvent _ hnew, ?_⟩
      unfold insertUniqueEvent
      split <;> rfl
    obtain ⟨hcharged, hsame⟩ := hinsert _
    refine hcharged.trans (charged_flush ?_ ?_ (.of_lateCharge hid _) hflush)
    · rw [hsame]
      exact hkeyed
    · rw [Db.installment?, hsame]
      exact hinst

end Materialize

end Caixinha.Effects
