import Caixinha.Effects.LateLedger
import Caixinha.Effects.Loans

/-! The late-charge columns of installments against their event ledger: every row repeats what the
ledger holds, and the penalty of a versioned row stays within it. -/
namespace Caixinha.Effects

open Caixinha.Library Caixinha.Library.Table Caixinha.Library.DatedSum Fallible Caixinha.Model

/-- The rows of the fixed penalty of an installment. -/
def fixedEvents (id : Nat) (events : List LoanLateChargeEvent) : List LoanLateChargeEvent :=
  events.filter (fun e => e.loanInstallmentId = id ∧ e.eventType = .FIXED_PENALTY_ASSESSED)

/-- The fixed penalty the ledger holds. -/
def fixedOn (id : Nat) (events : List LoanLateChargeEvent) : Int :=
  ((fixedEvents id events).map LoanLateChargeEvent.amount).sum

/-- The fixed penalty and the late interest the ledger of an installment holds. -/
def ledgerCharges (id : Nat) (events : List LoanLateChargeEvent) : Int :=
  fixedOn id events + lateOn (fun _ => True) id events

/-- The row repeats the ledger, which assesses its penalty once at most. -/
structure InBooks (events : List LoanLateChargeEvent) (inst : LoanInstallment) : Prop where
  once : (fixedEvents inst.id events).length ≤ 1
  fixedPenalty : inst.projection.fixedPenaltyAmount = fixedOn inst.id events
  lateInterest : inst.projection.lateInterestAmount = lateOn (fun _ => True) inst.id events

structure RegularRow (env : Env) (events : List LoanLateChargeEvent) (inst : LoanInstallment) : Prop where
  books : InBooks events inst
  within : isLateChargeEligible inst.dueDate env.lateChargeEffectiveDate →
    inst.penaltyAmount ≤ ledgerCharges inst.id events

def RegularBooks (env : Env) (db : Db) : Prop :=
  ∀ id inst, db.installment? id = some inst → RegularRow env db.lateChargeEvents inst

section Rows
variable {env : Env} {events new : List LoanLateChargeEvent} {x y : LoanInstallment} {id : Nat}

theorem fixedEvents_append : fixedEvents id (events ++ new) = fixedEvents id events ++ fixedEvents id new :=
  List.filter_append ..

private theorem fixedEvents_other (h : ∀ e ∈ new, e.loanInstallmentId ≠ id) : fixedEvents id new = [] := by
  apply List.filter_eq_nil_iff.mpr
  intro e he
  simpa using fun hid => absurd hid (h e he)

private theorem lateOn_other (h : ∀ e ∈ new, e.loanInstallmentId ≠ id) :
    lateOn (fun _ => True) id new = 0 := by
  have hnone : new.filter (fun e => e.loanInstallmentId = id) = [] :=
    List.filter_eq_nil_iff.mpr fun e he => by simpa using h e he
  rw [lateOn, hnone, sumOn_nil]

/-- What bears on the books of a row. -/
structure SameCharges (x y : LoanInstallment) : Prop where
  id_eq : y.id = x.id
  dueDate : y.dueDate = x.dueDate
  penaltyAmount : y.penaltyAmount = x.penaltyAmount
  fixedPenalty : y.projection.fixedPenaltyAmount = x.projection.fixedPenaltyAmount
  lateInterest : y.projection.lateInterestAmount = x.projection.lateInterestAmount

theorem InBooks.same (h : InBooks events x) (hid : y.id = x.id)
    (hfixed : y.projection.fixedPenaltyAmount = x.projection.fixedPenaltyAmount)
    (hlate : y.projection.lateInterestAmount = x.projection.lateInterestAmount) : InBooks events y where
  once := hid ▸ h.once
  fixedPenalty := by rw [hfixed, hid, h.fixedPenalty]
  lateInterest := by rw [hlate, hid, h.lateInterest]

theorem RegularRow.same (h : RegularRow env events x) (hsame : SameCharges x y) :
    RegularRow env events y where
  books := h.books.same hsame.id_eq hsame.fixedPenalty hsame.lateInterest
  within := by
    rw [hsame.dueDate, hsame.penaltyAmount, hsame.id_eq]
    exact h.within

/-- The events of other installments are none of a row's. -/
theorem RegularRow.other (h : RegularRow env events x) (hnew : ∀ e ∈ new, e.loanInstallmentId ≠ x.id) :
    RegularRow env (events ++ new) x := by
  have hfixed : fixedOn x.id (events ++ new) = fixedOn x.id events := by
    rw [fixedOn, fixedEvents_append, fixedEvents_other hnew, List.append_nil, fixedOn]
  have hlate : lateOn (fun _ => True) x.id (events ++ new) = lateOn (fun _ => True) x.id events := by
    rw [lateOn_append, lateOn_other hnew, add_zero]
  refine ⟨⟨?_, ?_, ?_⟩, fun heligible => ?_⟩
  · rw [fixedEvents_append, fixedEvents_other hnew, List.append_nil]
    exact h.books.once
  · rw [hfixed, h.books.fixedPenalty]
  · rw [hlate, h.books.lateInterest]
  · rw [ledgerCharges, hfixed, hlate]
    exact h.within heligible

theorem withPenaltyTotal_projection (x : LoanInstallment) :
    x.withPenaltyTotal.projection = x.projection ∧ x.withPenaltyTotal.id = x.id ∧
      x.withPenaltyTotal.dueDate = x.dueDate := by
  unfold LoanInstallment.withPenaltyTotal
  split
  · exact ⟨rfl, rfl, rfl⟩
  · exact ⟨rfl, rfl, rfl⟩

/-- A penalty written anew from the columns is what the ledger holds. -/
theorem InBooks.withPenaltyTotal (h : InBooks events x) (hsome : x.lateCharge.isSome) :
    RegularRow env events x.withPenaltyTotal := by
  obtain ⟨hprojection, hid, hdue⟩ := withPenaltyTotal_projection x
  refine ⟨h.same hid (by rw [hprojection]) (by rw [hprojection]), fun _ => ?_⟩
  obtain ⟨p, hp⟩ := Option.isSome_iff_exists.mp hsome
  have hpenalty : x.withPenaltyTotal.penaltyAmount = p.fixedPenaltyAmount + p.lateInterestAmount := by
    simp only [LoanInstallment.withPenaltyTotal, hp]
  have hcolumns : x.projection = p := by rw [LoanInstallment.projection, hp, Option.getD_some]
  rw [hpenalty, hid, ledgerCharges, ← h.fixedPenalty, ← h.lateInterest, hcolumns]

/-- The same for any row, with or without the columns. -/
theorem RegularRow.withPenaltyTotal (h : RegularRow env events x) :
    RegularRow env events x.withPenaltyTotal := by
  by_cases hsome : x.lateCharge.isSome
  · exact h.books.withPenaltyTotal hsome
  · have hnone : x.lateCharge = none := by simpa using hsome
    have hsame : x.withPenaltyTotal = x := by simp only [LoanInstallment.withPenaltyTotal, hnone]
    rw [hsame]
    exact h

end Rows

section Books
variable {env : Env} {db db' : Db} {x y : LoanInstallment} {id : Nat}

theorem RegularBooks.congr (h : RegularBooks env db) (hrows : db'.loanInstallments = db.loanInstallments)
    (hevents : db'.lateChargeEvents = db.lateChargeEvents) : RegularBooks env db' := by
  intro k inst hinst
  rw [Db.installment?, hrows] at hinst
  rw [hevents]
  exact h k inst hinst

/-- One row is written, and events of it are added. -/
theorem RegularBooks.write {w : List LoanLateChargeEvent} (h : RegularBooks env db) (hx : db.installment? y.id = some x)
    (hrows : db'.loanInstallments = replace LoanInstallment.id db.loanInstallments y)
    (hevents : db'.lateChargeEvents = db.lateChargeEvents ++ w)
    (hnew : ∀ e ∈ w, e.loanInstallmentId = y.id) (hy : RegularRow env db'.lateChargeEvents y) :
    RegularBooks env db' := by
  intro k inst hinst
  rw [Db.installment?, hrows] at hinst
  by_cases hk : k = y.id
  · subst hk
    rw [lookup_replace_self (x := x) hx, Option.some.injEq] at hinst
    exact hinst ▸ hy
  · rw [lookup_replace_ne hk] at hinst
    have hid : inst.id = k := lookup_key hinst
    rw [hevents]
    refine (h k inst hinst).other fun e he => ?_
    rw [hnew e he, hid]
    exact fun heq => hk heq.symm

/-- The rows keep what bears on their books. -/
theorem RegularBooks.forall₂ (h : RegularBooks env db)
    (hrows : List.Forall₂ SameCharges db.loanInstallments db'.loanInstallments)
    (hevents : db'.lateChargeEvents = db.lateChargeEvents) : RegularBooks env db' := by
  intro k inst hinst
  have hrel := lookup_forall₂ hrows (fun _ _ hsame => hsame.id_eq) k
  rw [Db.installment?] at hinst
  rw [hinst] at hrel
  cases hfound : lookup LoanInstallment.id db.loanInstallments k with
  | none =>
    rw [hfound] at hrel
    cases hrel
  | some x =>
    rw [hfound] at hrel
    cases hrel with
    | some hsame =>
      rw [hevents]
      exact (h k x hfound).same hsame

end Books

end Caixinha.Effects
