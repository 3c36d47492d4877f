import Caixinha.Library.DailySum
import Caixinha.Library.DatedSum
import Caixinha.Library.Quotients
import Caixinha.Effects.LateInterest
import Caixinha.Model.CycleParticipation

/-! The walk over the principal payments of a contribution, as the periods of its unpaid principal. -/
namespace Caixinha.Effects.ContributionInterest
open Caixinha.Library Decimal DailySum DatedSum Fallible Caixinha.Model

abbrev Payments := List (Int × Int)

/-- The principal that is unpaid at the end of a day. -/
def unpaid (principal : Int) (payments : Payments) (day : Int) : Int :=
  principal - sumOn Prod.fst Prod.snd (fun d => d ≤ day) payments

/-- Payments a principal can have on a day: none negative, together no more than the principal, and none
of those still to come above what is then unpaid. -/
structure ValidPayments (principal through : Int) (payments : Payments) : Prop where
  nonneg : ∀ x ∈ payments, 0 ≤ x.2
  paid : 0 ≤ unpaid principal payments through
  later : ∀ x ∈ payments, through < x.1 → x.2 ≤ unpaid principal payments through

variable {principal dueDate through : Int} {payments : Payments}

theorem sumOn_payments_nonneg {p : Int → Prop} [DecidablePred p] {rows : Payments} (h : ∀ x ∈ rows, 0 ≤ x.2) :
    0 ≤ sumOn Prod.fst Prod.snd p rows := by
  induction rows with
  | nil => exact le_rfl
  | cons x rows ih =>
    have := ih fun y hy => h y (List.mem_cons_of_mem _ hy)
    have := h x (List.mem_cons_self ..)
    rw [sumOn_cons]
    split <;> omega

theorem ValidPayments.principal_nonneg (h : ValidPayments principal through payments) : 0 ≤ principal := by
  have hpaid := h.paid
  have := sumOn_payments_nonneg (p := fun d => d ≤ through) h.nonneg
  rw [unpaid] at hpaid
  omega

section Walk

/-- The interest once the last period is closed at the civil date. -/
def closing (through : Int) (w : ChargeWalk) : Number :=
  if w.start ≤ through then w.accrued (through - w.start + 1) else w.exactInterest

end Walk

section Rounding
variable {segments : List PrincipalSegment}

end Rounding

end Caixinha.Effects.ContributionInterest
