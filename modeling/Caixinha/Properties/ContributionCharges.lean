import Caixinha.Effects.ContributionInterest
import Mathlib.Data.Int.Interval

/-! The charges of a contribution against the day-by-day reference. -/
namespace Caixinha.Properties.ContributionCharges
open Caixinha.Library Decimal DailySum DatedSum Fallible Caixinha.Model Caixinha.Effects Caixinha.Effects.ContributionInterest

section Reference
variable (principal dueDate through : Int) (payments : Payments)

end Reference

variable {principal dueDate through : Int} {payments : Payments}

section Interest

end Interest

section Inputs

end Inputs

end Caixinha.Properties.ContributionCharges
