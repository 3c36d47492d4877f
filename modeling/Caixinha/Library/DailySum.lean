import Mathlib.Algebra.BigOperators.Group.List.Basic
import Mathlib.Algebra.BigOperators.Ring.List
import Mathlib.Algebra.Order.BigOperators.Group.List
import Mathlib.Algebra.Order.Ring.Int
import Mathlib.Data.Finset.Card
import Mathlib.Tactic.Ring

/-! Sums of a daily value over a range of days, and the same sums taken by periods in which the
value does not change. -/
namespace Caixinha.Library.DailySum

variable {value : Int → Int} {first middle last start : Int} {days : List Int}

end Caixinha.Library.DailySum
