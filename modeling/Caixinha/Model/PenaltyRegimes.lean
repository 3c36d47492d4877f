import Caixinha.Model.DailyPenalty
import Caixinha.Model.Operations

/-! Histories in which the daily worker, the materializations of late charges and the other operations
of the program interleave. -/
namespace Caixinha.Model

open Caixinha.Library Decimal

/-- A worker run, one of the two materializations under the configured effective date, or another
operation; settling, reversing and charging payments are operations. -/
inductive PenaltyStep where
  | accrue (onDate : Int) (rate : Number)
  | assess (installmentId : Nat) (throughDate : Int)
  | accrueLate (installmentId : Nat) (throughDate : Int)
  | operate (clock : Int) (op : Operation)
  deriving DecidableEq, Repr

def PenaltyStep.apply (env : Env) (db : Db) : PenaltyStep → Tx Db
  | .accrue onDate rate => accrueOverduePenalties db onDate rate
  | .assess installmentId throughDate =>
    Prod.fst <$> materializeFixedPenalty db installmentId throughDate env.lateChargeEffectiveDate
  | .accrueLate installmentId throughDate =>
    Prod.fst <$> materializeDailyLateInterest db installmentId throughDate env.lateChargeEffectiveDate
  | .operate clock op => attempt env db clock op

/-- A step that fails is rolled back. -/
def PenaltyStep.next (env : Env) (db : Db) (step : PenaltyStep) : Db :=
  match step.apply env db with
  | .ok db' => db'
  | .error _ => db

def penaltyRun (env : Env) (db : Db) (steps : List PenaltyStep) : Db :=
  steps.foldl (PenaltyStep.next env) db

end Caixinha.Model
