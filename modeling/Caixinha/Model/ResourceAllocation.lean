import Caixinha.Library.DecimalShares
import Caixinha.Model.Values
import Mathlib.Data.List.Sort

/-! The recommended split of a lending capacity over the members of a group: shares by quota and
risk, rounded down and capped, and then the remaining cents one by one. -/
namespace Caixinha.Model.ResourceAllocation
open Caixinha.Library Decimal

/-- A stored limit. -/
abbrev Limit := {cents : Int // 0 ≤ cents ∧ cents < 10 ^ 28}

structure AllocationGroup where
  id : Nat
  maxMemberExposure : Option Limit := none
  maxLoanAmount : Option Limit := none

/-- An active member: the units of the quota, what `evaluate_loan_pipeline` decides about a loan of
a cent (`REVIEW` where it fails), and the principals of the loans that count. -/
structure AllocationMember where
  id : Nat
  units : Option {x : Number // 0 ≤ x.coefficient} := none
  riskDecision : String := "REVIEW"
  principals : List Nat := []
  fits : principals.sum < 10 ^ 28 := by decide

structure Row where
  memberId : Nat
  quotaUnits : Number
  weight : Number
  riskDecision : String
  exposure : Int
  memberRoom : Option Int
  deriving DecidableEq, Repr

/-- A row and its recommended amount. -/
abbrev Item := Row × Int

inductive Allocation where
  | blocked (groupId : Nat) (capacity allocatedTotal : Int) (items : List Row) (reason : String)
  | allocated (decision : String) (groupId : Nat) (capacity allocatedTotal unallocated : Int)
      (items : List Item)
  deriving DecidableEq, Repr

def orInvalid (cents : Option Int) : Tx Int :=
  match cents with
  | some c => .ok c
  | none => .error .invalidOperation

/-- `money` of this module rounds down. -/
def money (v : Number) : Tx Int := orInvalid (quantizeDown 28 v)

/-- `money` of an amount in cents. -/
def moneyCents (cents : Int) : Tx Int := orInvalid (checkCents 28 cents)

def quotaUnits (m : AllocationMember) : Number :=
  match m.units with
  | some units => units.val
  | none => ⟨1, 0⟩

/-- Only an allowed member has the full weight; one under review has half of it. -/
def weightOf (units : Number) (decision : String) : Number :=
  if decision = "ALLOW" then units
  else if decision = "REVIEW" then mul 28 units ⟨5, -1⟩
  else ⟨0, 0⟩

def exposureOf (m : AllocationMember) : Int := sumToDigits 28 0 (m.principals.map Int.ofNat)

def makeRow (group : AllocationGroup) (m : AllocationMember) : Tx Row := do
  let exposure ← moneyCents (exposureOf m)
  let room ← (group.maxMemberExposure.map fun limit =>
    max 0 (roundToDigits 28 (limit.val - exposureOf m))).mapM moneyCents
  return { memberId := m.id, quotaUnits := quotaUnits m, weight := weightOf (quotaUnits m) m.riskDecision,
           riskDecision := m.riskDecision, exposure := exposure, memberRoom := room }

section Shares
variable (group : AllocationGroup)

/-- The smaller of the member's room and the largest loan, as far as there are such limits. -/
def limitOf (r : Row) : Option Int :=
  match group.maxLoanAmount, r.memberRoom with
  | none, room => room
  | some most, none => some most.val
  | some most, some room => some (min room most.val)

def shareOf (cap : Int) (totalWeight : Number) (r : Row) : Number :=
  let raw := div 28 (mul 28 (Number.cents cap) r.weight) totalWeight
  match limitOf group r with
  | some limit => raw.min (Number.cents limit)
  | none => raw

/-- The pro-rata pass. -/
def firstPass (cap : Int) (totalWeight : Number) (rows : List Row) : Tx (List Item × Int) :=
  rows.foldlM (fun (items, remaining) r => do
    let recommended ← money (shareOf group cap totalWeight r)
    return (items ++ [(r, recommended)], roundToDigits 28 (remaining - recommended))) ([], cap)

/-- A member with weight and room for one more cent. -/
def isCandidate (item : Item) : Bool :=
  decide (0 < item.1.weight.coefficient) &&
    (limitOf group item.1).all fun limit => decide (roundToDigits 28 (item.2 + 1) ≤ limit)

/-- The amount per weight. -/
def perWeight (item : Item) : Number := div 28 (Number.cents item.2) item.1.weight

def keyLe (a b : Item × Nat) : Prop :=
  ¬ (perWeight b.1).le (perWeight a.1) ∨
    ((perWeight a.1).le (perWeight b.1) ∧ a.1.1.memberId ≤ b.1.1.memberId)

instance : DecidableRel keyLe := fun _ _ => inferInstanceAs (Decidable (_ ∨ _))

/-- The place of the candidate with the least amount per weight. -/
def chosen (items : List Item) : Option Nat :=
  ((items.zipIdx.filter fun entry => isCandidate group entry.1).insertionSort keyLe).head?.map Prod.snd

def addCent (items : List Item) (i : Nat) : List Item :=
  items.modify i fun item => (item.1, roundToDigits 28 (item.2 + 1))

/-- The residual cents, one after the other; every turn takes one, so the remaining cents are fuel
enough. -/
def redistribute : Nat → List Item → Int → List Item × Int
  | 0, items, remaining => (items, remaining)
  | fuel + 1, items, remaining =>
    if 1 ≤ remaining then
      match chosen group items with
      | some i => redistribute fuel (addCent items i) (roundToDigits 28 (remaining - 1))
      | none => (items, remaining)
    else (items, remaining)

end Shares

def startCapacity (optimized : Tx Int) (capacity : Option Number) : Tx Int :=
  match capacity with
  | some capacity => money capacity
  | none => optimized

def cutToRequest (cap : Int) (requestedAmount : Option Number) : Tx Int :=
  match requestedAmount with
  | some amount => do
    let requested ← money amount
    return min cap (max 0 requested)
  | none => .ok cap

/-- The capacity to split: the optimizer's or the given one, cut to the request. -/
def capacityOf (optimized : Tx Int) (capacity requestedAmount : Option Number) : Tx Int := do
  let cap ← startCapacity optimized capacity
  cutToRequest (max 0 cap) requestedAmount

/-- `allocate_resources` once the capacity is known. -/
def allocate (group : AllocationGroup) (members : List AllocationMember) (cap : Int) : Tx Allocation := do
  let rows ← members.mapM (makeRow group)
  let totalWeight := Decimal.total 28 (rows.map Row.weight)
  if cap ≤ 0 ∨ totalWeight.coefficient ≤ 0 then
    return .blocked group.id (← moneyCents cap) 0 rows "Nenhum participante elegível para alocação."
  else
    let (items, remaining) ← firstPass group cap totalWeight rows
    let (items, remaining) := redistribute group remaining.toNat items remaining
    let items ← items.mapM fun item => do
      let amount ← moneyCents item.2
      return (item.1, amount)
    let decision := if items.any fun item => decide (0 < item.2) then "ALLOW" else "BLOCKED"
    return .allocated decision group.id (← moneyCents cap)
      (← moneyCents (sumToDigits 28 0 (items.map Prod.snd))) (← moneyCents remaining) items

/-- `members` are the group's active ones in the order of their ids. -/
def allocateResources (group : Option AllocationGroup) (members : List AllocationMember)
    (optimized : Tx Int) (capacity requestedAmount : Option Number) : Tx Allocation := do
  let group ← orRefuse group "Grupo não encontrado."
  let cap ← capacityOf optimized capacity requestedAmount
  allocate group members cap

end Caixinha.Model.ResourceAllocation
