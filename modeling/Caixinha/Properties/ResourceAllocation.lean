import Caixinha.Effects.ResourceAllocation

/-! The recommended split: every cent of the capacity is accounted for, within everyone's limits. -/
namespace Caixinha.Properties.ResourceAllocation
open Caixinha.Library Decimal Fallible Caixinha.Model Caixinha.Model.ResourceAllocation
open Caixinha.Effects.ResourceAllocation

/-- One item for the row of each member, each within its limits; the amounts and the unallocated cents are the
capacity, and cents are left only where nobody with weight can take one more. -/
structure Divided (group : AllocationGroup) (members : List AllocationMember) (cap allocatedTotal unallocated : Int)
    (items : List Item) : Prop where
  rows : members.mapM (makeRow group) = .ok (items.map Prod.fst)
  within : ∀ item ∈ items, ItemOk group item
  total : allocatedTotal = amounts items
  conserved : allocatedTotal + unallocated = cap
  exhausted : 1 ≤ unallocated → ∀ item ∈ items, 0 < item.1.weight.coefficient →
    ∃ limit, limitOf group item.1 = some limit ∧ limit < item.2 + 1

/-- A blocked answer allocates nothing, and only where there is nothing to split or nobody to split it
over. -/
def Accounted (group : AllocationGroup) (members : List AllocationMember) (cap : Int) : ResourceAllocation.Allocation → Prop
  | .blocked _ capacity allocatedTotal rows _ =>
    capacity = cap ∧ allocatedTotal = 0 ∧ members.mapM (makeRow group) = .ok rows ∧
      (cap = 0 ∨ ∀ r ∈ rows, r.weight.coefficient = 0)
  | .allocated _ _ capacity allocatedTotal unallocated items =>
    capacity = cap ∧ Divided group members cap allocatedTotal unallocated items

variable {group : AllocationGroup} {members : List AllocationMember} {cap : Int}

theorem capacityOf_nonneg {optimized : Tx Int} {capacity requestedAmount : Option Number}
    (h : capacityOf optimized capacity requestedAmount = .ok cap) : 0 ≤ cap := by
  rw [capacityOf, bind_eq_ok] at h
  obtain ⟨start, -, h⟩ := h
  cases requestedAmount with
  | none =>
    cases h
    exact le_max_left 0 start
  | some amount =>
    simp only [cutToRequest, bind_eq_ok, pure_eq_ok] at h
    obtain ⟨requested, -, h⟩ := h
    omega

private theorem rows_ok (group : AllocationGroup) (members : List AllocationMember) :
    ∃ rows, members.mapM (makeRow group) = .ok rows ∧ (∀ r ∈ rows, RowOk r) ∧
      rows.length = members.length := by
  induction members with
  | nil => exact ⟨[], rfl, fun r hr => absurd hr List.not_mem_nil, rfl⟩
  | cons m rest ih =>
    obtain ⟨rows, hok, hrows, hlength⟩ := ih
    obtain ⟨r, hr, hrow⟩ := makeRow_ok group m
    refine ⟨r :: rows, ?_, List.forall_mem_cons.mpr ⟨hrow, hrows⟩, ?_⟩
    · rw [List.mapM_cons, hr, ok_bind, hok]
      rfl
    · rw [List.length_cons, List.length_cons, hlength]

private theorem checked_items {items done : List Item}
    (h : items.mapM (fun item => do
      let amount ← moneyCents item.2
      return (item.1, amount)) = Except.ok done) : done = items := by
  have hall := forall₂_of_mapM h
  clear h
  induction hall with
  | nil => rfl
  | cons hhead _ ih =>
    simp only [bind_eq_ok, pure_eq_ok] at hhead
    obtain ⟨amount, hamount, rfl⟩ := hhead
    rw [ih, ← (moneyCents_eq_ok.mp hamount).2]

private theorem sum_checked {items : List Item} {total : Int} (hitems : ∀ item ∈ items, ItemOk group item)
    (h : moneyCents (sumToDigits 28 0 (items.map Prod.snd)) = .ok total) :
    total = amounts items ∧ amounts items < 10 ^ 28 := by
  obtain ⟨hfits, rfl⟩ := moneyCents_eq_ok.mp h
  have hnonneg : ∀ a ∈ items.map Prod.snd, 0 ≤ a := by
    intro a ha
    obtain ⟨item, hitem, rfl⟩ := List.mem_map.mp ha
    exact (hitems item hitem).nonneg
  have hsum : 0 ≤ sumToDigits 28 0 (items.map Prod.snd) := sumToDigits_nonneg _ hnonneg le_rfl
  have heq : sumToDigits 28 0 (items.map Prod.snd) = 0 + amounts items :=
    sumToDigits_eq (by decide) _ hnonneg le_rfl (by omega)
  rw [zero_add] at heq
  exact ⟨heq, by omega⟩

theorem allocate_accounted (hcap : 0 ≤ cap) {answer : ResourceAllocation.Allocation}
    (h : ResourceAllocation.allocate group members cap = .ok answer) : Accounted group members cap answer := by
  obtain ⟨rows, hrows, hrowOk, -⟩ := rows_ok group members
  rw [ResourceAllocation.allocate, hrows, ok_bind] at h
  dsimp only at h
  split at h
  · rename_i hblocked
    simp only [bind_eq_ok, pure_eq_ok] at h
    obtain ⟨capacity, hcapacity, rfl⟩ := h
    refine ⟨(moneyCents_eq_ok.mp hcapacity).2.symm, rfl, hrows, ?_⟩
    rcases hblocked with hzero | hweight
    · exact .inl (by omega)
    · refine .inr fun r hr => ?_
      refine eq_zero_of_total (by decide) (fun w hw => ?_) hweight _ (List.mem_map_of_mem hr)
      obtain ⟨r, hr, rfl⟩ := List.mem_map.mp hw
      exact (hrowOk r hr).weight
  · simp only [bind_eq_ok, pure_eq_ok, Prod.exists] at h
    obtain ⟨items, remaining, hpass, done, hdone, capacity, hcapacity, total, htotal, unallocated,
      hunallocated, rfl⟩ := h
    obtain ⟨hfits, rfl⟩ := moneyCents_eq_ok.mp hcapacity
    obtain ⟨hmap, hsplit⟩ := firstPass_ok hcap (by omega) hrowOk hpass
    obtain rfl := checked_items hdone
    obtain ⟨hend, hsame, hexit, -⟩ := redistribute_spec (by omega) remaining.toNat hsplit (by omega) le_rfl
      (by omega) (rfl : redistribute group remaining.toNat items remaining = _)
    obtain ⟨-, rfl⟩ := moneyCents_eq_ok.mp hunallocated
    obtain ⟨rfl, hsum⟩ := sum_checked hend.each htotal
    have hconserved := hend.conserved hsum
    refine ⟨rfl, ?_, hend.each, rfl, by omega, fun hleft item hitem hweight => ?_⟩
    · rw [hrows, ← hmap, ← hsame]
    · have hnot := hexit hleft item hitem
      rw [← Bool.not_eq_true, isCandidate_iff] at hnot
      have hroom : ¬ ∀ limit, limitOf group item.1 = some limit → roundToDigits 28 (item.2 + 1) ≤ limit :=
        fun hall => hnot ⟨hweight, hall⟩
      push Not at hroom
      obtain ⟨limit, hlimit, hlt⟩ := hroom
      refine ⟨limit, hlimit, ?_⟩
      have hwithin := (hend.each item hitem).within limit hlimit
      have hnonneg := (hend.each item hitem).nonneg
      rcases Int.lt_or_le (item.2 + 1) (10 ^ 28) with hshort | hlong
      · rwa [roundToDigits_of_lt (by decide) (by omega)] at hlt
      · have hrow : RowOk item.1 := by
          refine hrowOk _ ?_
          rw [← hmap, ← hsame]
          exact List.mem_map_of_mem hitem
        have := (hrow.limit hlimit).2
        omega

private theorem items_checked {items : List Item} (h : ∀ item ∈ items, item.2.natAbs < 10 ^ 28) :
    items.mapM (fun item => do
      let amount ← moneyCents item.2
      return (item.1, amount)) = Except.ok items := by
  induction items with
  | nil => rfl
  | cons item rest ih =>
    rw [List.mapM_cons, moneyCents_ok (h item (List.mem_cons_self ..)), ok_bind,
      ih fun x hx => h x (List.mem_cons_of_mem _ hx)]
    rfl

private theorem le_amounts {items : List Item} (h : ∀ item ∈ items, ItemOk group item) {item : Item}
    (hitem : item ∈ items) : item.2 ≤ amounts items := by
  obtain ⟨before, after, rfl⟩ := List.append_of_mem hitem
  have hbefore := amounts_nonneg fun x hx => h x (List.mem_append_left _ hx)
  have hafter := amounts_nonneg fun x hx => h x (List.mem_append_right _ (List.mem_cons_of_mem _ hx))
  rw [amounts_append, amounts_cons]
  omega

/-- Far enough from the digits of the context the split returns. -/
theorem allocate_returns (hcap : 0 ≤ cap) (hfits : 40 * (((members.length : Int) + 1) * cap) < 10 ^ 28) :
    ∃ answer, ResourceAllocation.allocate group members cap = .ok answer := by
  obtain ⟨rows, hrows, hrowOk, hlength⟩ := rows_ok group members
  have hexpand : ((members.length : Int) + 1) * cap = members.length * cap + cap := by ring
  have hmany : 0 ≤ (members.length : Int) * cap := Int.mul_nonneg (Int.natCast_nonneg _) hcap
  rw [ResourceAllocation.allocate, hrows, ok_bind]
  dsimp only
  split
  · rw [moneyCents_ok (by omega)]
    exact ⟨_, rfl⟩
  · rename_i hsome
    have htotal : 0 < (Decimal.total 28 (rows.map Row.weight)).coefficient := by omega
    obtain ⟨items, remaining, hpass, hsum⟩ := @firstPass_returns group _ _ hcap (by omega) hrowOk htotal
    obtain ⟨-, hsplit⟩ := firstPass_ok hcap (by omega) hrowOk hpass
    have hscale : (rows.length : Int) * (8 * cap) = 8 * (members.length * cap) := by
      rw [hlength]
      ring
    obtain ⟨hend, -, -, hbound⟩ := redistribute_spec (by omega) remaining.toNat hsplit (by omega)
      (show cap ≤ max cap (amounts items) by omega) (by omega)
      (rfl : redistribute group remaining.toNat items remaining = _)
    have hmost := hbound (le_max_right _ _)
    have hnonneg := amounts_nonneg hend.each
    have hconserved := hend.conserved (by omega)
    have hitems := items_checked fun item hitem => by
      have := le_amounts hend.each hitem
      have := (hend.each item hitem).nonneg
      omega
    have hnonnegs : ∀ a ∈ (redistribute group remaining.toNat items remaining).1.map Prod.snd, 0 ≤ a := by
      intro a ha
      obtain ⟨item, hitem, rfl⟩ := List.mem_map.mp ha
      exact (hend.each item hitem).nonneg
    have hsummed : sumToDigits 28 0 ((redistribute group remaining.toNat items remaining).1.map Prod.snd) =
        0 + amounts (redistribute group remaining.toNat items remaining).1 :=
      sumToDigits_of_sum_lt (by decide) _ hnonnegs le_rfl (by
        change 0 + amounts (redistribute group remaining.toNat items remaining).1 < 10 ^ 28
        omega)
    rw [zero_add] at hsummed
    rw [hpass, ok_bind]
    dsimp only
    rw [hitems, ok_bind, moneyCents_ok (by omega), ok_bind, hsummed, moneyCents_ok (by omega), ok_bind,
      moneyCents_ok (by omega), ok_bind]
    exact ⟨_, rfl⟩

/-- Whatever the answer, it accounts for the capacity; and there is one unless an amount may leave
the digits of the context. -/
theorem allocation_accounted (group : AllocationGroup) (members : List AllocationMember)
    (optimized : Tx Int) (capacity requestedAmount : Option Number) (cap : Int)
    (h : capacityOf optimized capacity requestedAmount = .ok cap) :
    (∀ answer, allocateResources (some group) members optimized capacity requestedAmount = .ok answer →
      Accounted group members cap answer) ∧
    (40 * (((members.length : Int) + 1) * cap) < 10 ^ 28 →
      ∃ answer, allocateResources (some group) members optimized capacity requestedAmount = .ok answer) := by
  have hrun : allocateResources (some group) members optimized capacity requestedAmount =
      ResourceAllocation.allocate group members cap := by
    rw [allocateResources, orRefuse, ok_bind, h, ok_bind]
  rw [hrun]
  exact ⟨fun answer => allocate_accounted (capacityOf_nonneg h), allocate_returns (capacityOf_nonneg h)⟩

section Samples

private def allowed : AllocationMember where
  id := 1
  riskDecision := "ALLOW"

private def reviewed : AllocationMember where
  id := 2

private def refused : AllocationMember where
  id := 3
  riskDecision := "BLOCK"

private def cappedGroup : AllocationGroup where
  id := 7
  maxLoanAmount := some ⟨40, by decide⟩

private def allocatedCents : Tx ResourceAllocation.Allocation → Option (Int × Int × List Int)
  | .ok (.allocated _ _ _ allocatedTotal unallocated items) => some (allocatedTotal, unallocated, items.map Prod.snd)
  | _ => none

/-- A real over three members, where nobody may have more than forty cents: the cents that the member
of full weight may not have go to the one under review, as far as that one may have them. -/
theorem real_accounted : ∃ decision groupId items,
    allocateResources (some cappedGroup) [allowed, reviewed, refused] (.ok 0) (some (Number.cents 100)) none =
        .ok (.allocated decision groupId 100 80 20 items) ∧ items.map Prod.snd = [40, 40, 0] ∧
      Divided cappedGroup [allowed, reviewed, refused] 100 80 20 items := by
  obtain ⟨haccounted, hreturns⟩ := allocation_accounted cappedGroup [allowed, reviewed, refused] (.ok 0)
    (some (Number.cents 100)) none 100 (by decide)
  obtain ⟨answer, hanswer⟩ := hreturns (by decide)
  have hcents : allocatedCents (allocateResources (some cappedGroup) [allowed, reviewed, refused] (.ok 0)
      (some (Number.cents 100)) none) = some (80, 20, [40, 40, 0]) := by decide
  have hdivided := haccounted answer hanswer
  rw [hanswer] at hcents
  cases answer with
  | blocked => cases hcents
  | allocated decision groupId capacity allocatedTotal unallocated items =>
    obtain ⟨rfl, hdivided⟩ := hdivided
    simp only [allocatedCents, Option.some.injEq, Prod.mk.injEq] at hcents
    obtain ⟨rfl, rfl, hamounts⟩ := hcents
    exact ⟨decision, groupId, items, hanswer, hamounts, hdivided⟩

/-- With nobody to split it over, a real is neither allocated nor reported as unallocated; and half of
the largest amount rounds up, so that the whole of it leaves the digits of the context. -/
theorem real_not_divided : (¬ ∃ decision groupId capacity allocatedTotal unallocated items,
    allocateResources (some { id := 7 }) [refused] (.ok 0) (some (Number.cents 100)) none =
        .ok (.allocated decision groupId capacity allocatedTotal unallocated items) ∧
      Divided { id := 7 } [refused] 100 allocatedTotal unallocated items) ∧
    capacityOf (.ok 0) (some (Number.cents (10 ^ 28 - 1))) none = .ok (10 ^ 28 - 1) ∧
    (allocateResources (some { id := 7 }) [reviewed] (.ok 0) (some (Number.cents (10 ^ 28 - 1))) none).map
      (fun _ => ()) = .error .invalidOperation := by
  refine ⟨?_, by decide, by decide⟩
  rintro ⟨decision, groupId, capacity, allocatedTotal, unallocated, items, hrun, -⟩
  have hblocked : allocatedCents
      (allocateResources (some { id := 7 }) [refused] (.ok 0) (some (Number.cents 100)) none) = none := by
    decide
  rw [hrun] at hblocked
  cases hblocked

end Samples

end Caixinha.Properties.ResourceAllocation
