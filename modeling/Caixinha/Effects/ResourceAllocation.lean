import Caixinha.Model.ResourceAllocation
import Mathlib.Tactic.Ring
import Mathlib.Algebra.Order.BigOperators.Group.List

/-! What each pass of the split keeps: every amount within its limits, and the remaining cents what
the amounts leave of the capacity. -/
namespace Caixinha.Effects.ResourceAllocation
open Caixinha.Library Decimal Fallible Caixinha.Model Caixinha.Model.ResourceAllocation

variable {group : AllocationGroup} {cap : Int}

theorem orInvalid_eq_ok {cents : Option Int} {c : Int} : orInvalid cents = .ok c ↔ cents = some c := by
  cases cents <;> simp [orInvalid]

theorem moneyCents_eq_ok {cents c : Int} : moneyCents cents = .ok c ↔ cents.natAbs < 10 ^ 28 ∧ cents = c := by
  rw [moneyCents, orInvalid_eq_ok, checkCents_eq_some]

theorem moneyCents_ok {cents : Int} (h : cents.natAbs < 10 ^ 28) : moneyCents cents = .ok cents :=
  moneyCents_eq_ok.mpr ⟨h, rfl⟩

/-- A row as the members' data make it: no negative weight, no negative room. -/
structure RowOk (r : Row) : Prop where
  weight : 0 ≤ r.weight.coefficient
  room : ∀ room, r.memberRoom = some room → 0 ≤ room ∧ room < 10 ^ 28

/-- An amount within the limits of its row. -/
structure ItemOk (group : AllocationGroup) (item : Item) : Prop where
  nonneg : 0 ≤ item.2
  within : ∀ limit, limitOf group item.1 = some limit → item.2 ≤ limit
  unweighted : item.1.weight.coefficient = 0 → item.2 = 0

theorem RowOk.limit {r : Row} (h : RowOk r) {limit : Int} (hlimit : limitOf group r = some limit) :
    0 ≤ limit ∧ limit < 10 ^ 28 := by
  unfold limitOf at hlimit
  split at hlimit
  · exact h.room limit hlimit
  · rename_i most _ _
    cases hlimit
    exact most.property
  · rename_i most room _ hroom
    cases hlimit
    have := h.room room hroom
    have := most.property
    omega

theorem makeRow_ok (group : AllocationGroup) (m : AllocationMember) :
    ∃ r, makeRow group m = .ok r ∧ RowOk r := by
  have hnonneg : ∀ a ∈ m.principals.map Int.ofNat, (0 : Int) ≤ a := by
    intro a ha
    obtain ⟨k, -, rfl⟩ := List.mem_map.mp ha
    exact Int.natCast_nonneg k
  have hsum : (m.principals.map Int.ofNat).sum = m.principals.sum := by
    induction m.principals with
    | nil => rfl
    | cons a rest ih => rw [List.map_cons, List.sum_cons, ih, List.sum_cons]; rfl
  have hfits := m.fits
  have hexposure : exposureOf m = m.principals.sum := by
    rw [exposureOf, sumToDigits_of_sum_lt (by decide) _ hnonneg le_rfl (by omega), hsum, zero_add]
  have hweight : 0 ≤ (weightOf (quotaUnits m) m.riskDecision).coefficient := by
    have hunits : 0 ≤ (quotaUnits m).coefficient := by
      unfold quotaUnits
      split
      · rename_i units _
        exact units.property
      · decide
    unfold weightOf
    split
    · exact hunits
    · split
      · exact round_nonneg (Int.mul_nonneg hunits (by decide)) 28
      · decide
  rw [makeRow, moneyCents_ok (by omega), ok_bind]
  cases hlimit : group.maxMemberExposure with
  | none =>
    refine ⟨_, rfl, hweight, fun room hroom => ?_⟩
    cases hroom
  | some limit =>
    have hproperty := limit.property
    have hround : roundToDigits 28 (limit.val - exposureOf m) = limit.val - exposureOf m :=
      roundToDigits_of_lt (by decide) (by omega)
    have hroom : moneyCents (max 0 (roundToDigits 28 (limit.val - exposureOf m))) =
        .ok (max 0 (limit.val - exposureOf m)) := by
      rw [hround]
      exact moneyCents_ok (by omega)
    rw [Option.map_some, Option.mapM_some, hroom]
    refine ⟨_, rfl, hweight, fun room hsome => ?_⟩
    cases hsome
    omega

/-- The amounts of a list of items. -/
def amounts (items : List Item) : Int := (items.map Prod.snd).sum

theorem amounts_nonneg {items : List Item} (h : ∀ item ∈ items, ItemOk group item) : 0 ≤ amounts items := by
  refine List.sum_nonneg fun a ha => ?_
  obtain ⟨item, hitem, rfl⟩ := List.mem_map.mp ha
  exact (h item hitem).nonneg

theorem amounts_append (xs ys : List Item) : amounts (xs ++ ys) = amounts xs + amounts ys := by
  rw [amounts, List.map_append, List.sum_append]
  rfl

theorem amounts_cons (item : Item) (items : List Item) : amounts (item :: items) = item.2 + amounts items := rfl

@[simp] theorem amounts_nil : amounts [] = 0 := rfl

/-- What holds between two steps of the split; where the amounts leave the context's digits nothing
is said of what remains. -/
structure Split (group : AllocationGroup) (cap : Int) (items : List Item) (remaining : Int) : Prop where
  each : ∀ item ∈ items, ItemOk group item
  remaining_le : remaining ≤ cap
  conserved : amounts items < 10 ^ 28 → remaining = cap - amounts items

/-- The rounded remaining cents stay below the capacity. -/
private theorem remaining_sub_le {remaining amount : Int} (hcap : 0 ≤ cap) (hfits : cap < 10 ^ 28)
    (hle : remaining ≤ cap) (hamount : 0 ≤ amount) : roundToDigits 28 (remaining - amount) ≤ cap := by
  have hrounded : roundToDigits 28 cap = cap := roundToDigits_of_lt (by decide) (by omega)
  calc roundToDigits 28 (remaining - amount) ≤ roundToDigits 28 cap :=
        roundToDigits_le_of_le (by decide) (by omega)
    _ = cap := hrounded

theorem Split.snoc {items : List Item} {remaining : Int} (h : Split group cap items remaining)
    (hcap : 0 ≤ cap) (hfits : cap < 10 ^ 28) {item : Item} (hitem : ItemOk group item) :
    Split group cap (items ++ [item]) (roundToDigits 28 (remaining - item.2)) where
  each := List.forall_mem_append.mpr ⟨h.each, by simpa using hitem⟩
  remaining_le := remaining_sub_le hcap hfits h.remaining_le hitem.nonneg
  conserved hsum := by
    have hnonneg := amounts_nonneg h.each
    have hitem0 := hitem.nonneg
    rw [amounts_append, amounts_cons, amounts_nil, add_zero] at hsum ⊢
    have hconserved := h.conserved (by omega)
    rw [roundToDigits_of_lt (by decide) (by omega)]
    omega

section FirstPass
variable {totalWeight : Number}

private theorem shareOf_nonneg (cap : Int) {r : Row} (hrow : RowOk r) :
    (Number.cents 0).le (shareOf group cap totalWeight r) := by
  have hzero : (Number.cents 0).le (div 28 (mul 28 (Number.cents cap) r.weight) totalWeight) := by
    rw [Number.le, Number.cents, zero_mul]
    exact Int.mul_nonneg (divide_nonneg _ _) (by positivity)
  unfold shareOf
  dsimp only
  split
  · rename_i limit hlimit
    exact Number.le_min_iff.mpr ⟨hzero, cents_le_cents.mpr (hrow.limit hlimit).1⟩
  · exact hzero

private theorem nonneg_of_le {x : Number} (h : (Number.cents 0).le x) : 0 ≤ x.coefficient := by
  rw [Number.le, Number.cents, zero_mul] at h
  exact nonneg_of_mul_nonneg_left h (by positivity)

private theorem money_down {x : Number} {c : Int} (hx : (Number.cents 0).le x) (h : money x = .ok c) :
    c = floorCents x ∧ 0 ≤ c := by
  rw [money, orInvalid_eq_ok, quantizeDown, checkCents_eq_some, centsDown_of_nonneg (nonneg_of_le hx)] at h
  exact ⟨h.2.symm, h.2 ▸ cents_le_iff.mp hx⟩

/-- A rounded-down share is within the limits. -/
theorem money_shareOf {r : Row} {c : Int} (hrow : RowOk r)
    (h : money (shareOf group cap totalWeight r) = .ok c) : ItemOk group (r, c) := by
  obtain ⟨hc, hnonneg⟩ := money_down (shareOf_nonneg cap hrow) h
  refine ⟨hnonneg, fun limit hlimit => ?_, fun hweight => ?_⟩
  · have hle : (shareOf group cap totalWeight r).le (Number.cents limit) := by
      unfold shareOf
      dsimp only at hlimit ⊢
      rw [hlimit]
      exact Number.min_le_right _ _
    have := floorCents_mono hle
    rw [floorCents_cents] at this
    change c ≤ limit
    omega
  · have hproduct : (mul 28 (Number.cents cap) r.weight).coefficient = 0 := by
      change r.weight.coefficient = 0 at hweight
      rw [mul, hweight, mul_zero, Number.round]
      simp
    have hle : (shareOf group cap totalWeight r).le (Number.cents 0) := by
      unfold shareOf
      rw [div_zero_left hproduct]
      have hzero : (⟨0, 0⟩ : Number).le (Number.cents 0) := by decide
      dsimp only
      split
      · exact Number.le_trans (Number.min_le_left _ _) hzero
      · exact hzero
    have := floorCents_mono hle
    rw [floorCents_cents] at this
    change c = 0
    omega

/-- One row of the first pass. -/
def shareStep (group : AllocationGroup) (cap : Int) (totalWeight : Number) (p : List Item × Int) (r : Row) :
    Tx (List Item × Int) := do
  let recommended ← money (shareOf group cap totalWeight r)
  return (p.1 ++ [(r, recommended)], roundToDigits 28 (p.2 - recommended))

theorem firstPass_ok {rows : List Row} {items : List Item} {remaining : Int} (hcap : 0 ≤ cap)
    (hfits : cap < 10 ^ 28) (hrows : ∀ r ∈ rows, RowOk r)
    (h : firstPass group cap totalWeight rows = .ok (items, remaining)) :
    items.map Prod.fst = rows ∧ Split group cap items remaining := by
  have hrun : ∀ (rows : List Row) (before : List Item) (left : Int), (∀ r ∈ rows, RowOk r) →
      Split group cap before left →
      rows.foldlM (shareStep group cap totalWeight) (before, left) = .ok (items, remaining) →
      items.map Prod.fst = before.map Prod.fst ++ rows ∧ Split group cap items remaining := by
    intro rows
    induction rows with
    | nil =>
      intro before left _ hsplit hok
      rw [List.foldlM_nil, pure_eq_ok] at hok
      cases hok
      exact ⟨(List.append_nil _).symm, hsplit⟩
    | cons r rest ih =>
      intro before left hrows hsplit hok
      simp only [List.foldlM_cons, shareStep, bind_eq_ok, pure_eq_ok] at hok
      obtain ⟨next, ⟨recommended, hmoney, rfl⟩, hrest⟩ := hok
      have hitem := money_shareOf (hrows r (List.mem_cons_self ..)) hmoney
      obtain ⟨hmap, hdone⟩ := ih _ _ (fun r hr => hrows r (List.mem_cons_of_mem _ hr))
        (hsplit.snoc hcap hfits hitem) hrest
      refine ⟨?_, hdone⟩
      rw [hmap, List.map_append, List.append_assoc]
      rfl
  have hstart : Split group cap [] cap :=
    ⟨fun item hitem => absurd hitem List.not_mem_nil, le_rfl, fun _ => by simp [amounts]⟩
  exact hrun rows [] cap hrows hstart h

/-- A share of a capacity the context has room for is an amount of at most eight times as much. -/
theorem money_shareOf_ok {weights : List Number} (hweights : ∀ w ∈ weights, 0 ≤ w.coefficient)
    (htotal : 0 < (Decimal.total 28 weights).coefficient) (hcap : 0 ≤ cap) (hfits : 40 * cap < 10 ^ 28) {r : Row}
    (hrow : RowOk r) (hr : r.weight ∈ weights) :
    ∃ c, money (shareOf group cap (Decimal.total 28 weights) r) = .ok c ∧ c ≤ 8 * cap := by
  have hraw := @share_le 28 (by decide) _ hweights _ hr htotal _ hcap (by omega)
  have hle : (shareOf group cap (Decimal.total 28 weights) r).le (Number.cents (2 * (4 * cap))) := by
    unfold shareOf
    dsimp only
    split
    · exact Number.le_trans (Number.min_le_left _ _) hraw
    · exact hraw
  have hzero := @shareOf_nonneg group (Decimal.total 28 weights) cap _ hrow
  have hhigh := floorCents_mono hle
  have hlow := floorCents_mono hzero
  rw [floorCents_cents] at hhigh hlow
  refine ⟨_, ?_, show floorCents (shareOf group cap (Decimal.total 28 weights) r) ≤ 8 * cap by omega⟩
  rw [money, quantizeDown, centsDown_of_nonneg (nonneg_of_le hzero), orInvalid_eq_ok, checkCents_eq_some]
  exact ⟨by omega, rfl⟩

theorem firstPass_returns {rows : List Row} (hcap : 0 ≤ cap) (hfits : 40 * cap < 10 ^ 28)
    (hrows : ∀ r ∈ rows, RowOk r) (htotal : 0 < (Decimal.total 28 (rows.map Row.weight)).coefficient) :
    ∃ items remaining, firstPass group cap (Decimal.total 28 (rows.map Row.weight)) rows = .ok (items, remaining) ∧
      amounts items ≤ rows.length * (8 * cap) := by
  have hweights : ∀ w ∈ rows.map Row.weight, 0 ≤ w.coefficient := by
    intro w hw
    obtain ⟨r, hr, rfl⟩ := List.mem_map.mp hw
    exact (hrows r hr).weight
  have hrun : ∀ (more : List Row) (before : List Item) (left : Int), (∀ r ∈ more, r ∈ rows) →
      ∃ items remaining, more.foldlM (shareStep group cap (Decimal.total 28 (rows.map Row.weight)))
          (before, left) = .ok (items, remaining) ∧
        amounts items ≤ amounts before + more.length * (8 * cap) := by
    intro more
    induction more with
    | nil => exact fun before left _ => ⟨before, left, rfl, by simp⟩
    | cons r rest ih =>
      intro before left hsub
      have hr := hsub r (List.mem_cons_self ..)
      obtain ⟨c, hmoney, hc⟩ := @money_shareOf_ok group _ _ hweights htotal hcap hfits _ (hrows r hr)
        (List.mem_map_of_mem hr)
      obtain ⟨items, remaining, hok, hle⟩ := ih (before ++ [(r, c)]) (roundToDigits 28 (left - c))
        (fun r hr => hsub r (List.mem_cons_of_mem _ hr))
      refine ⟨items, remaining, ?_, ?_⟩
      · rw [List.foldlM_cons, shareStep, hmoney]
        exact hok
      · rw [amounts_append, amounts_cons, amounts_nil] at hle
        rw [List.length_cons]
        push_cast
        have hexpand : ((rest.length : Int) + 1) * (8 * cap) = rest.length * (8 * cap) + 8 * cap := by ring
        omega
  obtain ⟨items, remaining, hok, hle⟩ := hrun rows [] cap fun r hr => hr
  exact ⟨items, remaining, hok, by simpa using hle⟩

end FirstPass

section Redistribute
variable {items : List Item} {remaining : Int}

/-- The cent goes to a member of the list who is a candidate. -/
theorem chosen_some {i : Nat} (h : chosen group items = some i) :
    ∃ before item after, items = before ++ item :: after ∧ i = before.length ∧ isCandidate group item := by
  rw [chosen, Option.map_eq_some_iff] at h
  obtain ⟨entry, hhead, rfl⟩ := h
  have hmem := (List.mem_insertionSort _).mp (List.mem_of_mem_head? hhead)
  obtain ⟨hzip, hcandidate⟩ := List.mem_filter.mp hmem
  obtain ⟨hlt, hget⟩ := List.getElem?_eq_some_iff.mp (List.mem_zipIdx_iff_getElem?.mp hzip)
  refine ⟨items.take entry.2, entry.1, items.drop (entry.2 + 1), ?_, ?_, hcandidate⟩
  · rw [← hget, ← List.drop_eq_getElem_cons hlt, List.take_append_drop]
  · rw [List.length_take]
    omega

/-- Nobody is chosen only where nobody is a candidate. -/
theorem chosen_none (h : chosen group items = none) : ∀ item ∈ items, isCandidate group item = false := by
  rw [chosen, Option.map_eq_none_iff, List.head?_eq_none_iff, ← List.length_eq_zero_iff,
    List.length_insertionSort, List.length_eq_zero_iff] at h
  intro item hitem
  obtain ⟨i, hlt, hget⟩ := List.mem_iff_getElem.mp hitem
  have hzip : (item, i) ∈ items.zipIdx :=
    List.mem_zipIdx_iff_getElem?.mpr (List.getElem?_eq_some_iff.mpr ⟨hlt, hget⟩)
  have hnot := List.filter_eq_nil_iff.mp h _ hzip
  simpa using hnot

private theorem addCent_append (before : List Item) (item : Item) (after : List Item) :
    addCent (before ++ item :: after) before.length =
      before ++ (item.1, roundToDigits 28 (item.2 + 1)) :: after := by
  rw [addCent]
  induction before with
  | nil => rfl
  | cons b before ih => rw [List.cons_append, List.length_cons, List.modify_succ_cons, ih, List.cons_append]

/-- What a candidate's room says: the rounded cent is within the limits. -/
theorem isCandidate_iff {item : Item} : isCandidate group item = true ↔
    0 < item.1.weight.coefficient ∧
      ∀ limit, limitOf group item.1 = some limit → roundToDigits 28 (item.2 + 1) ≤ limit := by
  rw [isCandidate, Bool.and_eq_true, decide_eq_true_eq]
  cases limitOf group item.1 with
  | none => simp
  | some limit => simp

private theorem ItemOk.addCent {item : Item} (h : ItemOk group item) (hcandidate : isCandidate group item = true) :
    ItemOk group (item.1, roundToDigits 28 (item.2 + 1)) := by
  obtain ⟨hweight, hroom⟩ := isCandidate_iff.mp hcandidate
  have hnonneg := h.nonneg
  refine ⟨roundToDigits_nonneg (by omega), hroom, fun hzero => ?_⟩
  change item.1.weight.coefficient = 0 at hzero
  omega

theorem Split.addCent (h : Split group cap items remaining) (hfits : cap < 10 ^ 28) (hmore : 1 ≤ remaining)
    {i : Nat} (hchosen : chosen group items = some i) :
    Split group cap (addCent items i) (roundToDigits 28 (remaining - 1)) ∧
      (ResourceAllocation.addCent items i).map Prod.fst = items.map Prod.fst ∧
      roundToDigits 28 (remaining - 1) = remaining - 1 ∧
      (amounts items + 1 < 10 ^ 28 → amounts (ResourceAllocation.addCent items i) = amounts items + 1) := by
  obtain ⟨before, item, after, rfl, rfl, hcandidate⟩ := chosen_some hchosen
  have hle := h.remaining_le
  have hrounded : roundToDigits 28 (remaining - 1) = remaining - 1 := roundToDigits_of_lt (by decide) (by omega)
  have hitem := h.each item (by simp)
  have hnext := hitem.addCent hcandidate
  have hitem0 := hitem.nonneg
  have hbefore : 0 ≤ amounts before := amounts_nonneg fun x hx => h.each x (by simp [hx])
  have hafter : 0 ≤ amounts after := amounts_nonneg fun x hx => h.each x (by simp [hx])
  have hnonneg := hnext.nonneg
  change 0 ≤ roundToDigits 28 (item.2 + 1) at hnonneg
  have hexact : item.2 + 1 < 10 ^ 28 → roundToDigits 28 (item.2 + 1) = item.2 + 1 := fun hlt =>
    roundToDigits_of_lt (by decide) (by omega)
  have hsum : amounts (before ++ (item.1, roundToDigits 28 (item.2 + 1)) :: after) =
      amounts before + (roundToDigits 28 (item.2 + 1) + amounts after) := by
    rw [amounts_append, amounts_cons]
  have hold : amounts (before ++ item :: after) = amounts before + (item.2 + amounts after) := by
    rw [amounts_append, amounts_cons]
  rw [addCent_append, hrounded, hsum, hold]
  refine ⟨⟨?_, by omega, fun hfit => ?_⟩, by simp, rfl, fun hfit => ?_⟩
  · intro x hx
    rcases List.mem_append.mp hx with hx | hx
    · exact h.each x (List.mem_append_left _ hx)
    · rcases List.mem_cons.mp hx with rfl | hx
      · exact hnext
      · exact h.each x (by simp [hx])
  · rw [hsum] at hfit ⊢
    have hshort : item.2 + 1 < 10 ^ 28 := by
      by_contra hlong
      have := @pow_le_roundToDigits 28 (item.2 + 1) (by decide) (by omega)
      omega
    have hconserved := h.conserved (by rw [hold]; have := hexact hshort; omega)
    rw [hold] at hconserved
    have := hexact hshort
    omega
  · have := hexact (by omega)
    omega

/-- The redistribution ends with every remaining cent beyond the room of every member with weight,
and gives nothing that is not there. -/
theorem redistribute_spec (hfits : cap < 10 ^ 28) (fuel : Nat) (h : Split group cap items remaining)
    (hfuel : remaining ≤ fuel) {most : Int} (hmost : cap ≤ most) (hmostFits : most < 10 ^ 28)
    {done : List Item} {left : Int} (hrun : redistribute group fuel items remaining = (done, left)) :
    Split group cap done left ∧ done.map Prod.fst = items.map Prod.fst ∧
      (1 ≤ left → ∀ item ∈ done, isCandidate group item = false) ∧
      (amounts items ≤ most → amounts done ≤ most) := by
  induction fuel generalizing items remaining with
  | zero =>
    cases hrun
    exact ⟨h, rfl, fun hleft => by omega, id⟩
  | succ fuel ih =>
    rw [redistribute] at hrun
    split at hrun
    · rename_i hmore
      cases hchosen : chosen group items with
      | none =>
        rw [hchosen] at hrun
        cases hrun
        exact ⟨h, rfl, fun _ => chosen_none hchosen, id⟩
      | some i =>
        rw [hchosen] at hrun
        obtain ⟨hsplit, hrows, hrounded, hsum⟩ := h.addCent hfits hmore hchosen
        obtain ⟨hdone, hmap, hexit, hbound⟩ := ih hsplit (by omega) hrun
        refine ⟨hdone, hmap.trans hrows, hexit, fun hle => hbound ?_⟩
        have hconserved := h.conserved (by omega)
        have := hsum (by omega)
        omega
    · rename_i hfew
      cases hrun
      exact ⟨h, rfl, fun hleft => absurd hleft hfew, id⟩

end Redistribute

end Caixinha.Effects.ResourceAllocation
