import Caixinha.Library.Quotients
import Caixinha.Library.Sorting
import Caixinha.Model.CycleClosing

/-! The split of the distributable result in exact arithmetic: the floors are those of the
exact quotas, and the residual cents go along the order of the rounded remainders. -/
namespace Caixinha.Effects.Allocation

open Caixinha.Model Caixinha.Model.CycleClosing Caixinha.Library Decimal Fallible

/-- What the rounded quota of a base leaves over its floor. -/
def fraction (total totalBase base : Nat) : Number :=
  (quota total totalBase base).subNat (quota total totalBase base).floor

/-- The order in which residual cents are handed out. -/
def residualBefore (total totalBase : Nat) (tieKey : Nat → Nat) (a b : Nat × Nat) : Prop :=
  ¬ (fraction total totalBase a.2).le (fraction total totalBase b.2) ∨
    ((fraction total totalBase a.2).le (fraction total totalBase b.2) ∧
      (fraction total totalBase b.2).le (fraction total totalBase a.2) ∧
      (tieKey a.1 < tieKey b.1 ∨ (tieKey a.1 = tieKey b.1 ∧ a.1 ≤ b.1)))

instance (total totalBase : Nat) (tieKey : Nat → Nat) :
    DecidableRel (residualBefore total totalBase tieKey) :=
  fun _ _ => inferInstanceAs (Decidable (_ ∨ _))

theorem residualBefore_total (total totalBase : Nat) (tieKey : Nat → Nat) (a b : Nat × Nat) :
    residualBefore total totalBase tieKey a b ∨ residualBefore total totalBase tieKey b a := by
  unfold residualBefore
  by_cases hab : (fraction total totalBase a.2).le (fraction total totalBase b.2)
  · by_cases hba : (fraction total totalBase b.2).le (fraction total totalBase a.2)
    · have htie : (tieKey a.1 < tieKey b.1 ∨ (tieKey a.1 = tieKey b.1 ∧ a.1 ≤ b.1)) ∨
          (tieKey b.1 < tieKey a.1 ∨ (tieKey b.1 = tieKey a.1 ∧ b.1 ≤ a.1)) := by omega
      exact htie.imp (fun h => .inr ⟨hab, hba, h⟩) (fun h => .inr ⟨hba, hab, h⟩)
    · exact .inr (.inl hba)
  · exact .inl (.inl hab)

theorem residualBefore_trans (total totalBase : Nat) (tieKey : Nat → Nat) (a b c : Nat × Nat)
    (hab : residualBefore total totalBase tieKey a b)
    (hbc : residualBefore total totalBase tieKey b c) :
    residualBefore total totalBase tieKey a c := by
  unfold residualBefore at hab hbc ⊢
  by_cases hac : (fraction total totalBase a.2).le (fraction total totalBase c.2)
  · right
    have hba : (fraction total totalBase b.2).le (fraction total totalBase a.2) := by
      rcases hab with h | h
      · exact (Number.le_total _ _).resolve_left h
      · exact h.2.1
    have hcb : (fraction total totalBase c.2).le (fraction total totalBase b.2) := by
      rcases hbc with h | h
      · exact (Number.le_total _ _).resolve_left h
      · exact h.2.1
    have hab' := hab.resolve_left (not_not.mpr (Number.le_trans hac hcb))
    have hbc' := hbc.resolve_left (not_not.mpr (Number.le_trans hba hac))
    refine ⟨hac, Number.le_trans hcb hba, ?_⟩
    have := hab'.2.2
    have := hbc'.2.2
    omega
  · exact .inl hac

theorem residualOrder_eq (total totalBase : Nat) (bases : List (Nat × Nat)) (tieKey : Nat → Nat) :
    residualOrder total totalBase bases tieKey =
      (bases.insertionSort (residualBefore total totalBase tieKey)).map Prod.fst := rfl

theorem residualOrder_perm (total totalBase : Nat) (bases : List (Nat × Nat)) (tieKey : Nat → Nat) :
    (residualOrder total totalBase bases tieKey).Perm (bases.map Prod.fst) :=
  (List.perm_insertionSort _ bases).map Prod.fst

section Quotas
variable {total base totalBase : Nat}

private theorem product_lt (htotal : total < 10 ^ 28) (hbase : base < 10 ^ 28) :
    total * base < 10 ^ 56 := by
  calc total * base < 10 ^ 28 * 10 ^ 28 := Nat.mul_lt_mul'' htotal hbase
    _ = 10 ^ 56 := by norm_num

theorem quota_eq (htotal : total < 10 ^ 28) (hbase : base < 10 ^ 28) :
    quota total totalBase base = divide 60 (total * base) totalBase := by
  rw [quota, roundNat_of_lt (by decide) (hbase.trans (by norm_num)),
    roundNat_of_lt (by decide) ((product_lt htotal hbase).trans (by norm_num))]

/-- The quotas computed with 60 digits have the floors of the exact quotas. -/
theorem floor_quota (htotal : total < 10 ^ 28) (hbase : base < 10 ^ 28) (hpos : 0 < totalBase) :
    (quota total totalBase base).floor = total * base / totalBase := by
  rw [quota_eq htotal hbase, floor_divide (by decide) hpos (product_lt htotal hbase)]

theorem fraction_eq (htotal : total < 10 ^ 28) (hbase : base < 10 ^ 28) (hpos : 0 < totalBase) :
    fraction total totalBase base =
      (divide 60 (total * base) totalBase).subNat (total * base / totalBase) := by
  rw [fraction, floor_quota htotal hbase hpos, quota_eq htotal hbase]

theorem product_lt_pow (htotal : total < 10 ^ 28) (hbase : base < 10 ^ 28) :
    total * base < 10 ^ (60 - 1) :=
  (product_lt htotal hbase).trans (by norm_num)

end Quotas

section Shares
variable {total : Nat} {bases : List (Nat × Nat)} {tieKey : Nat → Nat}

theorem base_lt (hsum : (bases.map Prod.snd).sum < 10 ^ 28) : ∀ b ∈ bases, b.2 < 10 ^ 28 :=
  fun _ hb => lt_of_le_of_lt (List.single_le_sum (by simp) _ (List.mem_map_of_mem hb)) hsum

/-- The exact whole cents of every member. -/
def floorShares (total : Nat) (bases : List (Nat × Nat)) : List (Nat × Nat) :=
  bases.map (fun b => (b.1, total * b.2 / (bases.map Prod.snd).sum))

/-- The cents that the floors leave. -/
def residualCents (total : Nat) (bases : List (Nat × Nat)) : Nat :=
  total - ((floorShares total bases).map Prod.snd).sum

@[simp] theorem keys_floorShares (total : Nat) (bases : List (Nat × Nat)) :
    (floorShares total bases).map Prod.fst = bases.map Prod.fst := by
  rw [floorShares, List.map_map]
  rfl

private theorem sum_floorShares (total : Nat) (bases : List (Nat × Nat)) :
    ((floorShares total bases).map Prod.snd) =
      (bases.map Prod.snd).map (fun w => total * w / (bases.map Prod.snd).sum) := by
  rw [floorShares, List.map_map, List.map_map]
  rfl

theorem sum_floorShares_add (hpos : 0 < (bases.map Prod.snd).sum) :
    ((floorShares total bases).map Prod.snd).sum + residualCents total bases = total := by
  have hle := LargestRemainder.sum_floor_le total (bases.map Prod.snd) hpos
  rw [← sum_floorShares] at hle
  rw [residualCents]
  omega

theorem residualCents_le (hpos : 0 < (bases.map Prod.snd).sum) :
    residualCents total bases ≤ bases.length := by
  have hlength := LargestRemainder.total_le_sum_floor_add_length total (bases.map Prod.snd) hpos
  rw [← sum_floorShares, List.length_map] at hlength
  rw [residualCents]
  omega

/-- The split is the exact floors and one more cent for the first members in order. -/
theorem allocationCents_eq (htotal : total < 10 ^ 28) (hsum : (bases.map Prod.snd).sum < 10 ^ 28)
    (hpos : 0 < (bases.map Prod.snd).sum) :
    allocationCents total bases tieKey = .ok (LargestRemainder.bump
      ((residualOrder total (bases.map Prod.snd).sum bases tieKey).take (residualCents total bases))
      (floorShares total bases)) := by
  have hbases : bases.map (fun b => roundNat 28 b.2) = bases.map Prod.snd :=
    List.map_congr_left fun b hb => roundNat_of_lt (by decide) (base_lt hsum b hb)
  have hfloors : bases.map (fun b => (b.1, (quota total (bases.map Prod.snd).sum b.2).floor)) =
      floorShares total bases :=
    List.map_congr_left fun b hb => by rw [floor_quota htotal (base_lt hsum b hb) hpos]
  have hadd := @sum_floorShares_add total bases hpos
  have hresidual : ((total : Int) - ((floorShares total bases).map Prod.snd).sum).toNat =
      residualCents total bases := by omega
  unfold allocationCents
  dsimp only
  rw [roundNat_of_lt (by decide) htotal, hbases, if_neg (by omega), if_neg (by omega), hfloors,
    hresidual]

theorem sum_bump_floorShares (hkeys : (bases.map Prod.fst).Nodup)
    (hpos : 0 < (bases.map Prod.snd).sum) {order : List Nat} (hperm : order.Perm (bases.map Prod.fst)) :
    ((LargestRemainder.bump (order.take (residualCents total bases))
      (floorShares total bases)).map Prod.snd).sum = total := by
  have hle := @residualCents_le total bases hpos
  rw [LargestRemainder.sum_bump _ _ ((hperm.nodup_iff.mpr hkeys).sublist (List.take_sublist ..))
    (by rwa [keys_floorShares]) fun k hk => by
      rw [keys_floorShares]
      exact hperm.subset (List.mem_of_mem_take hk), List.length_take, hperm.length_eq,
    List.length_map, min_eq_left hle, sum_floorShares_add hpos]

end Shares

end Caixinha.Effects.Allocation
