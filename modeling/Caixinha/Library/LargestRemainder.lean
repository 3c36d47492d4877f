import Mathlib.Algebra.BigOperators.Group.List.Basic
import Mathlib.Tactic.Ring
import Mathlib.Tactic.Linarith

/-! Splitting a total by weights: floors of the exact quotas and one extra unit for some keys. -/
namespace Caixinha.Library.LargestRemainder

variable {κ : Type} [DecidableEq κ]

/-- One more unit for every chosen key. -/
def bump (chosen : List κ) (shares : List (κ × Nat)) : List (κ × Nat) :=
  shares.map (fun s => if s.1 ∈ chosen then (s.1, s.2 + 1) else s)

@[simp] theorem keys_bump (chosen : List κ) (shares : List (κ × Nat)) :
    (bump chosen shares).map Prod.fst = shares.map Prod.fst := by
  rw [bump, List.map_map]
  apply List.map_congr_left
  intro s _
  by_cases h : s.1 ∈ chosen <;> simp [h]

private theorem sum_bump_cons (k : κ) (chosen : List κ) (shares : List (κ × Nat))
    (hk : k ∉ chosen) (hkeys : (shares.map Prod.fst).Nodup) (hmem : k ∈ shares.map Prod.fst) :
    ((bump (k :: chosen) shares).map Prod.snd).sum =
      ((bump chosen shares).map Prod.snd).sum + 1 := by
  induction shares with
  | nil => simp at hmem
  | cons s shares ih =>
    rw [List.map_cons, List.nodup_cons] at hkeys
    simp only [bump, List.map_cons, List.sum_cons] at ih ⊢
    by_cases hs : s.1 = k
    · have hrest : (shares.map (fun s => if s.1 ∈ k :: chosen then (s.1, s.2 + 1) else s)) =
          shares.map (fun s => if s.1 ∈ chosen then (s.1, s.2 + 1) else s) := by
        apply List.map_congr_left
        intro t ht
        have hne : t.1 ≠ k := fun he => hkeys.1 (hs ▸ he ▸ List.mem_map_of_mem ht)
        simp [hne]
      have hnot : s.1 ∉ chosen := hs ▸ hk
      rw [hrest, if_pos (by simp [hs]), if_neg hnot]
      omega
    · have hin : k ∈ shares.map Prod.fst := by
        rw [List.map_cons, List.mem_cons] at hmem
        exact hmem.resolve_left (Ne.symm hs)
      have := ih hkeys.2 hin
      simp only [List.mem_cons, hs, false_or] at this ⊢
      omega

/-- Bumping distinct present keys adds one unit for each of them. -/
theorem sum_bump (chosen : List κ) (shares : List (κ × Nat)) (hchosen : chosen.Nodup)
    (hkeys : (shares.map Prod.fst).Nodup) (hmem : ∀ k ∈ chosen, k ∈ shares.map Prod.fst) :
    ((bump chosen shares).map Prod.snd).sum = (shares.map Prod.snd).sum + chosen.length := by
  induction chosen with
  | nil => simp [bump]
  | cons k chosen ih =>
    rw [List.nodup_cons] at hchosen
    rw [sum_bump_cons k chosen shares hchosen.1 hkeys (hmem k (List.mem_cons_self ..)),
      ih hchosen.2 fun k hk => hmem k (List.mem_cons_of_mem _ hk), List.length_cons]
    omega

theorem sum_quotas (total weight : Nat) (weights : List Nat) :
    weight * (weights.map (fun w => total * w / weight)).sum +
      (weights.map (fun w => total * w % weight)).sum = total * weights.sum := by
  induction weights with
  | nil => simp
  | cons w weights ih =>
    have := Nat.div_add_mod (total * w) weight
    simp only [List.map_cons, List.sum_cons, Nat.mul_add]
    omega

theorem sum_remainders_le (total : Nat) {weight : Nat} (hweight : 0 < weight)
    (weights : List Nat) :
    (weights.map (fun w => total * w % weight)).sum ≤ weights.length * (weight - 1) := by
  induction weights with
  | nil => simp
  | cons w weights ih =>
    have := Nat.mod_lt (total * w) hweight
    rw [List.map_cons, List.sum_cons, List.length_cons, Nat.add_one_mul]
    omega

/-- The floors never exceed the total. -/
theorem sum_floor_le (total : Nat) (weights : List Nat) (hweight : 0 < weights.sum) :
    (weights.map (fun w => total * w / weights.sum)).sum ≤ total := by
  have hquotas := sum_quotas total weights.sum weights
  refine Nat.le_of_mul_le_mul_left ?_ hweight
  rw [Nat.mul_comm _ total]
  omega

/-- The floors leave at most one unit for each weight. -/
theorem total_le_sum_floor_add_length (total : Nat) (weights : List Nat)
    (hweight : 0 < weights.sum) :
    total ≤ (weights.map (fun w => total * w / weights.sum)).sum + weights.length := by
  have hquotas := sum_quotas total weights.sum weights
  have hremainders := sum_remainders_le total hweight weights
  refine Nat.le_of_mul_le_mul_left ?_ hweight
  have hle : weights.length * (weights.sum - 1) ≤ weights.sum * weights.length := by
    rw [Nat.mul_comm]
    exact Nat.mul_le_mul_right _ (Nat.sub_le ..)
  rw [Nat.mul_add, Nat.mul_comm _ total]
  omega

/-- The share of a key, zero for a key without one. -/
def shareOf (shares : List (κ × Nat)) (k : κ) : Nat :=
  ((shares.find? (fun s => s.1 = k)).map Prod.snd).getD 0

theorem shareOf_eq_zero {shares : List (κ × Nat)} {k : κ} (h : k ∉ shares.map Prod.fst) :
    shareOf shares k = 0 := by
  have hnone : shares.find? (fun s => s.1 = k) = none := by
    rw [List.find?_eq_none]
    intro s hs
    simp only [decide_eq_true_eq]
    rintro rfl
    exact h (List.mem_map_of_mem hs)
  simp [shareOf, hnone]

theorem shareOf_of_mem {shares : List (κ × Nat)} (hkeys : (shares.map Prod.fst).Nodup)
    {s : κ × Nat} (hs : s ∈ shares) : shareOf shares s.1 = s.2 := by
  induction shares with
  | nil => cases hs
  | cons t shares ih =>
    rw [List.map_cons, List.nodup_cons] at hkeys
    rcases List.mem_cons.mp hs with rfl | hs
    · simp [shareOf]
    · have hne : t.1 ≠ s.1 := fun he => hkeys.1 (he ▸ List.mem_map_of_mem hs)
      rw [← ih hkeys.2 hs, shareOf, shareOf, List.find?_cons_of_neg (by simpa using hne)]

theorem shareOf_bump {chosen : List κ} {shares : List (κ × Nat)}
    (hkeys : (shares.map Prod.fst).Nodup) {s : κ × Nat} (hs : s ∈ shares) :
    shareOf (bump chosen shares) s.1 = if s.1 ∈ chosen then s.2 + 1 else s.2 := by
  have hmem : (if s.1 ∈ chosen then (s.1, s.2 + 1) else s) ∈ bump chosen shares :=
    List.mem_map.mpr ⟨s, hs, rfl⟩
  have h := shareOf_of_mem (by rwa [keys_bump]) hmem
  by_cases hin : s.1 ∈ chosen
  · rw [if_pos hin] at h ⊢
    exact h
  · rw [if_neg hin] at h ⊢
    exact h

/-- Handing out the shares along any duplicate-free list of keys that has them in order
hands out all of them. -/
theorem sum_shareOf {shares : List (κ × Nat)} {keys : List κ}
    (hkeys : (shares.map Prod.fst).Sublist keys) (hnodup : keys.Nodup) :
    (keys.map (shareOf shares)).sum = (shares.map Prod.snd).sum := by
  induction keys generalizing shares with
  | nil =>
    have : shares = [] := by simpa using List.sublist_nil.mp hkeys
    subst this
    rfl
  | cons k keys ih =>
    rw [List.nodup_cons] at hnodup
    rw [List.map_cons, List.sum_cons]
    cases shares with
    | nil =>
      rw [@ih [] (List.nil_sublist _) hnodup.2]
      rfl
    | cons s shares =>
      rw [List.map_cons] at hkeys
      rcases List.cons_sublist_cons'.mp hkeys with hskip | ⟨rfl, hrest⟩
      · have hnot : k ∉ (s :: shares).map Prod.fst := fun hk => hnodup.1 (hskip.subset hk)
        rw [shareOf_eq_zero hnot, @ih (s :: shares) hskip hnodup.2, Nat.zero_add]
      · have htail : keys.map (shareOf (s :: shares)) = keys.map (shareOf shares) := by
          apply List.map_congr_left
          intro k hk
          have hne : s.1 ≠ k := fun he => hnodup.1 (he ▸ hk)
          simp [shareOf, hne]
        rw [htail, ih hrest hnodup.2]
        simp [shareOf]

end Caixinha.Library.LargestRemainder
