import Caixinha.Effects.Allocation

/-! The split of the distributable result is the largest-remainder method exactly when no tie
that decides a cent is broken by the digits that the rounded quotas keep. -/
namespace Caixinha.Properties.ClosingTies

open Caixinha.Model Caixinha.Model.CycleClosing Caixinha.Effects.Allocation Caixinha.Library Decimal
  Fallible LargestRemainder

section Method
variable (total : Nat) (bases : List (Nat × Nat)) (tieKey : Nat → Nat)

/-- The whole cents of the exact quota of a base. -/
def wholeCents (base : Nat) : Nat := total * base / (bases.map Prod.snd).sum

/-- What the exact quota has over its whole cents, in parts of the total base. -/
def remainder (base : Nat) : Nat := total * base % (bases.map Prod.snd).sum

/-- Ascending by participation and then by member. -/
def tieBefore (a b : Nat × Nat) : Prop := tieKey a.1 < tieKey b.1 ∨ tieKey a.1 = tieKey b.1 ∧ a.1 ≤ b.1

/-- The order of the method: larger remainders first, ties by participation and member. -/
def exactBefore (a b : Nat × Nat) : Prop :=
  remainder total bases b.2 < remainder total bases a.2 ∨
    remainder total bases a.2 = remainder total bases b.2 ∧ tieBefore tieKey a b

instance : DecidableRel (tieBefore tieKey) := fun _ _ => inferInstanceAs (Decidable (_ ∨ _))

instance : DecidableRel (exactBefore total bases tieKey) :=
  fun _ _ => inferInstanceAs (Decidable (_ ∨ _))

/-- The members to whom the method gives one more cent. -/
def exactChosen : List (Nat × Nat) :=
  (bases.insertionSort (exactBefore total bases tieKey)).take (residualCents total bases)

/-- Every property of the largest-remainder method over the rational quotas. -/
structure LargestRemainderSplit (shares : List (Nat × Nat)) : Prop where
  keys : shares.map Prod.fst = bases.map Prod.fst
  sum_shares : (shares.map Prod.snd).sum = total
  whole_or_next : ∀ b ∈ bases, shareOf shares b.1 = wholeCents total bases b.2 ∨
    shareOf shares b.1 = wholeCents total bases b.2 + 1
  zero_base : ∀ b ∈ bases, b.2 = 0 → shareOf shares b.1 = 0
  larger_base : ∀ a ∈ bases, ∀ b ∈ bases, a.2 < b.2 → shareOf shares a.1 ≤ shareOf shares b.1
  largest : ∀ a ∈ bases, ∀ b ∈ bases, shareOf shares a.1 = wholeCents total bases a.2 + 1 →
    shareOf shares b.1 = wholeCents total bases b.2 → remainder total bases b.2 ≤ remainder total bases a.2
  ties : ∀ a ∈ bases, ∀ b ∈ bases, shareOf shares a.1 = wholeCents total bases a.2 + 1 →
    shareOf shares b.1 = wholeCents total bases b.2 →
    remainder total bases a.2 = remainder total bases b.2 → tieBefore tieKey a b

/-- A member whom a tie gives the last cents keeps as much of the common remainder, rounded to
the decimals that 60 digits leave after the whole cents, as a member whom it leaves without. -/
def TiesKept : Prop :=
  ∀ a ∈ bases, ∀ b ∈ bases, remainder total bases a.2 = remainder total bases b.2 →
    a ∈ exactChosen total bases tieKey → b ∉ exactChosen total bases tieKey →
    ∀ p q, KeptPlaces 60 (total * a.2) (bases.map Prod.snd).sum p →
      KeptPlaces 60 (total * b.2) (bases.map Prod.snd).sum q →
      halfEven (remainder total bases b.2 * 10 ^ q) (bases.map Prod.snd).sum * 10 ^ p ≤
        halfEven (remainder total bases a.2 * 10 ^ p) (bases.map Prod.snd).sum * 10 ^ q

end Method

section Chosen
variable {total : Nat} {bases : List (Nat × Nat)} {tieKey : Nat → Nat}

/-- The members to whom the code gives one more cent. -/
private def chosen (total : Nat) (bases : List (Nat × Nat)) (tieKey : Nat → Nat) : List (Nat × Nat) :=
  (bases.insertionSort (residualBefore total (bases.map Prod.snd).sum tieKey)).take
    (residualCents total bases)

private def split (total : Nat) (bases : List (Nat × Nat)) (tieKey : Nat → Nat) : List (Nat × Nat) :=
  bump ((chosen total bases tieKey).map Prod.fst) (floorShares total bases)

private theorem mem_bases_of_chosen {b : Nat × Nat} (hb : b ∈ chosen total bases tieKey) : b ∈ bases :=
  (List.mem_insertionSort _).mp (List.mem_of_mem_take hb)

private theorem eq_of_key_eq (hkeys : (bases.map Prod.fst).Nodup) {a b : Nat × Nat} (ha : a ∈ bases)
    (hb : b ∈ bases) (h : a.1 = b.1) : a = b :=
  List.inj_on_of_nodup_map hkeys ha hb h

private theorem allocationCents_eq_split (htotal : total < 10 ^ 28)
    (hsum : (bases.map Prod.snd).sum < 10 ^ 28) (hpos : 0 < (bases.map Prod.snd).sum) :
    allocationCents total bases tieKey = .ok (split total bases tieKey) := by
  rw [allocationCents_eq htotal hsum hpos, residualOrder_eq, ← List.map_take]
  rfl

private theorem shareOf_split (hkeys : (bases.map Prod.fst).Nodup) {b : Nat × Nat} (hb : b ∈ bases) :
    shareOf (split total bases tieKey) b.1 =
      if b ∈ chosen total bases tieKey then wholeCents total bases b.2 + 1
      else wholeCents total bases b.2 := by
  have hmem : (b.1, wholeCents total bases b.2) ∈ floorShares total bases :=
    List.mem_map.mpr ⟨b, hb, rfl⟩
  have hiff : b.1 ∈ (chosen total bases tieKey).map Prod.fst ↔ b ∈ chosen total bases tieKey := by
    constructor
    · intro h
      obtain ⟨a, ha, hkey⟩ := List.mem_map.mp h
      exact eq_of_key_eq hkeys (mem_bases_of_chosen ha) hb hkey ▸ ha
    · exact List.mem_map_of_mem
  have hshare := @shareOf_bump _ _ ((chosen total bases tieKey).map Prod.fst) _
    (by rwa [keys_floorShares]) _ hmem
  dsimp only at hshare
  rw [split, hshare]
  simp only [hiff]

private theorem extra_iff (hkeys : (bases.map Prod.fst).Nodup) {b : Nat × Nat} (hb : b ∈ bases) :
    (shareOf (split total bases tieKey) b.1 = wholeCents total bases b.2 + 1 ↔
      b ∈ chosen total bases tieKey) ∧
    (shareOf (split total bases tieKey) b.1 = wholeCents total bases b.2 ↔
      b ∉ chosen total bases tieKey) := by
  rw [shareOf_split hkeys hb]
  split <;> simp [*]

private theorem residualBefore_of_chosen {a b : Nat × Nat} (ha : a ∈ chosen total bases tieKey)
    (hb : b ∈ bases) (hnot : b ∉ chosen total bases tieKey) :
    residualBefore total (bases.map Prod.snd).sum tieKey a b :=
  Sorting.le_of_mem_take (residualBefore_total _ _ _) (residualBefore_trans _ _ _) ha hb hnot

private theorem fraction_le_of_before {totalBase : Nat} {a b : Nat × Nat}
    (h : residualBefore total totalBase tieKey a b) :
    (fraction total totalBase b.2).le (fraction total totalBase a.2) := by
  rcases h with h | h
  · exact (Number.le_total _ _).resolve_left h
  · exact h.2.1

private theorem remainder_le_of_fraction (htotal : total < 10 ^ 28)
    (hsum : (bases.map Prod.snd).sum < 10 ^ 28) (hpos : 0 < (bases.map Prod.snd).sum)
    {a b : Nat × Nat} (ha : a ∈ bases) (hb : b ∈ bases)
    (h : (fraction total (bases.map Prod.snd).sum b.2).le
      (fraction total (bases.map Prod.snd).sum a.2)) :
    remainder total bases b.2 ≤ remainder total bases a.2 := by
  rw [fraction_eq htotal (base_lt hsum a ha) hpos, fraction_eq htotal (base_lt hsum b hb) hpos] at h
  by_contra hlt
  exact not_fraction_le (by decide) hpos (product_lt_pow htotal (base_lt hsum a ha))
    (product_lt_pow htotal (base_lt hsum b hb)) (not_le.mp hlt) h

private theorem exactBefore_total (a b : Nat × Nat) :
    exactBefore total bases tieKey a b ∨ exactBefore total bases tieKey b a := by
  unfold exactBefore tieBefore
  omega

private theorem exactBefore_trans (a b c : Nat × Nat) (hab : exactBefore total bases tieKey a b)
    (hbc : exactBefore total bases tieKey b c) : exactBefore total bases tieKey a c := by
  unfold exactBefore tieBefore at hab hbc ⊢
  omega

private theorem exactBefore_of_chosen {a b : Nat × Nat} (ha : a ∈ exactChosen total bases tieKey)
    (hb : b ∈ bases) (hnot : b ∉ exactChosen total bases tieKey) :
    exactBefore total bases tieKey a b :=
  Sorting.le_of_mem_take exactBefore_total exactBefore_trans ha hb hnot

private theorem chosen_length_nodup (hkeys : (bases.map Prod.fst).Nodup) :
    (chosen total bases tieKey).length = (exactChosen total bases tieKey).length ∧
      (chosen total bases tieKey).Nodup ∧ (exactChosen total bases tieKey).Nodup := by
  have hnodup := List.Nodup.of_map _ hkeys
  refine ⟨?_, ?_, ?_⟩
  · rw [chosen, exactChosen, List.length_take, List.length_take, List.length_insertionSort,
      List.length_insertionSort]
  · exact ((List.perm_insertionSort _ bases).nodup_iff.mpr hnodup).sublist (List.take_sublist ..)
  · exact ((List.perm_insertionSort _ bases).nodup_iff.mpr hnodup).sublist (List.take_sublist ..)

private theorem tieBefore_antisymm (hkeys : (bases.map Prod.fst).Nodup) {a b : Nat × Nat}
    (ha : a ∈ bases) (hb : b ∈ bases) (hab : tieBefore tieKey a b) (hba : tieBefore tieKey b a) :
    a = b := by
  refine eq_of_key_eq hkeys ha hb ?_
  unfold tieBefore at hab hba
  omega

end Chosen

section Properties
variable {total : Nat} {bases : List (Nat × Nat)} {tieKey : Nat → Nat}

private theorem remainder_le_of_chosen (htotal : total < 10 ^ 28)
    (hpos : 0 < (bases.map Prod.snd).sum) (hsum : (bases.map Prod.snd).sum < 10 ^ 28)
    {a b : Nat × Nat} (ha : a ∈ chosen total bases tieKey)
    (hb : b ∈ bases) (hnot : b ∉ chosen total bases tieKey) :
    remainder total bases b.2 ≤ remainder total bases a.2 :=
  remainder_le_of_fraction htotal hsum hpos (mem_bases_of_chosen ha) hb
    (fraction_le_of_before (residualBefore_of_chosen ha hb hnot))

/-- The remainders add up to the cents that the floors leave. -/
private theorem sum_remainders (hpos : 0 < (bases.map Prod.snd).sum) :
    (bases.map (fun b => remainder total bases b.2)).sum =
      (bases.map Prod.snd).sum * residualCents total bases := by
  have hquotas := sum_quotas total (bases.map Prod.snd).sum (bases.map Prod.snd)
  have hadd := @sum_floorShares_add total bases hpos
  rw [List.map_map, List.map_map] at hquotas
  have hfloors : (floorShares total bases).map Prod.snd =
      bases.map ((fun w => total * w / (bases.map Prod.snd).sum) ∘ Prod.snd) := by
    rw [floorShares, List.map_map]
    rfl
  rw [hfloors] at hadd
  have hscaled := congrArg ((bases.map Prod.snd).sum * ·) hadd
  rw [Nat.mul_add, Nat.mul_comm _ total] at hscaled
  have hsame : bases.map ((fun w => total * w % (bases.map Prod.snd).sum) ∘ Prod.snd) =
      bases.map (fun b => remainder total bases b.2) := rfl
  rw [hsame] at hquotas
  omega

/-- A cent never goes to a member without a remainder. -/
private theorem remainder_pos_of_chosen (htotal : total < 10 ^ 28)
    (hkeys : (bases.map Prod.fst).Nodup) (hpos : 0 < (bases.map Prod.snd).sum)
    (hsum : (bases.map Prod.snd).sum < 10 ^ 28) {a : Nat × Nat} (ha : a ∈ chosen total bases tieKey) :
    0 < remainder total bases a.2 := by
  by_contra hzero
  set W := (bases.map Prod.snd).sum with hW
  set sorted := bases.insertionSort (residualBefore total W tieKey) with hsorted
  set rest := fun b : Nat × Nat => remainder total bases b.2 with hrest
  have hperm : (chosen total bases tieKey ++ sorted.drop (residualCents total bases)).Perm bases := by
    rw [chosen, ← hW, ← hsorted, List.take_append_drop]
    exact List.perm_insertionSort _ bases
  have hdropped : ∀ b ∈ sorted.drop (residualCents total bases), rest b = 0 := by
    intro b hb
    have hmem : b ∈ bases := hperm.subset (List.mem_append_right _ hb)
    have hnodup := hperm.nodup_iff.mpr (List.Nodup.of_map _ hkeys)
    have hnot : b ∉ chosen total bases tieKey := fun h =>
      (List.nodup_append.mp hnodup).2.2 b h b hb rfl
    have hle := remainder_le_of_chosen htotal hpos hsum ha hmem hnot
    exact Nat.le_zero.mp (hle.trans (not_lt.mp hzero))
  have hchosen : ((chosen total bases tieKey).map rest).sum < W * residualCents total bases := by
    have hlength : (chosen total bases tieKey).length ≤ residualCents total bases :=
      List.length_take_le ..
    have hmod : ((chosen total bases tieKey).map rest).sum ≤
        (chosen total bases tieKey).length * (W - 1) := by
      have hle := sum_remainders_le total (hW ▸ hpos) ((chosen total bases tieKey).map Prod.snd)
      rw [List.map_map, List.length_map] at hle
      exact hle
    have hcount : 0 < (chosen total bases tieKey).length := List.length_pos_of_mem ha
    calc ((chosen total bases tieKey).map rest).sum
        ≤ (chosen total bases tieKey).length * (W - 1) := hmod
      _ < (chosen total bases tieKey).length * W := Nat.mul_lt_mul_of_pos_left (by omega) hcount
      _ ≤ residualCents total bases * W := Nat.mul_le_mul_right _ hlength
      _ = W * residualCents total bases := Nat.mul_comm _ _
  have hall := @sum_remainders total bases hpos
  rw [← hW] at hall
  change (bases.map rest).sum = _ at hall
  have hzeroes : ((sorted.drop (residualCents total bases)).map rest).sum = 0 :=
    List.sum_eq_zero fun x hx => by
      obtain ⟨b, hb, rfl⟩ := List.mem_map.mp hx
      exact hdropped b hb
  have hsplit := (hperm.map rest).sum_eq
  rw [List.map_append, List.sum_append, hzeroes, Nat.add_zero] at hsplit
  omega

private theorem larger_base_share (htotal : total < 10 ^ 28)
    (hkeys : (bases.map Prod.fst).Nodup) (hpos : 0 < (bases.map Prod.snd).sum)
    (hsum : (bases.map Prod.snd).sum < 10 ^ 28) {a b : Nat × Nat} (ha : a ∈ bases) (hb : b ∈ bases)
    (hlt : a.2 < b.2) : shareOf (split total bases tieKey) a.1 ≤ shareOf (split total bases tieKey) b.1 := by
  have hproducts : total * a.2 ≤ total * b.2 := Nat.mul_le_mul_left _ hlt.le
  have hwhole : wholeCents total bases a.2 ≤ wholeCents total bases b.2 :=
    Nat.div_le_div_right hproducts
  rw [shareOf_split hkeys ha, shareOf_split hkeys hb]
  by_cases hin : a ∈ chosen total bases tieKey
  · by_cases hout : b ∈ chosen total bases tieKey
    · rw [if_pos hin, if_pos hout]
      omega
    · rw [if_pos hin, if_neg hout]
      have hremainder := remainder_le_of_chosen htotal hpos hsum hin hb hout
      have hrest := remainder_pos_of_chosen htotal hkeys hpos hsum hin
      have hda : (bases.map Prod.snd).sum * wholeCents total bases a.2 +
          remainder total bases a.2 = total * a.2 := Nat.div_add_mod _ _
      have hdb : (bases.map Prod.snd).sum * wholeCents total bases b.2 +
          remainder total bases b.2 = total * b.2 := Nat.div_add_mod _ _
      by_contra hge
      have heq : wholeCents total bases b.2 = wholeCents total bases a.2 := by omega
      rw [heq] at hdb
      have hsame : total * a.2 = total * b.2 := by omega
      have hzero : total = 0 := by
        by_contra hne
        have := Nat.eq_of_mul_eq_mul_left (Nat.pos_of_ne_zero hne) hsame
        omega
      subst hzero
      simp [remainder] at hrest
  · rw [if_neg hin]
    split <;> omega

/-- Of two members whom the two orders rank differently the remainders are equal, and the one
that the tie ranks second is taken for its rounded remainder. -/
private theorem tie_of_exchange (htotal : total < 10 ^ 28) (hpos : 0 < (bases.map Prod.snd).sum)
    (hsum : (bases.map Prod.snd).sum < 10 ^ 28) {x y : Nat × Nat}
    (hy : y ∈ chosen total bases tieKey) (hx : x ∉ chosen total bases tieKey)
    (hxe : x ∈ exactChosen total bases tieKey) (hye : y ∉ exactChosen total bases tieKey) :
    remainder total bases x.2 = remainder total bases y.2 ∧ tieBefore tieKey x y ∧
      residualBefore total (bases.map Prod.snd).sum tieKey y x := by
  have hxb : x ∈ bases := (List.mem_insertionSort _).mp (List.mem_of_mem_take hxe)
  have hyb := mem_bases_of_chosen hy
  have hle := remainder_le_of_chosen htotal hpos hsum hy hxb hx
  have hbefore := residualBefore_of_chosen hy hxb hx
  rcases exactBefore_of_chosen hxe hyb hye with hlt | ⟨heq, htie⟩
  · omega
  · exact ⟨heq, htie, hbefore⟩

private theorem tiesKept_fraction_le (htotal : total < 10 ^ 28) (hpos : 0 < (bases.map Prod.snd).sum)
    (hsum : (bases.map Prod.snd).sum < 10 ^ 28) (hties : TiesKept total bases tieKey) {x y : Nat × Nat}
    (hx : x ∈ bases) (hy : y ∈ bases) (heq : remainder total bases x.2 = remainder total bases y.2)
    (hxe : x ∈ exactChosen total bases tieKey) (hye : y ∉ exactChosen total bases tieKey) :
    (fraction total (bases.map Prod.snd).sum y.2).le
      (fraction total (bases.map Prod.snd).sum x.2) := by
  have hxlt := product_lt_pow htotal (base_lt hsum x hx)
  have hylt := product_lt_pow htotal (base_lt hsum y hy)
  rw [fraction_eq htotal (base_lt hsum y hy) hpos, fraction_eq htotal (base_lt hsum x hx) hpos]
  by_cases hzero : remainder total bases y.2 = 0
  · exact fraction_le_of_dvd (by decide) hpos hylt hxlt hzero
  · have hne : ∀ b : Nat × Nat, remainder total bases b.2 ≠ 0 → total * b.2 ≠ 0 := by
      intro b hb h
      exact hb (by rw [remainder, h, Nat.zero_mod])
    obtain ⟨p, hp⟩ := exists_keptPlaces (by decide) hpos hxlt (hne x (heq ▸ hzero))
    obtain ⟨q, hq⟩ := exists_keptPlaces (by decide) hpos hylt (hne y hzero)
    rw [fraction_le_iff (by decide) hpos hylt hxlt hq hp]
    exact hties x hx y hy heq hxe hye p q hp hq

private theorem split_of_tiesKept (htotal : total < 10 ^ 28) (hkeys : (bases.map Prod.fst).Nodup)
    (hpos : 0 < (bases.map Prod.snd).sum) (hsum : (bases.map Prod.snd).sum < 10 ^ 28)
    (hties : TiesKept total bases tieKey) :
    LargestRemainderSplit total bases tieKey (split total bases tieKey) where
  keys := by rw [split, keys_bump, keys_floorShares]
  sum_shares := by
    rw [split, chosen, List.map_take, ← residualOrder_eq]
    exact sum_bump_floorShares hkeys hpos (residualOrder_perm ..)
  whole_or_next b hb := by
    rw [shareOf_split hkeys hb]
    split <;> simp
  zero_base b hb hzero := by
    have hnone : remainder total bases b.2 = 0 := by rw [remainder, hzero, Nat.mul_zero, Nat.zero_mod]
    have hnot : b ∉ chosen total bases tieKey := fun h => by
      have := remainder_pos_of_chosen htotal hkeys hpos hsum h
      omega
    rw [shareOf_split hkeys hb, if_neg hnot, wholeCents, hzero, Nat.mul_zero, Nat.zero_div]
  larger_base a ha b hb hlt := larger_base_share htotal hkeys hpos hsum ha hb hlt
  largest a ha b hb hextra hplain :=
    remainder_le_of_chosen htotal hpos hsum ((extra_iff hkeys ha).1.mp hextra) hb
      ((extra_iff hkeys hb).2.mp hplain)
  ties a ha b hb hextra hplain heq := by
    have hac := (extra_iff hkeys ha).1.mp hextra
    have hbc := (extra_iff hkeys hb).2.mp hplain
    obtain ⟨hlength, hnodup, hnodupExact⟩ := @chosen_length_nodup total bases tieKey hkeys
    by_contra htie
    have hba : tieBefore tieKey b a := by
      unfold tieBefore at htie ⊢
      omega
    -- the two selections differ, so somebody was taken who should not have been
    obtain ⟨y, hy, hye⟩ : ∃ y ∈ chosen total bases tieKey, y ∉ exactChosen total bases tieKey := by
      by_contra hall
      have hsame : ∀ y ∈ chosen total bases tieKey, y ∈ exactChosen total bases tieKey := fun y hy => by
        by_contra h
        exact hall ⟨y, hy, h⟩
      have hbe : b ∉ exactChosen total bases tieKey := fun h => by
        obtain ⟨c, hc, hce⟩ := Sorting.exists_exchange hnodup hlength.symm h hbc
        exact hce (hsame c hc)
      rcases exactBefore_of_chosen (hsame a hac) hb hbe with h | h
      · omega
      · exact htie h.2
    obtain ⟨x, hxe, hx⟩ := Sorting.exists_exchange hnodupExact hlength hy hye
    have hxb : x ∈ bases := (List.mem_insertionSort _).mp (List.mem_of_mem_take hxe)
    have hyb := mem_bases_of_chosen hy
    obtain ⟨hrest, hxy, hbefore⟩ := tie_of_exchange htotal hpos hsum hy hx hxe hye
    have hle := tiesKept_fraction_le htotal hpos hsum hties hxb hyb hrest hxe hye
    rcases hbefore with h | h
    · exact h hle
    · have := tieBefore_antisymm hkeys hxb hyb hxy h.2.2
      exact hx (this ▸ hy)

private theorem tiesKept_of_split (htotal : total < 10 ^ 28) (hkeys : (bases.map Prod.fst).Nodup)
    (hpos : 0 < (bases.map Prod.snd).sum) (hsum : (bases.map Prod.snd).sum < 10 ^ 28)
    (h : LargestRemainderSplit total bases tieKey (split total bases tieKey)) :
    TiesKept total bases tieKey := by
  intro a ha b hb heq hae hbe p q hp hq
  obtain ⟨hlength, hnodup, hnodupExact⟩ := @chosen_length_nodup total bases tieKey hkeys
  have hsame : ∀ y ∈ chosen total bases tieKey, y ∈ exactChosen total bases tieKey := by
    intro y hy
    by_contra hye
    obtain ⟨x, hxe, hx⟩ := Sorting.exists_exchange hnodupExact hlength hy hye
    have hxb : x ∈ bases := (List.mem_insertionSort _).mp (List.mem_of_mem_take hxe)
    have hyb := mem_bases_of_chosen hy
    obtain ⟨hrest, hxy, -⟩ := tie_of_exchange htotal hpos hsum hy hx hxe hye
    have hyx := h.ties y hyb x hxb ((extra_iff hkeys hyb).1.mpr hy) ((extra_iff hkeys hxb).2.mpr hx)
      hrest.symm
    exact hx (tieBefore_antisymm hkeys hxb hyb hxy hyx ▸ hy)
  have hac : a ∈ chosen total bases tieKey := by
    by_contra hac
    obtain ⟨c, hc, hce⟩ := Sorting.exists_exchange hnodup hlength.symm hae hac
    exact hce (hsame c hc)
  have hle := fraction_le_of_before (residualBefore_of_chosen hac hb fun hbc => hbe (hsame b hbc))
  rw [fraction_eq htotal (base_lt hsum b hb) hpos, fraction_eq htotal (base_lt hsum a ha) hpos,
    fraction_le_iff (by decide) hpos (product_lt_pow htotal (base_lt hsum b hb))
      (product_lt_pow htotal (base_lt hsum a ha)) hq hp] at hle
  exact hle

end Properties

/-- For every result and every family of bases within the precision of the stored amounts. -/
theorem largest_remainder_iff_tiesKept (total : Nat) (bases : List (Nat × Nat)) (tieKey : Nat → Nat)
    (htotal : total < 10 ^ 28) (hkeys : (bases.map Prod.fst).Nodup)
    (hpos : 0 < (bases.map Prod.snd).sum) (hsum : (bases.map Prod.snd).sum < 10 ^ 28) :
    (∃ shares, allocationCents total bases tieKey = .ok shares ∧
      LargestRemainderSplit total bases tieKey shares) ↔ TiesKept total bases tieKey := by
  rw [allocationCents_eq_split htotal hsum hpos]
  constructor
  · rintro ⟨shares, hshares, h⟩
    cases hshares
    exact tiesKept_of_split htotal hkeys hpos hsum h
  · exact fun hties => ⟨_, rfl, split_of_tiesKept htotal hkeys hpos hsum hties⟩

/-- Members of one base tie with the same digits. -/
private theorem tiesKept_of_equal {total base : Nat} {bases : List (Nat × Nat)} {tieKey : Nat → Nat}
    (h : ∀ b ∈ bases, b.2 = base) : TiesKept total bases tieKey := by
  intro a ha b hb _ _ _ p q hp hq
  rw [h a ha] at hp
  rw [h b hb] at hq
  obtain rfl := KeptPlaces.unique (by decide) hp hq
  rw [h a ha, h b hb]

/-- Three equal quotas of 3.333… leave one cent, and the tie gives it to the first member. -/
theorem sample_split_iff_tiesKept :
    allocationCents 1000 [(1, 500), (2, 500), (3, 500)] id = .ok [(1, 334), (2, 333), (3, 333)] ∧
      LargestRemainderSplit 1000 [(1, 500), (2, 500), (3, 500)] id [(1, 334), (2, 333), (3, 333)] := by
  have hrun : allocationCents 1000 [(1, 500), (2, 500), (3, 500)] id =
      .ok [(1, 334), (2, 333), (3, 333)] := by decide
  have hties := @tiesKept_of_equal 1000 500 [(1, 500), (2, 500), (3, 500)] id (by decide)
  obtain ⟨shares, hshares, hsplit⟩ := (largest_remainder_iff_tiesKept 1000 [(1, 500), (2, 500), (3, 500)] id
    (by decide) (by decide) (by decide) (by decide)).mpr hties
  rw [hrun, Except.ok.injEq] at hshares
  exact ⟨hrun, hshares.symm ▸ hsplit⟩

/-- Of 20.00, the quotas 13.333… and twice 3.333… leave equal remainders, and the extra cent
passes over the first member for the shorter whole part of the second. -/
theorem tie_broken_by_kept_digits :
    ¬ ∃ shares, allocationCents 2000 [(1, 60000), (2, 15000), (3, 15000)] id = .ok shares ∧
      LargestRemainderSplit 2000 [(1, 60000), (2, 15000), (3, 15000)] id shares := by
  rintro ⟨shares, hshares, h⟩
  have hrun : allocationCents 2000 [(1, 60000), (2, 15000), (3, 15000)] id =
      .ok [(1, 1333), (2, 334), (3, 333)] := by decide
  rw [hrun] at hshares
  cases hshares
  have htie := h.ties (2, 15000) (by simp) (1, 60000) (by simp) (by decide) (by decide) (by decide)
  exact absurd htie (by decide)

end Caixinha.Properties.ClosingTies
