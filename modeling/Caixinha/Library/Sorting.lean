import Mathlib.Data.List.Forall2
import Mathlib.Data.List.Sort
import Mathlib.Data.Multiset.AddSub
import Mathlib.Data.List.Perm.Subperm

/-! When sorting forgets the order of what it is given, also for rows that are only related. -/
namespace Caixinha.Library.Sorting

variable {α β : Type}

section Perm
variable {le : α → α → Prop} [DecidableRel le]

/-- The sorted selection depends on the selected elements alone where ties are equal. -/
theorem filter_insertionSort_eq_of_perm (htotal : ∀ a b, le a b ∨ le b a)
    (htrans : ∀ a b c, le a b → le b c → le a c) {xs ys : List α} (hperm : xs.Perm ys) (p : α → Bool)
    (hsame : ∀ a ∈ xs, ∀ b ∈ xs, p a → p b → le a b → le b a → a = b) :
    (xs.insertionSort le).filter p = (ys.insertionSort le).filter p := by
  have : Std.Total le := ⟨htotal⟩
  have : IsTrans α le := ⟨htrans⟩
  refine List.Perm.eq_of_pairwise (fun a b ha hb => ?_)
    ((List.pairwise_insertionSort le xs).filter p) ((List.pairwise_insertionSort le ys).filter p) ?_
  · rw [List.mem_filter, List.mem_insertionSort] at ha hb
    exact hsame a ha.1 b (hperm.mem_iff.mpr hb.1) ha.2 hb.2
  · refine List.Perm.filter p ?_
    exact (List.perm_insertionSort le xs).trans (hperm.trans (List.perm_insertionSort le ys).symm)

theorem insertionSort_eq_of_perm (htotal : ∀ a b, le a b ∨ le b a)
    (htrans : ∀ a b c, le a b → le b c → le a c) {xs ys : List α} (hperm : xs.Perm ys)
    (hsame : ∀ a ∈ xs, ∀ b ∈ xs, le a b → le b a → a = b) :
    xs.insertionSort le = ys.insertionSort le := by
  have h := filter_insertionSort_eq_of_perm htotal htrans hperm (fun _ => true)
    (fun a ha b hb _ _ => hsame a ha b hb)
  simpa using h

/-- A selection from a sorted list is sorted already. -/
theorem insertionSort_filter_insertionSort (htotal : ∀ a b, le a b ∨ le b a)
    (htrans : ∀ a b c, le a b → le b c → le a c) (xs : List α) (p : α → Bool) :
    ((xs.insertionSort le).filter p).insertionSort le = (xs.insertionSort le).filter p := by
  have : Std.Total le := ⟨htotal⟩
  have : IsTrans α le := ⟨htrans⟩
  exact ((List.pairwise_insertionSort le xs).filter p).insertionSort_eq

/-- Leaving out either of two members leaves the same labels exactly when theirs agree. -/
theorem map_erase_perm_iff [DecidableEq α] (f : α → β) {xs : List α} {a b : α} (ha : a ∈ xs)
    (hb : b ∈ xs) : ((xs.erase a).map f).Perm ((xs.erase b).map f) ↔ f a = f b := by
  have hxs : (f a :: (xs.erase a).map f).Perm (f b :: (xs.erase b).map f) :=
    ((List.perm_cons_erase ha).symm.trans (List.perm_cons_erase hb)).map f
  constructor
  · intro h
    have hcons := (h.cons (f a)).symm.trans hxs
    exact (Multiset.cons_inj_left (s := ((xs.erase b).map f : Multiset β))).mp
      (Multiset.coe_eq_coe.mpr hcons)
  · intro h
    rw [h] at hxs
    exact hxs.cons_inv

/-- Leaving a member out takes as much as the other omission only if that one is a member too. -/
theorem mem_of_erase_perm [DecidableEq α] {f : α → β} {xs : List α} {a b : α} (ha : a ∈ xs)
    (h : ((xs.erase a).map f).Perm ((xs.erase b).map f)) : b ∈ xs := by
  by_contra hb
  have hlength := h.length_eq
  rw [List.erase_of_not_mem hb, List.length_map, List.length_map, List.length_erase_of_mem ha] at hlength
  have := List.length_pos_of_mem ha
  omega

/-- What is taken off the front of a sorted list comes before what is left. -/
theorem le_of_mem_take (htotal : ∀ a b, le a b ∨ le b a)
    (htrans : ∀ a b c, le a b → le b c → le a c) {xs : List α} {k : Nat} {a b : α}
    (ha : a ∈ (xs.insertionSort le).take k) (hb : b ∈ xs) (hnot : b ∉ (xs.insertionSort le).take k) :
    le a b := by
  have : Std.Total le := ⟨htotal⟩
  have : IsTrans α le := ⟨htrans⟩
  have hsorted := List.pairwise_insertionSort le xs
  rw [← List.take_append_drop k (xs.insertionSort le), List.pairwise_append] at hsorted
  refine hsorted.2.2 a ha b ?_
  have hmem : b ∈ xs.insertionSort le := (List.mem_insertionSort le).mpr hb
  rw [← List.take_append_drop k (xs.insertionSort le), List.mem_append] at hmem
  exact hmem.resolve_left hnot

/-- Two selections of one size that differ each hold something the other lacks. -/
theorem exists_exchange [DecidableEq α] {xs ys : List α} (hys : ys.Nodup)
    (hlength : xs.length = ys.length) {a : α} (ha : a ∈ xs) (hnot : a ∉ ys) :
    ∃ b ∈ ys, b ∉ xs := by
  by_contra hall
  have hsub : ys ⊆ xs := by
    intro b hb
    by_contra hbx
    exact hall ⟨b, hb, hbx⟩
  have hperm := (List.subperm_of_subset hys hsub).perm_of_length_le hlength.le
  exact hnot (hperm.mem_iff.mpr ha)

end Perm

section Related
variable {R : α → β → Prop} {le : α → α → Prop} {le' : β → β → Prop} [DecidableRel le] [DecidableRel le']

private theorem orderedInsert_forall₂ (hle : ∀ a a' b b', R a a' → R b b' → (le a b ↔ le' a' b'))
    {a : α} {a' : β} (ha : R a a') {xs : List α} {ys : List β} (h : List.Forall₂ R xs ys) :
    List.Forall₂ R (xs.orderedInsert le a) (ys.orderedInsert le' a') := by
  induction h with
  | nil => exact .cons ha .nil
  | @cons b b' xs ys hhead htail ih =>
    rw [List.orderedInsert_cons, List.orderedInsert_cons]
    by_cases hab : le a b
    · rw [if_pos hab, if_pos ((hle _ _ _ _ ha hhead).mp hab)]
      exact .cons ha (.cons hhead htail)
    · rw [if_neg hab, if_neg (mt (hle _ _ _ _ ha hhead).mpr hab)]
      exact .cons hhead ih

/-- Rows related by something the order cannot see stay related when both sides are sorted. -/
theorem insertionSort_forall₂ (hle : ∀ a a' b b', R a a' → R b b' → (le a b ↔ le' a' b'))
    {xs : List α} {ys : List β} (h : List.Forall₂ R xs ys) :
    List.Forall₂ R (xs.insertionSort le) (ys.insertionSort le') := by
  induction h with
  | nil => exact .nil
  | cons hhead _ ih => exact orderedInsert_forall₂ hle hhead ih

theorem filter_forall₂ {p : α → Bool} {q : β → Bool} (hp : ∀ a b, R a b → p a = q b)
    {xs : List α} {ys : List β} (h : List.Forall₂ R xs ys) :
    List.Forall₂ R (xs.filter p) (ys.filter q) := by
  induction h with
  | nil => exact .nil
  | @cons a b xs ys hhead htail ih =>
    rw [List.filter_cons, List.filter_cons, hp a b hhead]
    split
    · exact .cons hhead ih
    · exact ih

end Related

end Caixinha.Library.Sorting
