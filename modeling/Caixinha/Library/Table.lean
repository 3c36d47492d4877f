import Mathlib.Algebra.Ring.Int.Defs
import Mathlib.Data.List.Forall2
import Mathlib.Tactic.Common

/-! Tables as lists of rows with a numeric key: lookup, replacement in place, fresh keys. -/
namespace Caixinha.Library.Table

section Keyed
variable {α : Type} (key : α → Nat)

def lookup (rows : List α) (k : Nat) : Option α := rows.find? (fun r => key r = k)

/-- Write a row back over the one with its key. -/
def replace (rows : List α) (r : α) : List α := rows.map (fun x => if key x = key r then r else x)

/-- A key above every key in use. -/
def nextKey (rows : List α) : Nat := (rows.map key).foldr max 0 + 1

/-- No two rows share a key. -/
def Keyed (rows : List α) : Prop := (rows.map key).Nodup

instance (rows : List α) : Decidable (Keyed key rows) :=
  inferInstanceAs (Decidable (rows.map key).Nodup)

variable {key} {rows : List α} {r x : α} {k : Nat}

theorem lookup_mem (h : lookup key rows k = some r) : r ∈ rows := List.mem_of_find?_eq_some h

theorem lookup_key (h : lookup key rows k = some r) : key r = k := by
  simpa [lookup] using List.find?_some h

theorem lookup_of_mem (hkeyed : Keyed key rows) (h : r ∈ rows) :
    lookup key rows (key r) = some r := by
  induction rows with
  | nil => cases h
  | cons x rows ih =>
    rw [Keyed, List.map_cons, List.nodup_cons] at hkeyed
    rcases List.mem_cons.mp h with rfl | h
    · simp [lookup]
    · have hne : key x ≠ key r := fun he => hkeyed.1 (he ▸ List.mem_map_of_mem h)
      rw [lookup, List.find?_cons_of_neg (by simpa using hne)]
      exact ih hkeyed.2 h

theorem eq_of_mem_of_key (hkeyed : Keyed key rows) (hr : r ∈ rows) (hx : x ∈ rows)
    (h : key r = key x) : r = x :=
  Option.some.inj ((lookup_of_mem hkeyed hr).symm.trans (h ▸ lookup_of_mem hkeyed hx))

/-- The row of a key is the only one. -/
theorem filter_key_of_mem (hkeyed : Keyed key rows) (h : r ∈ rows) :
    rows.filter (fun x => key x = key r) = [r] := by
  induction rows with
  | nil => cases h
  | cons x rows ih =>
    rw [Keyed, List.map_cons, List.nodup_cons] at hkeyed
    rcases List.mem_cons.mp h with rfl | h
    · have hrest : rows.filter (fun x => key x = key r) = [] := by
        refine List.filter_eq_nil_iff.mpr fun y hy hyes => ?_
        exact hkeyed.1 (of_decide_eq_true hyes ▸ List.mem_map_of_mem hy)
      rw [List.filter_cons_of_pos (by simp), hrest]
    · have hne : key x ≠ key r := fun he => hkeyed.1 (he ▸ List.mem_map_of_mem h)
      rw [List.filter_cons_of_neg (by simpa using hne)]
      exact ih hkeyed.2 h

@[simp] theorem keys_replace : (replace key rows r).map key = rows.map key := by
  rw [replace, List.map_map]
  apply List.map_congr_left
  intro y _
  by_cases hy : key y = key r <;> simp [hy]

theorem keyed_replace (h : Keyed key rows) : Keyed key (replace key rows r) := by
  rw [Keyed, keys_replace]
  exact h

theorem lookup_replace (rows : List α) (r : α) (k : Nat) :
    lookup key (replace key rows r) k =
      (lookup key rows k).map (fun x => if key x = key r then r else x) := by
  rw [lookup, lookup, replace, List.find?_map]
  congr 2
  funext y
  by_cases hy : key y = key r <;> simp [hy]

theorem lookup_replace_self (h : lookup key rows (key r) = some x) :
    lookup key (replace key rows r) (key r) = some r := by
  rw [lookup_replace, h, Option.map_some, if_pos (lookup_key h)]

theorem lookup_replace_ne (hne : k ≠ key r) :
    lookup key (replace key rows r) k = lookup key rows k := by
  rw [lookup_replace]
  cases h : lookup key rows k with
  | none => rfl
  | some y => rw [Option.map_some, if_neg (by rw [lookup_key h]; exact hne)]

theorem key_lt_nextKey (h : r ∈ rows) : key r < nextKey key rows := by
  induction rows with
  | nil => cases h
  | cons y rows ih =>
    rw [nextKey, List.map_cons, List.foldr_cons]
    rcases List.mem_cons.mp h with rfl | h
    · omega
    · have := ih h
      rw [nextKey] at this
      omega

theorem replace_replace {r' : α} (h : key r = key r') (rows : List α) :
    replace key (replace key rows r) r' = replace key rows r' := by
  rw [replace, replace, replace, List.map_map]
  apply List.map_congr_left
  intro y _
  by_cases hy : key y = key r'
  · simp [hy, h]
  · have hne : key y ≠ key r := fun he => hy (he.trans h)
    simp [hy, hne]

theorem replace_self (hkeyed : Keyed key rows) (h : lookup key rows (key r) = some r) :
    replace key rows r = rows := by
  have hsame : ∀ x ∈ rows, (if key x = key r then r else x) = x := by
    intro x hx
    split
    · rename_i hkey
      exact eq_of_mem_of_key hkeyed (lookup_mem h) hx hkey.symm
    · rfl
  rw [replace, List.map_congr_left hsame, List.map_id']

theorem replace_of_notMem (h : ∀ y ∈ rows, key y ≠ key r) : replace key rows r = rows := by
  rw [replace]
  conv_rhs => rw [← List.map_id rows]
  apply List.map_congr_left
  intro y hy
  simp [h y hy]

/-- The row written last is the one replaced when the key is new. -/
theorem replace_append_new {r' : α} (h : key r = nextKey key rows) (hkey : key r' = key r) :
    replace key (rows ++ [r]) r' = rows ++ [r'] := by
  rw [replace, List.map_append, List.map_singleton, if_pos hkey.symm]
  congr 1
  refine replace_of_notMem fun y hy => ?_
  have : key y < nextKey key rows := key_lt_nextKey hy
  omega

theorem mem_replace (h : x ∈ replace key rows r) : x = r ∨ x ∈ rows := by
  rw [replace, List.mem_map] at h
  obtain ⟨y, hy, rfl⟩ := h
  split
  · exact .inl rfl
  · exact .inr hy

/-- A row beside the written one has another key. -/
theorem mem_replace_other (h : x ∈ replace key rows r) : x = r ∨ (x ∈ rows ∧ key x ≠ key r) := by
  rw [replace, List.mem_map] at h
  obtain ⟨y, hy, rfl⟩ := h
  split
  · exact .inl rfl
  · rename_i hne
    exact .inr ⟨hy, hne⟩

theorem mem_replace_self (h : lookup key rows (key r) = some x) : r ∈ replace key rows r :=
  lookup_mem (lookup_replace_self h)

/-- A property of rows survives replacing one of them by a row that has it. -/
theorem forall_mem_replace {p : α → Prop} (h : ∀ y ∈ rows, p y) (hr : p r) :
    ∀ y ∈ replace key rows r, p y := by
  intro y hy
  rcases mem_replace hy with rfl | hy
  · exact hr
  · exact h y hy

/-- A projection on which the new row agrees with the old one is unchanged by the replacement. -/
theorem map_replace {β : Type} (f : α → β) (hkeyed : Keyed key rows)
    (h : lookup key rows (key r) = some x) (hf : f r = f x) :
    (replace key rows r).map f = rows.map f := by
  rw [replace, List.map_map]
  apply List.map_congr_left
  intro y hy
  by_cases hk : key y = key r
  · have hyx : y = x := eq_of_mem_of_key hkeyed hy (lookup_mem h) (hk.trans (lookup_key h).symm)
    rw [Function.comp_apply, if_pos hk, hf, hyx]
  · simp [hk]

/-- Tables related row by row agree on which keys they hold, and relate what they hold there. -/
theorem lookup_forall₂ {R : α → α → Prop} {ys : List α} (h : List.Forall₂ R rows ys)
    (hkey : ∀ x y, R x y → key y = key x) (k : Nat) :
    Option.Rel R (lookup key rows k) (lookup key ys k) := by
  induction h with
  | nil => exact .none
  | @cons x y xs ys hxy _ ih =>
    by_cases hk : key x = k
    · have hky : key y = k := (hkey x y hxy).trans hk
      rw [lookup, lookup, List.find?_cons_of_pos (by simpa using hk),
        List.find?_cons_of_pos (by simpa using hky)]
      exact .some hxy
    · have hky : key y ≠ k := fun he => hk ((hkey x y hxy).symm.trans he)
      rw [lookup, lookup, List.find?_cons_of_neg (by simpa using hk),
        List.find?_cons_of_neg (by simpa using hky)]
      exact ih

theorem keyed_forall₂ {R : α → α → Prop} {ys : List α} (h : List.Forall₂ R rows ys)
    (hkey : ∀ x y, R x y → key y = key x) (hkeyed : Keyed key rows) : Keyed key ys := by
  have hmap : ys.map key = rows.map key := by
    clear hkeyed
    induction h with
    | nil => rfl
    | cons hxy _ ih => rw [List.map_cons, List.map_cons, ih, hkey _ _ hxy]
  rwa [Keyed, hmap]

theorem forall₂_trans {R : α → α → Prop} {ys zs : List α}
    (htrans : ∀ x y z, R x y → R y z → R x z) (h : List.Forall₂ R rows ys)
    (h' : List.Forall₂ R ys zs) : List.Forall₂ R rows zs := by
  induction h generalizing zs with
  | nil => exact h'
  | cons hxy _ ih =>
    cases h' with
    | cons hyz htail => exact .cons (htrans _ _ _ hxy hyz) (ih htail)

/-- Replacing a row relates the tables row by row, by any reflexive relation between the old
row and the new one. -/
theorem forall₂_replace {R : α → α → Prop} (hrefl : ∀ y, R y y) (hkeyed : Keyed key rows)
    (hx : lookup key rows (key r) = some x) (hR : R x r) :
    List.Forall₂ R rows (replace key rows r) := by
  have hrows : ∀ y ∈ rows, R y (if key y = key r then r else y) := by
    intro y hy
    split
    · rename_i hk
      have : y = x := eq_of_mem_of_key hkeyed hy (lookup_mem hx) (hk.trans (lookup_key hx).symm)
      exact this ▸ hR
    · exact hrefl y
  exact List.forall₂_map_right_iff.mpr (List.forall₂_same.mpr hrows)

theorem lookup_nextKey : lookup key rows (nextKey key rows) = none := by
  rw [lookup, List.find?_eq_none]
  intro y hy
  have : key y < nextKey key rows := key_lt_nextKey hy
  simp only [decide_eq_true_eq]
  omega

theorem lookup_append_of_some (h : lookup key rows k = some x) :
    lookup key (rows ++ [r]) k = some x := by
  rw [lookup] at h ⊢
  rw [List.find?_append, h, Option.some_or]

theorem lookup_append_new (h : lookup key rows (key r) = none) :
    lookup key (rows ++ [r]) (key r) = some r := by
  rw [lookup] at h ⊢
  rw [List.find?_append, h]
  simp

theorem keyed_append_of_fresh (h : Keyed key rows) (hfresh : ∀ y ∈ rows, key y ≠ key r) :
    Keyed key (rows ++ [r]) := by
  rw [Keyed, List.map_append, List.map_singleton]
  refine List.nodup_append.mpr ⟨h, by simp, ?_⟩
  rintro a ha b hb rfl
  obtain ⟨y, hy, hya⟩ := List.mem_map.mp ha
  rw [List.mem_singleton] at hb
  exact hfresh y hy (hya.trans hb)

theorem keyed_append (h : Keyed key rows) (hr : key r = nextKey key rows) :
    Keyed key (rows ++ [r]) := by
  refine keyed_append_of_fresh h fun y hy => ?_
  have : key y < nextKey key rows := key_lt_nextKey hy
  omega

/-- A block of rows with keys counted on from the next one. -/
theorem keyed_append_block {block : List α} (h : Keyed key rows)
    (hblock : block.map key = (List.range block.length).map (fun k => nextKey key rows + k)) :
    Keyed key (rows ++ block) := by
  rw [Keyed, List.map_append, hblock]
  have hnew : ((List.range block.length).map (fun k => nextKey key rows + k)).Nodup :=
    List.pairwise_map.mpr (List.nodup_range.imp fun hab => by omega)
  refine List.nodup_append.mpr ⟨h, hnew, ?_⟩
  rintro a ha b hb rfl
  obtain ⟨y, hy, rfl⟩ := List.mem_map.mp ha
  obtain ⟨k, -, hk⟩ := List.mem_map.mp hb
  have : key y < nextKey key rows := key_lt_nextKey hy
  omega

theorem keyed_of_keys {rows' : List α} (h : rows'.map key = rows.map key) (hkeyed : Keyed key rows) :
    Keyed key rows' := by
  rwa [Keyed, h]

theorem nextKey_of_keys {rows' : List α} (h : rows'.map key = rows.map key) :
    nextKey key rows' = nextKey key rows := by
  rw [nextKey, nextKey, h]

/-- A sum over the rows when one of them counts differently. -/
theorem sum_map_change {f g : α → Int} (hkeyed : Keyed key rows) (hr : r ∈ rows)
    (h : ∀ y ∈ rows, key y ≠ key r → g y = f y) :
    (rows.map g).sum = (rows.map f).sum - f r + g r := by
  induction rows with
  | nil => cases hr
  | cons y rows ih =>
    rw [Keyed, List.map_cons, List.nodup_cons] at hkeyed
    rw [List.map_cons, List.map_cons, List.sum_cons, List.sum_cons]
    rcases List.mem_cons.mp hr with rfl | hr
    · have hrest : rows.map g = rows.map f := by
        apply List.map_congr_left
        intro z hz
        exact h z (List.mem_cons_of_mem _ hz) fun he => hkeyed.1 (he ▸ List.mem_map_of_mem hz)
      rw [hrest]
      omega
    · have hne : key y ≠ key r := fun he => hkeyed.1 (he ▸ List.mem_map_of_mem hr)
      rw [ih hkeyed.2 hr fun z hz => h z (List.mem_cons_of_mem _ hz), h y (List.mem_cons_self ..) hne]
      omega

end Keyed

/-- A key is determined by its decimal text. -/
theorem toString_key_inj {m n : Nat} (h : toString m = toString n) : m = n := by
  have hdigits : Nat.toDigits 10 m = Nat.toDigits 10 n := by
    rw [← Nat.toList_repr, ← Nat.toList_repr]
    exact congrArg String.toList h
  have hvalue : ∀ k, Nat.ofDigitChars 10 (Nat.toDigits 10 k) 0 = k :=
    fun k => Nat.ofDigitChars_toDigits (by decide) (by decide)
  rw [← hvalue m, hdigits, hvalue n]

end Caixinha.Library.Table
