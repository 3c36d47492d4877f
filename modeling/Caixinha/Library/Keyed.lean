import Mathlib.Data.List.Nodup

/-! Lists searched by a key. -/
namespace Caixinha.Library.Keyed

variable {α κ : Type} [DecidableEq κ] {key : α → κ} {xs : List α} {k : κ} {x : α}

theorem exists_find?_of_mem (h : k ∈ xs.map key) :
    ∃ x ∈ xs, key x = k ∧ xs.find? (fun y => key y = k) = some x := by
  obtain ⟨x, hx, hk⟩ := List.mem_map.mp h
  cases hfind : xs.find? fun y => key y = k with
  | none => exact absurd (by simpa using hk) (List.find?_eq_none.mp hfind x hx)
  | some y => exact ⟨y, List.mem_of_find?_eq_some hfind, by simpa using List.find?_some hfind, rfl⟩

/-- Where the keys differ, what is found under a key is the one entry that has it. -/
theorem find?_eq_some_iff (hkeyed : (xs.map key).Nodup) :
    xs.find? (fun y => key y = k) = some x ↔ x ∈ xs ∧ key x = k := by
  constructor
  · intro h
    exact ⟨List.mem_of_find?_eq_some h, by simpa using List.find?_some h⟩
  · rintro ⟨hx, rfl⟩
    obtain ⟨y, hy, hkey, hfind⟩ := exists_find?_of_mem (List.mem_map_of_mem (f := key) hx)
    rw [hfind, List.inj_on_of_nodup_map hkeyed hy hx hkey]

/-- The last entry under a key. -/
theorem exists_find?_reverse_of_mem (h : k ∈ xs.map key) :
    ∃ x ∈ xs, key x = k ∧ xs.reverse.find? (fun y => key y = k) = some x := by
  have hreverse : k ∈ xs.reverse.map key := by
    rw [List.map_reverse]
    exact List.mem_reverse.mpr h
  obtain ⟨x, hx, hk, hfind⟩ := exists_find?_of_mem hreverse
  exact ⟨x, List.mem_reverse.mp hx, hk, hfind⟩

end Caixinha.Library.Keyed
