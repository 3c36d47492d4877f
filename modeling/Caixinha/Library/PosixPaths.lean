import Mathlib.Data.List.Basic
import Mathlib.Data.String.Basic
import Mathlib.Tactic.Common

/-! Pure POSIX paths: the parts of a path, its last part, and the names that are a single part. -/
namespace Caixinha.Library.PosixPaths

/-- The segments between slashes; empty ones and `.` are dropped. -/
def parts (path : String) : List String :=
  ((path.toList.splitOn '/').map String.ofList).filter fun part => part ≠ "" ∧ part ≠ "."

def isAbsolute (path : String) : Bool := path.toList.head? = some '/'

/-- The last part, empty where there is none. -/
def lastPart (path : String) : String := (parts path).getLast?.getD ""

/-- The path that `parts` spells. -/
def joined (parts : List String) : String := String.intercalate "/" parts

variable {path name root : String}

theorem not_mem_of_mem_splitOn {sep : Char} {cs part : List Char} (h : part ∈ cs.splitOn sep) : sep ∉ part := by
  induction cs generalizing part with
  | nil =>
    rw [List.splitOn_nil, List.mem_singleton] at h
    simp [h]
  | cons c cs ih =>
    rw [List.splitOn_cons_eq_if_modifyHead] at h
    split at h
    · rcases List.mem_cons.mp h with rfl | h
      · simp
      · exact ih h
    · rename_i hne
      cases hrest : cs.splitOn sep with
      | nil => exact absurd hrest (List.splitOn_ne_nil sep cs)
      | cons first rest =>
        rw [hrest, List.modifyHead_cons] at h
        rcases List.mem_cons.mp h with rfl | h
        · have hfirst : sep ∉ first := ih (hrest ▸ List.mem_cons_self ..)
          intro hmem
          rcases List.mem_cons.mp hmem with rfl | hmem
          · simp at hne
          · exact hfirst hmem
        · exact ih (hrest ▸ List.mem_cons_of_mem _ h)

/-- No part has a slash in it. -/
theorem not_mem_of_mem_parts {part : String} (h : part ∈ parts path) : '/' ∉ part.toList := by
  obtain ⟨hmem, -⟩ := List.mem_filter.mp h
  obtain ⟨cs, hcs, rfl⟩ := List.mem_map.mp hmem
  rw [String.toList_ofList]
  exact not_mem_of_mem_splitOn hcs

/-- A name that is its own last part is a single segment. -/
theorem segment_of_lastPart (h : lastPart name = name) (hempty : name ≠ "") : '/' ∉ name.toList := by
  rw [lastPart] at h
  cases hlast : (parts name).getLast? with
  | none =>
    rw [hlast] at h
    exact absurd h.symm hempty
  | some part =>
    rw [hlast, Option.getD_some] at h
    exact h ▸ not_mem_of_mem_parts (List.mem_of_getLast? hlast)

/-- A segment below another one. -/
theorem parts_below (hroot : '/' ∉ root.toList) (hrootEmpty : root ≠ "") (hrootDot : root ≠ ".")
    (h : '/' ∉ name.toList) (hempty : name ≠ "") (hdot : name ≠ ".") :
    parts (root ++ "/" ++ name) = [root, name] := by
  have hchars : (root ++ "/" ++ name).toList = root.toList ++ '/' :: name.toList := by simp
  rw [parts, hchars, List.splitOn_append_cons_self_of_not_mem hroot, List.splitOn_eq_singleton h,
    List.map_cons, List.map_singleton, String.ofList_toList, String.ofList_toList]
  rw [List.filter_cons_of_pos (by simp [hrootEmpty, hrootDot]), List.filter_cons_of_pos (by simp [hempty, hdot]),
    List.filter_nil]

end Caixinha.Library.PosixPaths
