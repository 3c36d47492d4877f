import Mathlib.Data.List.Perm.Basic
import Mathlib.Order.Lattice
import Mathlib.Tactic.Common

/-! Half-open windows of a linear order with either bound optional, and what it takes for two
adjacent windows to share out a selection. -/
namespace Caixinha.Library.HalfOpen

section Windows
variable {α : Type} [LinearOrder α]

/-- At or above `lo` and below `hi`, where they are given. -/
def Within (lo hi : Option α) (x : α) : Prop := (∀ l ∈ lo, l ≤ x) ∧ ∀ h ∈ hi, x < h

instance (lo hi : Option α) (x : α) : Decidable (Within lo hi x) :=
  inferInstanceAs (Decidable (_ ∧ _))

@[simp] theorem within_none (x : α) : Within none none x := by simp [Within]

@[simp] theorem within_some {lo hi x : α} : Within (some lo) (some hi) x ↔ lo ≤ x ∧ x < hi := by
  simp [Within]

theorem within_adjacent {a b c x : α} (hab : a ≤ b) (hbc : b ≤ c) :
    Within (some a) (some c) x ↔ Within (some a) (some b) x ∨ Within (some b) (some c) x := by
  simp only [within_some]
  constructor
  · rintro ⟨ha, hc⟩
    rcases lt_or_ge x b with hb | hb
    · exact .inl ⟨ha, hb⟩
    · exact .inr ⟨hb, hc⟩
  · rintro (⟨ha, hb⟩ | ⟨hb, hc⟩)
    · exact ⟨ha, lt_of_lt_of_le hb hbc⟩
    · exact ⟨le_trans hab hb, hc⟩

theorem not_within_both {a b c x : α} (h : Within (some a) (some b) x) :
    ¬ Within (some b) (some c) x := by
  simp only [within_some] at h ⊢
  exact fun hb => absurd h.2 (not_lt_of_ge hb.1)

end Windows

/-- Two selections that never overlap share out their union. -/
theorem filter_perm_append {α : Type} (rows : List α) {whole first second : α → Bool}
    (hunion : ∀ x, whole x = (first x || second x)) (hexclusive : ∀ x, first x → ¬ second x) :
    (rows.filter whole).Perm (rows.filter first ++ rows.filter second) := by
  have hfirst : rows.filter first = (rows.filter whole).filter first := by
    rw [List.filter_filter]
    refine List.filter_congr fun x _ => ?_
    cases h : first x <;> simp [hunion, h]
  have hsecond : rows.filter second = (rows.filter whole).filter (fun x => ! first x) := by
    rw [List.filter_filter]
    refine List.filter_congr fun x _ => ?_
    cases h : first x with
    | true => simpa [h] using hexclusive x h
    | false => simp [hunion, h]
  rw [hfirst, hsecond]
  exact (List.filter_append_perm first (rows.filter whole)).symm

/-- Rows that give nothing may be left out of a selection without repetition. -/
theorem flatMap_perm_of_silent {α β : Type} {rows chosen : List α} {give : α → List β}
    (hrows : rows.Nodup) (hchosen : chosen.Nodup) (hsub : chosen ⊆ rows)
    (hsilent : ∀ x ∈ rows, x ∉ chosen → give x = []) :
    (chosen.flatMap give).Perm (rows.flatMap give) := by
  classical
  have hsame : chosen.Perm (rows.filter (fun x => x ∈ chosen)) := by
    refine (List.perm_ext_iff_of_nodup hchosen (hrows.filter _)).mpr fun x => ?_
    simp only [List.mem_filter, decide_eq_true_eq]
    exact ⟨fun h => ⟨hsub h, h⟩, And.right⟩
  have hrest : (rows.filter (fun x => x ∉ chosen)).flatMap give = [] := by
    simp only [List.flatMap_eq_nil_iff, List.mem_filter, decide_eq_true_eq]
    exact fun x hx => hsilent x hx.1 hx.2
  have hsplit := ((List.filter_append_perm (fun x => decide (x ∈ chosen)) rows).flatMap_right give)
  rw [List.flatMap_append] at hsplit
  simp only [decide_not] at hrest
  rw [hrest, List.append_nil] at hsplit
  exact (hsame.flatMap_right give).trans hsplit

end Caixinha.Library.HalfOpen
