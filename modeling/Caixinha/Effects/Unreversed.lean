import Caixinha.Effects.Frame

/-! The settlements of an obligation that no reversal took back, and what they add up to. -/
namespace Caixinha.Effects

open Caixinha.Library Caixinha.Library.Table Fallible Caixinha.Model

/-- The settlements of an obligation that stand. -/
def unreversed (db : Db) (o : Obligation) : List PaymentSettlement :=
  db.settlements.filter (fun s => s.obligation = o ∧ (db.reversalOfSettlement? s.id).isNone)

/-- What one settlement counts among those that stand. -/
def standing (db : Db) (o : Obligation) (f : PaymentSettlement → Int)
    (s : PaymentSettlement) : Int :=
  if s.obligation = o ∧ (db.reversalOfSettlement? s.id).isNone then f s else 0

variable {acted : Payment → Prop} {db db' : Db} {new : Additions} {o : Obligation}
  {f : PaymentSettlement → Int} {s : PaymentSettlement} {r : PaymentReversal}

theorem total_unreversed :
    total f (unreversed db o) = (db.settlements.map (standing db o f)).sum := by
  have hall : ∀ rows : List PaymentSettlement,
      ((rows.filter (fun s => s.obligation = o ∧ (db.reversalOfSettlement? s.id).isNone)).map f).sum =
        (rows.map (standing db o f)).sum := by
    intro rows
    induction rows with
    | nil => rfl
    | cons s rows ih =>
      rw [List.map_cons, List.sum_cons, ← ih, standing]
      by_cases hs : s.obligation = o ∧ (db.reversalOfSettlement? s.id).isNone
      · rw [List.filter_cons_of_pos (by simpa using hs), if_pos hs, List.map_cons, List.sum_cons]
      · rw [List.filter_cons_of_neg (by simpa using hs), if_neg hs, zero_add]
  exact hall db.settlements

theorem reversalOfSettlement?_eq_none_iff {id : Nat} :
    db.reversalOfSettlement? id = none ↔ ∀ r ∈ db.reversals, r.settlementId ≠ id := by
  rw [Db.reversalOfSettlement?, List.find?_eq_none]
  simp

/-- A settlement inserted next has no reversal. -/
theorem NextSettlement.unreversed (hs : Sound db) (h : NextSettlement db s) :
    db.reversalOfSettlement? s.id = none := by
  rw [reversalOfSettlement?_eq_none_iff]
  intro r hr hid
  obtain ⟨x, hx, hxid, -⟩ := hs.reversed r hr
  have hlt : x.id < nextKey PaymentSettlement.id db.settlements := key_lt_nextKey hx
  have := h.id_eq
  omega

theorem Grows.reversalOf_same (h : Grows acted db db' new) (hreversals : new.reversals = []) (id : Nat) :
    db'.reversalOfSettlement? id = db.reversalOfSettlement? id := by
  rw [Db.reversalOfSettlement?, Db.reversalOfSettlement?, h.reversals, hreversals, List.append_nil]

/-- New settlements and reversals of other obligations leave the standing ones as they are. -/
theorem Grows.unreversed_other (h : Grows acted db db' new)
    (hsettlements : ∀ s ∈ new.settlements, s.obligation ≠ o)
    (hreversals : ∀ r ∈ new.reversals, ∀ s ∈ db.settlements, s.id = r.settlementId →
      s.obligation ≠ o) : unreversed db' o = unreversed db o := by
  rw [unreversed, unreversed, h.settlements, List.filter_append]
  have hnew : new.settlements.filter
      (fun s => s.obligation = o ∧ (db'.reversalOfSettlement? s.id).isNone) = [] := by
    rw [List.filter_eq_nil_iff]
    intro s hs
    simp [hsettlements s hs]
  rw [hnew, List.append_nil]
  apply List.filter_congr
  intro s hs
  by_cases ho : s.obligation = o
  · have hiff : db'.reversalOfSettlement? s.id = none ↔ db.reversalOfSettlement? s.id = none := by
      rw [reversalOfSettlement?_eq_none_iff, reversalOfSettlement?_eq_none_iff, h.reversals]
      constructor
      · exact fun hall r hr => hall r (List.mem_append_left _ hr)
      · intro hall r hr hid
        rcases List.mem_append.mp hr with hr | hr
        · exact hall r hr hid
        · exact hreversals r hr s hs hid.symm ho
    simp [ho, Option.isNone_iff_eq_none, hiff]
  · simp [ho]

/-- A new settlement stands. -/
theorem Grows.total_settled (h : Grows acted db db' new) (hs : Sound db)
    (hsettlements : new.settlements = [s]) (hreversals : new.reversals = []) (o : Obligation)
    (f : PaymentSettlement → Int) :
    total f (unreversed db' o) = total f (unreversed db o) + if s.obligation = o then f s else 0 := by
  obtain ⟨-, hnext⟩ := h.settlement s (by simp [hsettlements])
  have hsame : standing db' o f = standing db o f := by
    funext x
    rw [standing, standing, h.reversalOf_same hreversals]
  rw [total_unreversed, total_unreversed, h.settlements, hsettlements, List.map_append,
    List.sum_append, hsame, List.map_singleton, List.sum_singleton, standing,
    hnext.unreversed hs]
  simp

/-- A new reversal takes its settlement back. -/
theorem Grows.total_reversed (h : Grows acted db db' new) (hs : Sound db)
    (hsettlements : new.settlements = []) (hreversals : new.reversals = [r])
    (hmem : s ∈ db.settlements) (hid : r.settlementId = s.id) (o : Obligation)
    (f : PaymentSettlement → Int) :
    total f (unreversed db' o) = total f (unreversed db o) - if s.obligation = o then f s else 0 := by
  obtain ⟨-, hnext⟩ := h.reversal r (by simp [hreversals])
  have hrows : db'.settlements = db.settlements := by
    rw [h.settlements, hsettlements, List.append_nil]
  have hrev : db'.reversals = db.reversals ++ [r] := by rw [h.reversals, hreversals]
  have hbefore : db.reversalOfSettlement? s.id = none := by
    rw [reversalOfSettlement?_eq_none_iff, ← hid]
    exact hnext.firstSettlement
  have hafter : (db'.reversalOfSettlement? s.id).isNone = false := by
    rw [← Bool.not_eq_true, Option.isNone_iff_eq_none, reversalOfSettlement?_eq_none_iff]
    intro hall
    exact hall r (by rw [hrev]; simp) hid
  have hother : ∀ y ∈ db.settlements, y.id ≠ s.id → standing db' o f y = standing db o f y := by
    intro y _ hne
    have hiff : db'.reversalOfSettlement? y.id = none ↔ db.reversalOfSettlement? y.id = none := by
      rw [reversalOfSettlement?_eq_none_iff, reversalOfSettlement?_eq_none_iff, hrev]
      constructor
      · exact fun hall x hx => hall x (List.mem_append_left _ hx)
      · intro hall x hx
        rcases List.mem_append.mp hx with hx | hx
        · exact hall x hx
        · rw [List.mem_singleton.mp hx, hid]
          exact fun he => hne he.symm
    simp only [standing, Option.isNone_iff_eq_none, hiff]
  rw [total_unreversed, total_unreversed, hrows, sum_map_change hs.settlements hmem hother]
  simp only [standing, hbefore, hafter, Option.isNone_none, and_true, Bool.false_eq_true, and_false,
    if_false, add_zero]

end Caixinha.Effects
