import Mathlib.Data.List.Induction
import Mathlib.Tactic.Common

/-! Rows chained by digests: every row carries its own digest and names the one before it. Where
the digest determines what a row says, the last one determines the whole chain. -/
namespace Caixinha.Library.HashChain

variable {Row Digest Content : Type} (previous carried expected : Row → Option Digest)

/-- What the next row has to name, after rows that started from `start`. -/
def tip (start : Option Digest) (rows : List Row) : Option Digest :=
  rows.foldl (fun _ row => carried row) start

/-- Every row names the digest carried before it and carries the digest expected of it. -/
def Linked : Option Digest → List Row → Prop
  | _, [] => True
  | start, row :: rest => previous row = start ∧ (expected row).isSome ∧
      carried row = expected row ∧ Linked (carried row) rest

variable {previous carried expected} {start : Option Digest} {rows rows' : List Row} {row : Row}

theorem tip_append : tip carried start (rows ++ [row]) = carried row := by
  rw [tip, List.foldl_append]
  rfl

theorem linked_append : Linked previous carried expected start (rows ++ [row]) ↔
    Linked previous carried expected start rows ∧ previous row = tip carried start rows ∧
      (expected row).isSome ∧ carried row = expected row := by
  induction rows generalizing start with
  | nil => simp [Linked, tip]
  | cons r rest ih =>
    rw [List.cons_append, Linked, Linked, ih]
    simp only [tip, List.foldl_cons]
    tauto

/-- A chain that is not empty ends in a digest. -/
theorem tip_isSome (h : Linked previous carried expected start (rows ++ [row])) :
    (tip carried start (rows ++ [row])).isSome := by
  obtain ⟨-, -, hsome, hcarried⟩ := linked_append.mp h
  rw [tip_append, hcarried]
  exact hsome

/-- Two chains that end in the same digest say the same, row by row. -/
theorem contents_eq_of_tip_eq {content : Row → Content}
    (commits : ∀ r s, (expected r).isSome → expected r = expected s →
      content r = content s ∧ previous r = previous s)
    (h : Linked previous carried expected none rows)
    (h' : Linked previous carried expected none rows')
    (htip : tip carried none rows = tip carried none rows') :
    rows.map content = rows'.map content := by
  -- from the end: equal digests give equal last rows and equal digests before them
  induction rows using List.reverseRecOn generalizing rows' with
  | nil =>
    cases rows' using List.reverseRecOn with
    | nil => rfl
    | append_singleton init last _ =>
      have hsome := tip_isSome h'
      rw [← htip] at hsome
      cases hsome
  | append_singleton rest r ih =>
    cases rows' using List.reverseRecOn with
    | nil =>
      have hsome := tip_isSome h
      rw [htip] at hsome
      cases hsome
    | append_singleton init last _ =>
      obtain ⟨hrest, hprev, hsome, hcarried⟩ := linked_append.mp h
      obtain ⟨hinit, hprev', -, hcarried'⟩ := linked_append.mp h'
      rw [tip_append, tip_append, hcarried, hcarried'] at htip
      obtain ⟨hcontent, hprevious⟩ := commits r last hsome htip
      have hbefore : tip carried none rest = tip carried none init := by
        rw [← hprev, ← hprev', hprevious]
      rw [List.map_append, List.map_append, ih hrest hinit hbefore, List.map_singleton,
        List.map_singleton, hcontent]

end Caixinha.Library.HashChain
