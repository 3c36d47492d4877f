import Mathlib.Data.List.Infix
import Mathlib.Tactic.Choose

/-! Runs as folds over a list of steps: what every state of a run satisfies. -/
namespace Caixinha.Library.Runs

variable {σ α : Type} {next : σ → α → σ} {I P : σ → Prop} {C : σ → α → Prop} {s : σ}

/-- An invariant of every step holds at the end of the run. -/
theorem foldl_invariant (hstep : ∀ s a, I s → I (next s a)) (hs : I s) (steps : List α) :
    I (steps.foldl next s) := by
  induction steps generalizing s with
  | nil => exact hs
  | cons a steps ih => exact ih (hstep s a hs)

/-- What the steps a run may take keep holds from any state of the run on. -/
theorem foldl_prefix_keep {Q : σ → α → Prop} (hstep : ∀ s a, Q s a → I s → I (next s a))
    {steps : List α} (hQ : ∀ done a, done ++ [a] <+: steps → Q (done.foldl next s) a)
    (done more : List α) (hsteps : done ++ more <+: steps) (h : I (done.foldl next s)) :
    I ((done ++ more).foldl next s) := by
  induction more generalizing done with
  | nil =>
    rw [List.append_nil]
    exact h
  | cons a more ih =>
    have hassoc : done ++ a :: more = done ++ [a] ++ more := by simp
    rw [hassoc] at hsteps ⊢
    refine ih (done ++ [a]) hsteps ?_
    rw [List.foldl_append]
    exact hstep _ a (hQ done a ((List.prefix_append _ _).trans hsteps)) h

/-- When the steps a run may take keep the property exactly when they meet a condition, a run of such
steps has the property in every state exactly when every step of it meets the condition. -/
theorem foldl_prefix_iff_of {Q : σ → α → Prop} (hinvariant : ∀ s a, I s → Q s a → I (next s a))
    (hstep : ∀ s a, I s → Q s a → P s → (P (next s a) ↔ C s a)) (hI : I s) (hP : P s) (steps : List α)
    (hQ : ∀ done a, done ++ [a] <+: steps → Q (done.foldl next s) a) :
    (∀ done, done <+: steps → P (done.foldl next s)) ↔
      ∀ done a, done ++ [a] <+: steps → C (done.foldl next s) a := by
  induction steps generalizing s with
  | nil =>
    constructor
    · intro _ done a hsteps
      simp at hsteps
    · intro _ done hsteps
      rw [List.prefix_nil.mp hsteps]
      exact hP
  | cons b steps ih =>
    have hQb : Q s b := hQ [] b (by simp)
    have hrestQ : ∀ done a, done ++ [a] <+: steps → Q (done.foldl next (next s b)) a :=
      fun done a hmore => hQ (b :: done) a (List.cons_prefix_cons.mpr ⟨rfl, hmore⟩)
    constructor
    · intro hall done a hsteps
      have hfirst : P (next s b) := hall [b] (by simp)
      have hrest := (ih (hinvariant s b hI hQb) hfirst hrestQ).mp fun more hmore =>
        hall (b :: more) (List.cons_prefix_cons.mpr ⟨rfl, hmore⟩)
      cases done with
      | nil =>
        obtain ⟨rfl, -⟩ := List.cons_prefix_cons.mp hsteps
        exact (hstep s a hI hQb hP).mp hfirst
      | cons c done =>
        obtain ⟨rfl, htail⟩ := List.cons_prefix_cons.mp hsteps
        exact hrest done a htail
    · intro hall done hsteps
      have hfirst : P (next s b) := (hstep s b hI hQb hP).mpr (hall [] b (by simp))
      have hrest := (ih (hinvariant s b hI hQb) hfirst hrestQ).mpr fun more a hmore =>
        hall (b :: more) a (List.cons_prefix_cons.mpr ⟨rfl, hmore⟩)
      cases done with
      | nil => exact hP
      | cons c done =>
        obtain ⟨rfl, htail⟩ := List.cons_prefix_cons.mp hsteps
        exact hrest done htail

/-- The same for runs of any steps. -/
theorem foldl_prefix_iff (hinvariant : ∀ s a, I s → I (next s a))
    (hstep : ∀ s a, I s → P s → (P (next s a) ↔ C s a)) (hI : I s) (hP : P s) (steps : List α) :
    (∀ done, done <+: steps → P (done.foldl next s)) ↔
      ∀ done a, done ++ [a] <+: steps → C (done.foldl next s) a := by
  refine foldl_prefix_iff_of (fun s a hI _ => hinvariant s a hI) (fun s a hI _ => hstep s a hI) hI hP
    steps (Q := fun _ _ => True) ?_
  exact fun _ _ _ => trivial

/-- A run whose turns lower a measure from some turn on comes to its end. -/
theorem eventually_none_of_descent {running : Nat → Option σ} (measure : σ → Nat) {start : Nat}
    (hstep : ∀ n s t, start ≤ n → running n = some s → running (n + 1) = some t → measure t < measure s) :
    ∃ n, running n = none := by
  by_contra hall
  have hsome : ∀ n, ∃ s, running n = some s := fun n =>
    Option.ne_none_iff_exists'.mp fun hnone => hall ⟨n, hnone⟩
  choose state hstate using hsome
  have hfall : ∀ i, measure (state (start + i)) + i ≤ measure (state start) := by
    intro i
    induction i with
    | zero => exact le_rfl
    | succ i ih =>
      have hlt := hstep (start + i) _ _ (Nat.le_add_right start i) (hstate _) (hstate (start + i + 1))
      rw [Nat.add_assoc] at hlt
      omega
  have := hfall (measure (state start) + 1)
  omega

end Caixinha.Library.Runs
