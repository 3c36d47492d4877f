import Mathlib.Data.List.Forall2

/-! Sequences of fallible steps: what a successful sequence went through, what it preserves,
and which errors it cannot end with. -/
namespace Caixinha.Library.Fallible

variable {ε α β σ : Type}

/-- What a successful sequence of two steps went through. -/
@[simp] theorem bind_eq_ok {x : Except ε α} {f : α → Except ε β} {r : β} :
    (x >>= f) = .ok r ↔ ∃ a, x = .ok a ∧ f a = .ok r := by
  cases x <;> simp [bind, Except.bind]

theorem ok_bind (a : α) (f : α → Except ε β) : (Except.ok a >>= f) = f a := rfl

@[simp] theorem pure_eq_ok {a r : α} : (pure a : Except ε α) = .ok r ↔ a = r := by
  simp [pure, Except.pure]

theorem map_eq_ok {x : Except ε α} {f : α → β} {r : β} : f <$> x = .ok r ↔ ∃ a, x = .ok a ∧ f a = r := by
  cases x <;> simp [Functor.map, Except.map]

@[simp] theorem throw_eq_ok {e : ε} {r : α} : (throw e : Except ε α) = .ok r ↔ False := by
  simp [throw, throwThe, MonadExceptOf.throw]

theorem forall₂_of_mapM {f : α → Except ε β} {xs : List α} {ys : List β}
    (h : xs.mapM f = .ok ys) : List.Forall₂ (fun x y => f x = .ok y) xs ys := by
  induction xs generalizing ys with
  | nil =>
    rw [List.mapM_nil, pure_eq_ok] at h
    subst h
    exact .nil
  | cons x xs ih =>
    simp only [List.mapM_cons, bind_eq_ok, pure_eq_ok] at h
    obtain ⟨y, hy, rest, hrest, rfl⟩ := h
    exact .cons hy (ih hrest)

theorem mapM_eq_ok_iff {f : α → Except ε β} {xs : List α} {ys : List β} :
    xs.mapM f = .ok ys ↔ List.Forall₂ (fun x y => f x = .ok y) xs ys := by
  refine ⟨forall₂_of_mapM, fun h => ?_⟩
  induction h with
  | nil => rfl
  | cons hhead _ ih => rw [List.mapM_cons, hhead, ok_bind, ih, ok_bind, pure_eq_ok]

/-- A loop of checks passes when every check does. -/
theorem forM_eq_ok {f : α → Except ε Unit} {xs : List α} {u : Unit} :
    xs.forM f = .ok u ↔ ∀ x ∈ xs, f x = .ok () := by
  induction xs with
  | nil => simp [pure, Except.pure]
  | cons x xs ih =>
    change (f x >>= fun _ => xs.forM f) = .ok u ↔ _
    rw [bind_eq_ok, List.forall_mem_cons]
    constructor
    · rintro ⟨⟨⟩, hx, hrest⟩
      exact ⟨hx, ih.mp hrest⟩
    · rintro ⟨hx, hrest⟩
      exact ⟨⟨⟩, hx, ih.mpr hrest⟩

theorem exists_of_mem_mapM {f : α → Except ε β} {xs : List α} {ys : List β}
    (h : xs.mapM f = .ok ys) {y : β} (hy : y ∈ ys) : ∃ x ∈ xs, f x = .ok y := by
  have hall := forall₂_of_mapM h
  clear h
  induction hall with
  | nil => simp at hy
  | cons hhead _ ih =>
    rcases List.mem_cons.mp hy with rfl | htail
    · exact ⟨_, List.mem_cons_self .., hhead⟩
    · obtain ⟨x, hx, hok⟩ := ih htail
      exact ⟨x, List.mem_cons_of_mem _ hx, hok⟩

/-- A whole pass fails exactly when one of its steps does. -/
theorem mapM_error_iff {f : α → Except ε β} {xs : List α} :
    (∃ e, xs.mapM f = .error e) ↔ ∃ x ∈ xs, ∃ e, f x = .error e := by
  induction xs with
  | nil => simp [List.mapM_nil, pure, Except.pure]
  | cons x xs ih =>
    rw [List.mapM_cons]
    cases hx : f x with
    | error e => exact ⟨fun _ => ⟨x, List.mem_cons_self .., e, hx⟩, fun _ => ⟨e, rfl⟩⟩
    | ok y =>
      have hrest : (∃ e, (Except.ok y >>= fun y => xs.mapM f >>= fun ys => pure (y :: ys)) = .error e) ↔
          ∃ e, xs.mapM f = .error e := by
        rw [ok_bind]
        cases xs.mapM f <;> simp [bind, Except.bind, pure, Except.pure]
      rw [hrest, ih]
      simp [hx]

/-- A value each step copies from its input is copied along the whole list. -/
theorem map_eq_of_mapM {γ : Type} {f : α → Except ε β} (before : α → γ) (after : β → γ)
    {xs : List α} {ys : List β} (h : xs.mapM f = .ok ys)
    (hcopy : ∀ x y, f x = .ok y → after y = before x) : ys.map after = xs.map before := by
  have hall := forall₂_of_mapM h
  clear h
  induction hall with
  | nil => rfl
  | cons hhead _ ih => rw [List.map_cons, List.map_cons, ih, hcopy _ _ hhead]

/-- A selection whose tests all succeed is the selection by their answers. -/
theorem filterM_eq_ok {p : α → Except ε Bool} {q : α → Bool} {xs : List α}
    (h : ∀ x ∈ xs, p x = .ok (q x)) : xs.filterM p = .ok (xs.filter q) := by
  have haux : ∀ taken, List.filterAuxM p xs taken = .ok ((xs.filter q).reverse ++ taken) := by
    induction xs with
    | nil => intro taken; rfl
    | cons x xs ih =>
      intro taken
      rw [List.filterAuxM, h x (List.mem_cons_self ..), ok_bind,
        ih fun y hy => h y (List.mem_cons_of_mem _ hy)]
      cases hq : q x <;> simp [hq]
  rw [List.filterM, haux, ok_bind, List.append_nil]
  exact congrArg Except.ok (List.reverse_reverse _)

/-- An invariant of every step is an invariant of the run. -/
theorem foldlM_invariant_mem {f : σ → α → Except ε σ} {xs : List α} {s t : σ} (I : σ → Prop)
    (hstep : ∀ s x t, x ∈ xs → I s → f s x = .ok t → I t) (hs : I s) (h : xs.foldlM f s = .ok t) :
    I t := by
  induction xs generalizing s with
  | nil =>
    rw [List.foldlM_nil, pure_eq_ok] at h
    exact h ▸ hs
  | cons x xs ih =>
    rw [List.foldlM_cons, bind_eq_ok] at h
    obtain ⟨next, hnext, hrest⟩ := h
    exact ih (fun s y t hy => hstep s y t (List.mem_cons_of_mem _ hy))
      (hstep s x next (List.mem_cons_self ..) hs hnext) hrest

theorem foldlM_invariant {f : σ → α → Except ε σ} {xs : List α} {s t : σ} (I : σ → Prop)
    (hstep : ∀ s x t, I s → f s x = .ok t → I t) (hs : I s) (h : xs.foldlM f s = .ok t) : I t :=
  foldlM_invariant_mem I (fun s x t _ => hstep s x t) hs h

/-- `x` never ends with an error of the kind `E`. -/
def Avoids (E : ε → Prop) (x : Except ε α) : Prop := ∀ e, x = .error e → ¬ E e

section Avoids
variable {E : ε → Prop}

@[simp] theorem avoids_ok (a : α) : Avoids E (.ok a : Except ε α) := fun e h => by cases h

@[simp] theorem avoids_pure (a : α) : Avoids E (pure a : Except ε α) := avoids_ok a

@[simp] theorem avoids_error (e : ε) : Avoids E (.error e : Except ε α) ↔ ¬ E e := by
  simp [Avoids]

theorem avoids_bind {x : Except ε α} {f : α → Except ε β} (hx : Avoids E x)
    (hf : ∀ a, x = .ok a → Avoids E (f a)) : Avoids E (x >>= f) := by
  cases x with
  | error e => exact fun e' h => hx e' (by simpa [bind, Except.bind] using h)
  | ok a => exact hf a rfl

theorem avoids_mapM {f : α → Except ε β} (hf : ∀ a, Avoids E (f a)) (xs : List α) :
    Avoids E (xs.mapM f) := by
  induction xs with
  | nil => simp
  | cons x xs ih =>
    rw [List.mapM_cons]
    exact avoids_bind (hf x) fun _ _ => avoids_bind ih fun _ _ => avoids_pure _

theorem avoids_forM {f : α → Except ε PUnit} {xs : List α} (hf : ∀ a ∈ xs, Avoids E (f a)) :
    Avoids E (xs.forM f) := by
  induction xs with
  | nil => exact avoids_pure _
  | cons x xs ih =>
    change Avoids E (f x >>= fun _ => xs.forM f)
    exact avoids_bind (hf x (List.mem_cons_self ..)) fun _ _ =>
      ih fun a ha => hf a (List.mem_cons_of_mem _ ha)

theorem avoids_foldlM {f : σ → α → Except ε σ} (hf : ∀ s a, Avoids E (f s a)) (xs : List α) (s : σ) :
    Avoids E (xs.foldlM f s) := by
  induction xs generalizing s with
  | nil => simp
  | cons x xs ih =>
    rw [List.foldlM_cons]
    exact avoids_bind (hf s x) fun next _ => ih next

/-- A loop avoids an error when each step does in the states its invariant allows. -/
theorem avoids_foldlM_invariant {f : σ → α → Except ε σ} {xs : List α} {s : σ} (I : σ → Prop)
    (hstep : ∀ s x t, x ∈ xs → I s → f s x = .ok t → I t)
    (hf : ∀ s x, x ∈ xs → I s → Avoids E (f s x)) (hs : I s) : Avoids E (xs.foldlM f s) := by
  induction xs generalizing s with
  | nil => simp
  | cons x xs ih =>
    rw [List.foldlM_cons]
    refine avoids_bind (hf s x (List.mem_cons_self ..) hs) fun next hnext => ?_
    exact ih (fun s y t hy => hstep s y t (List.mem_cons_of_mem _ hy))
      (fun s y hy => hf s y (List.mem_cons_of_mem _ hy))
      (hstep s x next (List.mem_cons_self ..) hs hnext)

end Avoids

end Caixinha.Library.Fallible
