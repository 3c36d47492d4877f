import Caixinha.Library.Fallible

/-! Two fallible computations that succeed together, with related results; which error a failed
one ends with does not matter. -/
namespace Caixinha.Library.Outcomes

open Fallible

variable {ε α α' β β' σ τ : Type}

/-- Each side succeeds where the other does, with results in `R`. -/
structure Matches (R : α → β → Prop) (x : Except ε α) (y : Except ε β) : Prop where
  right : ∀ a, x = .ok a → ∃ b, y = .ok b ∧ R a b
  left : ∀ b, y = .ok b → ∃ a, x = .ok a ∧ R a b

theorem Matches.ok {R : α → β → Prop} {a : α} {b : β} (h : R a b) :
    Matches R (.ok a : Except ε α) (.ok b) where
  right _ hc := ⟨b, rfl, Except.ok.inj hc ▸ h⟩
  left _ hc := ⟨a, rfl, Except.ok.inj hc ▸ h⟩

theorem Matches.refl (x : Except ε α) : Matches Eq x x where
  right a h := ⟨a, h, rfl⟩
  left a h := ⟨a, h, rfl⟩

theorem Matches.of_eq {x y : Except ε α} (h : x = y) : Matches Eq x y := h ▸ .refl x

theorem Matches.symm {R : α → β → Prop} {x : Except ε α} {y : Except ε β} (h : Matches R x y) :
    Matches (fun b a => R a b) y x := ⟨h.left, h.right⟩

/-- Two computations that both fail. -/
theorem Matches.failed {R : α → β → Prop} {x : Except ε α} {y : Except ε β}
    (hx : ∀ a, x ≠ .ok a) (hy : ∀ b, y ≠ .ok b) : Matches R x y :=
  ⟨fun a h => absurd h (hx a), fun b h => absurd h (hy b)⟩

theorem Matches.eq_ok_iff {x y : Except ε α} (h : Matches Eq x y) (a : α) :
    x = .ok a ↔ y = .ok a := by
  constructor
  · intro hx
    obtain ⟨b, hy, rfl⟩ := h.right a hx
    exact hy
  · intro hy
    obtain ⟨b, hx, rfl⟩ := h.left a hy
    exact hx

theorem Matches.bind {R : α → β → Prop} {S : α' → β' → Prop} {x : Except ε α} {y : Except ε β}
    {f : α → Except ε α'} {g : β → Except ε β'} (h : Matches R x y)
    (hfg : ∀ a b, R a b → Matches S (f a) (g b)) : Matches S (x >>= f) (y >>= g) where
  right c hc := by
    obtain ⟨a, ha, hc⟩ := bind_eq_ok.mp hc
    obtain ⟨b, hb, hR⟩ := h.right a ha
    obtain ⟨d, hd, hS⟩ := (hfg a b hR).right c hc
    exact ⟨d, bind_eq_ok.mpr ⟨b, hb, hd⟩, hS⟩
  left d hd := by
    obtain ⟨b, hb, hd⟩ := bind_eq_ok.mp hd
    obtain ⟨a, ha, hR⟩ := h.left b hb
    obtain ⟨c, hc, hS⟩ := (hfg a b hR).left d hd
    exact ⟨c, bind_eq_ok.mpr ⟨a, ha, hc⟩, hS⟩

theorem Matches.bind_eq {S : α' → β' → Prop} {x y : Except ε α} {f : α → Except ε α'}
    {g : α → Except ε β'} (h : Matches Eq x y) (hfg : ∀ a, Matches S (f a) (g a)) :
    Matches S (x >>= f) (y >>= g) :=
  h.bind fun a _ hab => hab ▸ hfg a

theorem Matches.map {R : α → β → Prop} {S : α' → β' → Prop} {x : Except ε α} {y : Except ε β}
    {f : α → α'} {g : β → β'} (h : Matches R x y) (hfg : ∀ a b, R a b → S (f a) (g b)) :
    Matches S (f <$> x) (g <$> y) where
  right c hc := by
    obtain ⟨a, ha, rfl⟩ := map_eq_ok.mp hc
    obtain ⟨b, hb, hR⟩ := h.right a ha
    exact ⟨g b, map_eq_ok.mpr ⟨b, hb, rfl⟩, hfg a b hR⟩
  left d hd := by
    obtain ⟨b, hb, rfl⟩ := map_eq_ok.mp hd
    obtain ⟨a, ha, hR⟩ := h.left b hb
    exact ⟨f a, map_eq_ok.mpr ⟨a, ha, rfl⟩, hfg a b hR⟩

/-- Related rows, each with outcomes that match, give matching lists. -/
theorem Matches.mapM {R : α → β → Prop} {f : α → Except ε α'} {g : β → Except ε α'}
    {xs : List α} {ys : List β} (h : List.Forall₂ R xs ys)
    (hfg : ∀ a b, R a b → Matches Eq (f a) (g b)) : Matches Eq (xs.mapM f) (ys.mapM g) := by
  induction h with
  | nil => exact .refl _
  | cons hhead _ ih =>
    rw [List.mapM_cons, List.mapM_cons]
    exact (hfg _ _ hhead).bind_eq fun _ => ih.bind_eq fun _ => .refl _

/-- Two runs over the same rows from related states. -/
theorem Matches.foldlM {R : σ → τ → Prop} {f : σ → α → Except ε σ} {g : τ → α → Except ε τ}
    (hstep : ∀ s t x, R s t → Matches R (f s x) (g t x)) (xs : List α) {s : σ} {t : τ} (h : R s t) :
    Matches R (xs.foldlM f s) (xs.foldlM g t) := by
  induction xs generalizing s t with
  | nil => exact .ok h
  | cons x xs ih =>
    rw [List.foldlM_cons, List.foldlM_cons]
    exact (hstep s t x h).bind fun _ _ hnext => ih hnext

end Caixinha.Library.Outcomes
