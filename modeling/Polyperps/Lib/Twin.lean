import Polyperps.Lib.Prog

/-!
# Two runs side by side

`Twin R A m m' s t` runs two programs from two states and compares: both
return, with results related by `A`, or both raise the same exception, and the
states they leave are related by `R`. The rules take two programs apart
together, so a relation that every pair of steps keeps is kept by two whole
runs: a bisimulation, or a statement about two inputs.
-/

namespace ProgramLogic

namespace Prog

variable {ε σ τ α β α' β' ι : Type}

def Twin (R : σ → τ → Prop) (A : α → β → Prop) (m : Prog ε σ α)
    (m' : Prog ε τ β) (s : σ) (t : τ) : Prop :=
  wp m
    (fun a s' => wp m' (fun b t' => A a b ∧ R s' t') (fun _ _ => False) t)
    (fun e s' => wp m' (fun _ _ => False) (fun e' t' => e = e' ∧ R s' t') t) s

variable {R : σ → τ → Prop} {A : α → β → Prop} {s : σ} {t : τ}

theorem Twin.pure {a : α} {b : β} (ha : A a b) (h : R s t) :
    Twin R A (Pure.pure a : Prog ε σ α) (Pure.pure b : Prog ε τ β) s t :=
  ⟨ha, h⟩

theorem Twin.raise {e : ε} (h : R s t) :
    Twin R A (Prog.raise e : Prog ε σ α) (Prog.raise e : Prog ε τ β) s t :=
  ⟨rfl, h⟩

/-- The first parts may keep a stronger relation than the whole does. -/
theorem Twin.bind_of {R' : σ → τ → Prop} {m : Prog ε σ α} {m' : Prog ε τ β}
    {f : α → Prog ε σ α'} {f' : β → Prog ε τ β'} {B : α' → β' → Prop}
    (hm : Twin R' A m m' s t) (hR : ∀ s' t', R' s' t' → R s' t')
    (hf : ∀ a b s' t', A a b → R' s' t' → Twin R B (f a) (f' b) s' t') :
    Twin R B (m >>= f) (m' >>= f') s t := by
  unfold Twin at hm ⊢
  rw [wp_bind]
  refine wp_mono hm (fun a s' h => ?_) (fun e s' h => ?_)
  · unfold wp at h
    split at h
    · next b t' heq =>
        have hb := hf a b s' t' h.1 h.2
        simp only [Twin, wp_bind, wp_of_ok heq] at hb ⊢
        exact hb
    · exact h.elim
  · rw [wp_bind]
    exact wp_mono h (fun _ _ hf => hf.elim) (fun _ _ he => ⟨he.1, hR _ _ he.2⟩)

theorem Twin.bind {m : Prog ε σ α} {m' : Prog ε τ β} {f : α → Prog ε σ α'}
    {f' : β → Prog ε τ β'} {B : α' → β' → Prop} (hm : Twin R A m m' s t)
    (hf : ∀ a b s' t', A a b → R s' t' → Twin R B (f a) (f' b) s' t') :
    Twin R B (m >>= f) (m' >>= f') s t :=
  Twin.bind_of hm (fun _ _ h => h) hf

theorem Twin.get_bind {f : σ → Prog ε σ α} {f' : τ → Prog ε τ β}
    (h : Twin R A (f s) (f' t) s t) :
    Twin R A (Prog.get >>= f) (Prog.get >>= f') s t := h

theorem Twin.modify {f : σ → σ} {f' : τ → τ} (h : R (f s) (f' t)) :
    Twin R Eq (Prog.modify f : Prog ε σ Unit) (Prog.modify f') s t := ⟨rfl, h⟩

theorem Twin.modify_bind {g : σ → σ} {g' : τ → τ} {f : Unit → Prog ε σ α}
    {f' : Unit → Prog ε τ β} (h : Twin R A (f ()) (f' ()) (g s) (g' t)) :
    Twin R A (Prog.modify g >>= f) (Prog.modify g' >>= f') s t := h

theorem Twin.ofExcept_bind {x : Except ε ι} {f : ι → Prog ε σ α}
    {f' : ι → Prog ε τ β} (hr : R s t)
    (h : ∀ a, x = .ok a → Twin R A (f a) (f' a) s t) :
    Twin R A (Prog.ofExcept x >>= f) (Prog.ofExcept x >>= f') s t := by
  cases x with
  | ok a => exact h a rfl
  | error e => exact ⟨rfl, hr⟩

theorem Twin.ofExcept {x : Except ε α} (h : R s t) :
    Twin R Eq (Prog.ofExcept x) (Prog.ofExcept x) s t := by
  cases x with
  | ok a => exact ⟨rfl, h⟩
  | error e => exact ⟨rfl, h⟩

theorem Twin.mono {A' : α → β → Prop} {m : Prog ε σ α} {m' : Prog ε τ β}
    (h : Twin R A m m' s t) (hA : ∀ a b, A a b → A' a b) :
    Twin R A' m m' s t :=
  wp_mono h (fun _ _ h => wp_mono h (fun _ _ h => ⟨hA _ _ h.1, h.2⟩)
    (fun _ _ h => h)) (fun _ _ h => h)

/-- The states two runs leave are related. -/
theorem Twin.state {m : Prog ε σ α} {m' : Prog ε τ β} (h : Twin R A m m' s t) :
    R (m s).2 (m' t).2 := by
  unfold Twin at h
  refine (wp_state (P := fun s' => R s' (m' t).2)).mp (wp_mono h
    (fun a s' h => ?_) (fun e s' h => ?_))
  · exact wp_state.mp (wp_mono h (fun _ _ h => h.2) (fun _ _ h => h.elim))
  · exact wp_state.mp (wp_mono h (fun _ _ h => h.elim) (fun _ _ h => h.2))

/-- What two runs end with: related results, or one exception. -/
theorem Twin.outcome {m : Prog ε σ α} {m' : Prog ε τ β}
    (h : Twin R A m m' s t) :
    (∃ a b, (m s).1 = .ok a ∧ (m' t).1 = .ok b ∧ A a b) ∨
      ∃ e, (m s).1 = .error e ∧ (m' t).1 = .error e := by
  unfold Twin wp at h
  split at h
  · next a s' heq =>
      split at h
      · next b t' heq' =>
          exact Or.inl ⟨a, b, by rw [heq], by rw [heq'], h.1⟩
      · exact h.elim
  · next e s' heq =>
      split at h
      · exact h.elim
      · next e' t' heq' =>
          exact Or.inr ⟨e, by rw [heq], by rw [heq', ← h.1]⟩

end Prog

end ProgramLogic
