import Mathlib

/-!
# Slices counted from the end

What `xs[-n:]` selects and `del xs[:-n]` leaves. For `n = 0` the bound is `-0`,
which is `0`: everything is selected and nothing deleted.
-/

namespace Slices

def keepLast {α : Type} (n : ℕ) (l : List α) : List α :=
  if n = 0 then l else l.drop (l.length - n)

variable {α : Type} {n : ℕ} {l l₁ l₂ : List α}

theorem keepLast_eq_drop : ∃ k, keepLast n l = l.drop k := by
  unfold keepLast
  split
  · exact ⟨0, rfl⟩
  · exact ⟨_, rfl⟩

theorem keepLast_suffix : keepLast n l <:+ l := by
  obtain ⟨k, hk⟩ := keepLast_eq_drop (n := n) (l := l)
  rw [hk]
  exact List.drop_suffix k l

/-- What is kept of two lists is a tail of the first, then one of the
second. -/
theorem keepLast_append (n : ℕ) (l₁ l₂ : List α) :
    ∃ r₁ r₂, keepLast n (l₁ ++ l₂) = r₁ ++ r₂ ∧ r₁ <:+ l₁ ∧ r₂ <:+ l₂ := by
  obtain ⟨k, hk⟩ := keepLast_eq_drop (n := n) (l := l₁ ++ l₂)
  refine ⟨l₁.drop k, l₂.drop (k - l₁.length), ?_, List.drop_suffix _ _,
    List.drop_suffix _ _⟩
  rw [hk, List.drop_append]

end Slices
