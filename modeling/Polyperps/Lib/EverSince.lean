import Mathlib

/-!
# Ever since

`EverSince P Q l`: somewhere in the list `P` held, and `Q` of everything after.
A fold is at a value exactly since an element that sets it, where the elements
after it keep it: so a state that is set and reset can be read off the list.
-/

namespace Temporal

variable {α σ β : Type} {P Q : α → Prop} {l : List α} {x : α}

/-- `P` of an element, `Q` of all after it. -/
def EverSince (P Q : α → Prop) (l : List α) : Prop :=
  ∃ before x after, l = before ++ x :: after ∧ P x ∧ ∀ y ∈ after, Q y

theorem not_everSince_nil : ¬EverSince P Q [] := by
  rintro ⟨before, x, after, h, _⟩
  cases before <;> cases h

/-- The last element decides, or keeps what was. -/
theorem everSince_append_singleton :
    EverSince P Q (l ++ [x]) ↔ P x ∨ (EverSince P Q l ∧ Q x) := by
  constructor
  · rintro ⟨before, y, after, h, hy, hafter⟩
    rcases List.eq_nil_or_concat after with rfl | ⟨after, z, rfl⟩
    · obtain ⟨_, heq⟩ := List.append_inj' h rfl
      rw [List.cons.inj heq |>.1]
      exact Or.inl hy
    · rw [List.concat_eq_append] at h hafter
      have hsplit : l ++ [x] = (before ++ y :: after) ++ [z] := by
        rw [h, List.append_assoc, List.cons_append]
      obtain ⟨hl, heq⟩ := List.append_inj' hsplit rfl
      refine Or.inr ⟨⟨before, y, after, hl, hy, fun w hw => hafter w ?_⟩, ?_⟩
      · exact List.mem_append_left _ hw
      · rw [List.cons.inj heq |>.1]
        exact hafter z (List.mem_append_right _ (List.mem_singleton_self z))
  · rintro (hx | ⟨⟨before, y, after, rfl, hy, hafter⟩, hx⟩)
    · exact ⟨l, x, [], rfl, hx, by simp⟩
    · refine ⟨before, y, after ++ [x], by simp, hy, fun w hw => ?_⟩
      rcases List.mem_append.mp hw with hw | hw
      · exact hafter w hw
      · rw [List.mem_singleton.mp hw]
        exact hx

/-- Where an element makes it so or leaves it so, the fold is so since one
that made it, or from the start. -/
theorem foldl_iff_everSince {act : σ → α → σ} {view : σ → β} {b : β}
    (h : ∀ s x, view (act s x) = b ↔ P x ∨ (view s = b ∧ Q x)) (s : σ)
    (l : List α) :
    view (l.foldl act s) = b ↔
      EverSince P Q l ∨ (view s = b ∧ ∀ x ∈ l, Q x) := by
  induction l using List.reverseRecOn with
  | nil =>
      simp only [List.foldl_nil, List.not_mem_nil, false_imp_iff, implies_true,
        and_true, not_everSince_nil, false_or]
  | append_singleton l x ih =>
      rw [List.foldl_append, List.foldl_cons, List.foldl_nil, h, ih,
        everSince_append_singleton, List.forall_mem_append,
        List.forall_mem_singleton]
      tauto

end Temporal
