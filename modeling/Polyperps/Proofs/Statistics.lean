import Polyperps.Backtest.Stats

/-!
# What the drawdown is

The loop keeps a running peak. What it returns is the largest fall from an
earlier equity to a later one.
-/

namespace Polyperps

/-- What the loop knows of the part it has been through. -/
structure Drawn (l : List Decimal) (s : Option Decimal × Decimal) : Prop where
  peak : ∀ p, s.1 = some p → p ∈ l ∧ ∀ a ∈ l, a ≤ p
  started : s.1 = none → l = []
  nonneg : 0 ≤ s.2
  falls : l.Pairwise fun a b => a - b ≤ s.2
  reached : s.2 = 0 ∨ ∃ a b, [a, b].Sublist l ∧ s.2 = a - b

theorem Drawn.step {l : List Decimal} {s : Option Decimal × Decimal}
    (h : Drawn l s) (e : Decimal) : Drawn (l ++ [e]) (drawdownStep s e) := by
  obtain ⟨start, worst⟩ := s
  -- the peak once `e` is seen: `e` itself, or an earlier value above it
  obtain ⟨peak, hstep, hmem, hmax, hfrom⟩ : ∃ peak,
      drawdownStep (start, worst) e =
        (some peak, if worst < peak - e then peak - e else worst) ∧
      peak ∈ l ++ [e] ∧ (∀ a ∈ l ++ [e], a ≤ peak) ∧
        (peak = e ∨ peak ∈ l) := by
    cases start with
    | none =>
        refine ⟨e, rfl, by simp, fun a ha => ?_, Or.inl rfl⟩
        rw [h.started rfl, List.nil_append, List.mem_singleton] at ha
        exact ha.le
    | some p =>
        obtain ⟨hp, hle⟩ := h.peak p rfl
        by_cases hlt : p < e
        · refine ⟨e, by simp [drawdownStep, hlt], by simp, fun a ha => ?_,
            Or.inl rfl⟩
          rcases List.mem_append.mp ha with ha | ha
          · exact (hle a ha).trans hlt.le
          · exact (List.mem_singleton.mp ha).le
        · refine ⟨p, by simp [drawdownStep, hlt], by simp [hp],
            fun a ha => ?_, Or.inr hp⟩
          rcases List.mem_append.mp ha with ha | ha
          · exact hle a ha
          · rw [List.mem_singleton.mp ha]
            exact not_lt.mp hlt
  rw [hstep]
  have hworst : worst ≤ if worst < peak - e then peak - e else worst := by
    split
    · next hlt => exact hlt.le
    · exact le_rfl
  have hfall : peak - e ≤ if worst < peak - e then peak - e else worst := by
    split
    · exact le_rfl
    · next hlt => exact not_lt.mp hlt
  refine ⟨fun p hp => ?_, fun hnone => (by cases hnone),
    h.nonneg.trans hworst,
    List.pairwise_append.mpr ⟨h.falls.imp fun hab => hab.trans hworst,
      List.pairwise_singleton .., fun a ha b hb => ?_⟩, ?_⟩
  · rw [← Option.some.inj hp]
    exact ⟨hmem, hmax⟩
  · rw [List.mem_singleton.mp hb]
    exact (sub_le_sub_right (hmax a (List.mem_append_left _ ha)) e).trans hfall
  · dsimp only
    split
    · next hlt =>
      -- a fall of some height is one from an earlier value
      rcases hfrom with rfl | hpeak
      · rw [sub_self] at hlt
        exact absurd hlt (not_lt.mpr h.nonneg)
      · refine Or.inr ⟨peak, e, ?_, rfl⟩
        exact (List.singleton_sublist.mpr hpeak).append (List.Sublist.refl [e])
    · rcases h.reached with hzero | ⟨a, b, hsub, heq⟩
      · exact Or.inl hzero
      · exact Or.inr ⟨a, b, hsub.trans (List.sublist_append_left l [e]), heq⟩

theorem drawn_foldl (l : List Decimal) :
    Drawn l (l.foldl drawdownStep (none, 0)) := by
  induction l using List.reverseRecOn with
  | nil =>
      exact ⟨fun p hp => (by cases hp), fun _ => rfl, le_rfl, List.Pairwise.nil,
        Or.inl rfl⟩
  | append_singleton l e ih =>
      rw [List.foldl_append]
      exact ih.step e

end Polyperps
