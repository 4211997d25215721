import Mathlib

/-!
# Neighbours in a sorted list

The pairs `l.zip l.tail` of a sorted list are intervals without an element
inside, one after the other, and every interval between the ends of the list
that has no element inside lies in one of them.
-/

namespace Neighbours

section

variable {α : Type} {l : List α} {a b : α}

@[simp] theorem zip_tail_cons_cons :
    (a :: b :: l).zip (a :: b :: l).tail =
      (a, b) :: (b :: l).zip (b :: l).tail := rfl

/-- One more element at either end. -/
theorem zip_tail_ends (hne : l ≠ []) :
    (a :: (l ++ [b])).zip (a :: (l ++ [b])).tail =
      (a, l.head hne) :: (l.zip l.tail ++ [(l.getLast hne, b)]) := by
  have hlast : ∀ (l : List α) (hne : l ≠ []),
      (l ++ [b]).zip (l ++ [b]).tail =
        l.zip l.tail ++ [(l.getLast hne, b)] := by
    intro l
    induction l with
    | nil => intro hne; exact absurd rfl hne
    | cons x l ih =>
        intro _
        cases l with
        | nil => rfl
        | cons y l =>
            have ih := ih (List.cons_ne_nil y l)
            simp only [List.cons_append] at ih ⊢
            rw [zip_tail_cons_cons, zip_tail_cons_cons, ih,
              List.getLast_cons (List.cons_ne_nil y l), List.cons_append]
  cases l with
  | nil => exact absurd rfl hne
  | cons x l =>
      rw [List.cons_append, zip_tail_cons_cons, ← List.cons_append,
        hlast (x :: l) hne, List.head_cons]

theorem mem_of_mem_zip_tail {x : α × α} (h : x ∈ l.zip l.tail) :
    x.1 ∈ l ∧ x.2 ∈ l :=
  ⟨(List.of_mem_zip h).1, List.mem_of_mem_tail (List.of_mem_zip h).2⟩

end

variable {α : Type} [LinearOrder α] {l : List α} {a b : α}

/-- A later pair begins where an earlier one ends, or after. -/
theorem pairwise_zip_tail (hl : l.Pairwise (· ≤ ·)) :
    (l.zip l.tail).Pairwise fun x y => x.2 ≤ y.1 := by
  induction l with
  | nil => exact .nil
  | cons a l ih =>
      obtain ⟨_, hl⟩ := List.pairwise_cons.mp hl
      cases l with
      | nil => exact .nil
      | cons b l =>
          rw [zip_tail_cons_cons]
          refine List.pairwise_cons.mpr ⟨fun y hy => ?_, ih hl⟩
          obtain ⟨hb, _⟩ := List.pairwise_cons.mp hl
          rcases List.mem_cons.mp (mem_of_mem_zip_tail hy).1 with h | h
          · exact h.ge
          · exact hb _ h

/-- No element is inside a pair. -/
theorem outside_zip_tail (hl : l.Pairwise (· ≤ ·)) {x : α × α}
    (hx : x ∈ l.zip l.tail) : ∀ t ∈ l, t ≤ x.1 ∨ x.2 ≤ t := by
  induction l with
  | nil => intro t ht; cases ht
  | cons a l ih =>
      obtain ⟨ha, hl⟩ := List.pairwise_cons.mp hl
      cases l with
      | nil => cases hx
      | cons b l =>
          intro t ht
          rw [zip_tail_cons_cons] at hx
          rcases List.mem_cons.mp hx with rfl | hlater
          · rcases List.mem_cons.mp ht with rfl | ht
            · exact Or.inl le_rfl
            · rcases List.mem_cons.mp ht with rfl | ht
              · exact Or.inr le_rfl
              · exact Or.inr ((List.pairwise_cons.mp hl).1 t ht)
          · rcases List.mem_cons.mp ht with rfl | ht
            · exact Or.inl (ha _ (mem_of_mem_zip_tail hlater).1)
            · exact ih hl hlater t ht

theorem le_of_mem_zip_tail (hl : l.Pairwise (· ≤ ·)) {x : α × α}
    (hx : x ∈ l.zip l.tail) : x.1 ≤ x.2 := by
  induction l with
  | nil => cases hx
  | cons a l ih =>
      obtain ⟨ha, hl⟩ := List.pairwise_cons.mp hl
      cases l with
      | nil => cases hx
      | cons b l =>
          rw [zip_tail_cons_cons] at hx
          rcases List.mem_cons.mp hx with rfl | hlater
          · exact ha b (List.mem_cons_self ..)
          · exact ih hl hlater

/-- Two elements with none strictly between them are a pair. -/
theorem mem_zip_tail_of_free (hl : l.Pairwise (· ≤ ·)) (ha : a ∈ l)
    (hb : b ∈ l) (hab : a < b) (hfree : ∀ t ∈ l, ¬(a < t ∧ t < b)) :
    (a, b) ∈ l.zip l.tail := by
  induction l with
  | nil => cases ha
  | cons c l ih =>
      obtain ⟨hc, hrest⟩ := List.pairwise_cons.mp hl
      have hbl : b ∈ l := by
        rcases List.mem_cons.mp hb with rfl | hb
        · rcases List.mem_cons.mp ha with rfl | ha
          · exact absurd hab (lt_irrefl _)
          · exact absurd (hc a ha) (not_le.mpr hab)
        · exact hb
      cases l with
      | nil => cases hbl
      | cons d l =>
          rw [zip_tail_cons_cons]
          have hlater : a ∈ d :: l → (a, b) ∈ (d :: l).zip (d :: l).tail :=
            fun ha => ih hrest ha hbl fun t ht =>
              hfree t (List.mem_cons_of_mem c ht)
          rcases List.mem_cons.mp ha with rfl | ha
          swap
          · exact List.mem_cons_of_mem _ (hlater ha)
          rcases (hc d (List.mem_cons_self ..)).eq_or_lt with rfl | had
          · exact List.mem_cons_of_mem _ (hlater (List.mem_cons_self ..))
          · -- the next element is above `a`, so it is `b`
            have hbd : b ≤ d :=
              not_lt.mp fun hdb => hfree d (by simp) ⟨had, hdb⟩
            have hdb : d ≤ b := by
              rcases List.mem_cons.mp hbl with rfl | hb
              · exact le_rfl
              · exact (List.pairwise_cons.mp hrest).1 b hb
            rw [le_antisymm hbd hdb]
            exact List.mem_cons_self ..

/-- An interval between the ends with no element inside lies in a pair. -/
theorem exists_zip_tail (hne : l ≠ []) {u v : α} (huv : u < v)
    (hu : l.head hne ≤ u) (hv : v ≤ l.getLast hne)
    (hfree : ∀ t ∈ l, ¬(u < t ∧ t < v)) :
    ∃ x ∈ l.zip l.tail, x.1 ≤ u ∧ v ≤ x.2 := by
  induction l with
  | nil => exact absurd rfl hne
  | cons a l ih =>
      cases l with
      | nil => exact absurd (hu.trans_lt huv) (not_lt.mpr hv)
      | cons b l =>
          by_cases hb : b ≤ u
          · -- the interval is past the first pair
            obtain ⟨x, hx, hin⟩ := ih (List.cons_ne_nil b l) hb
              (by rwa [List.getLast_cons (List.cons_ne_nil b l)] at hv)
              fun t ht => hfree t (List.mem_cons_of_mem a ht)
            exact ⟨x, List.mem_cons_of_mem _ hx, hin⟩
          · refine ⟨(a, b), List.mem_cons_self .., hu, ?_⟩
            have hbfree := hfree b (by simp)
            exact not_lt.mp fun hbv => hbfree ⟨not_le.mp hb, hbv⟩

end Neighbours
