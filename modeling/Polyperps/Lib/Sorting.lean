import Mathlib

/-!
# Sorting and leaving out

Insertion sort keeps equal elements in their order, so it does not matter
whether elements are left out before it or after.
-/

namespace StableSort

variable {α : Type} {r : α → α → Prop} [DecidableRel r] [IsTrans α r]
  {a : α} {l : List α} {p : α → Bool}

/-- An element goes in before the first one that may follow it, whether or not
others are left out. -/
theorem filter_orderedInsert (hl : l.Pairwise r) :
    (l.orderedInsert r a).filter p =
      if p a then (l.filter p).orderedInsert r a else l.filter p := by
  induction l with
  | nil => simp [List.filter_cons]
  | cons b l ih =>
      obtain ⟨hb, hl⟩ := List.pairwise_cons.mp hl
      have ih := ih hl
      by_cases hab : r a b
      · -- all that follows `b` may follow `a`, too
        have hbefore : ∀ c ∈ (b :: l).filter p, r a c := by
          intro c hc
          rcases List.mem_cons.mp (List.mem_of_mem_filter hc) with rfl | hc
          · exact hab
          · exact IsTrans.trans a b c hab (hb c hc)
        have hfirst : ((b :: l).filter p).orderedInsert r a =
            a :: (b :: l).filter p := by
          cases hfilter : (b :: l).filter p with
          | nil => rfl
          | cons c rest =>
              exact List.orderedInsert_cons_of_le r rest
                (hbefore c (by rw [hfilter]; exact List.mem_cons_self ..))
        rw [List.orderedInsert_cons_of_le r l hab, hfirst, List.filter_cons]
      · rw [List.orderedInsert_of_not_le r l hab, List.filter_cons, ih,
          List.filter_cons]
        by_cases hpb : p b
        · rw [if_pos hpb, if_pos hpb, List.orderedInsert_of_not_le r _ hab]
          split <;> rfl
        · rw [if_neg hpb, if_neg hpb]

theorem filter_insertionSort [Std.Total r] :
    (l.insertionSort r).filter p = (l.filter p).insertionSort r := by
  induction l with
  | nil => rfl
  | cons a l ih =>
      rw [List.insertionSort_cons,
        filter_orderedInsert (List.pairwise_insertionSort r l), ih,
        List.filter_cons]
      split
      · rw [List.insertionSort_cons]
      · rfl

end StableSort
