import Polyperps.Lib.Table

/-!
# Dictionaries

A dictionary is a table of pairs in insertion order, and an assignment an
upsert that keeps the new pair: a key already there keeps its place.
-/

namespace KeyedTable

variable {κ : Type} [DecidableEq κ]

section Dict

variable {β M : Type} {t : List (κ × β)} {a k : κ} {v : β}

/-- A dictionary assignment. -/
def put (a : κ) (v : β) (t : List (κ × β)) : List (κ × β) :=
  upsert Prod.fst (fun _ new => new) (a, v) t

theorem put_cons {x : κ × β} :
    put a v (x :: t) = if x.1 = a then (a, v) :: t else x :: put a v t := rfl

theorem lookup_put :
    (put a v t).lookup k = if k = a then some v else t.lookup k := by
  induction t with
  | nil =>
      by_cases h : k = a
      · simp [put, upsert, h]
      · simp [put, upsert, List.lookup_cons, beq_eq_false_iff_ne.mpr h, h]
  | cons x xs ih =>
      obtain ⟨b, y⟩ := x
      rw [put_cons]
      split
      · next h =>
          simp only at h
          subst h
          simp only [List.lookup_cons]
          split <;> simp_all
      · next h =>
          simp only [List.lookup_cons, ih]
          by_cases hk : k = b
          · subst hk
            simp only [beq_self_eq_true, if_neg h]
          · simp only [beq_eq_false_iff_ne.mpr hk]

/-- Deleting a key. -/
theorem lookup_erase :
    (t.filter fun x => x.1 ≠ a).lookup k = if k = a then none else t.lookup k := by
  induction t with
  | nil => simp
  | cons x xs ih =>
      obtain ⟨b, y⟩ := x
      rw [List.filter_cons]
      by_cases hb : b = a
      · rw [if_neg (by simp [hb]), ih, hb, List.lookup_cons]
        split
        · rfl
        · next h => rw [beq_eq_false_iff_ne.mpr h]
      · rw [if_pos (by simp [hb]), List.lookup_cons, List.lookup_cons, ih]
        by_cases hk : k = b
        · rw [hk, beq_self_eq_true, if_neg hb, if_neg hb]
        · rw [beq_eq_false_iff_ne.mpr hk]

theorem keys_put :
    (put a v t).map Prod.fst =
      if a ∈ t.map Prod.fst then t.map Prod.fst else t.map Prod.fst ++ [a] := by
  induction t with
  | nil => rfl
  | cons x xs ih =>
      rw [put_cons]
      by_cases h : x.1 = a
      · simp [h]
      · simp only [if_neg h, List.map_cons, ih, List.mem_cons, Ne.symm h,
          false_or]
        split <;> rfl

theorem nodup_put (h : (t.map Prod.fst).Nodup) :
    ((put a v t).map Prod.fst).Nodup := by
  rw [keys_put]
  split
  · exact h
  · next ha =>
      rw [List.nodup_append]
      refine ⟨h, by simp, fun x hx y hy => ?_⟩
      rw [List.mem_singleton.mp hy]
      exact fun he => ha (he ▸ hx)

/-- The dictionary of a comprehension over a list. -/
def dictOf {α : Type} (key : α → κ) (value : α → β) (l : List α) :
    List (κ × β) := l.foldl (fun d x => put (key x) (value x) d) []

/-- The last of the elements with a key gives the value. -/
theorem lookup_dictOf {α : Type} {key : α → κ} {value : α → β} {l : List α} :
    (dictOf key value l).lookup k =
      ((l.filter fun x => key x = k).getLast?).map value := by
  unfold dictOf
  induction l using List.reverseRecOn with
  | nil => rfl
  | append_singleton l x ih =>
      rw [List.foldl_append, List.foldl_cons, List.foldl_nil, lookup_put, ih,
        List.filter_append]
      by_cases h : k = key x
      · simp [h]
      · simp [h, Ne.symm h]

/-- Where keys are distinct, to be in the table is to be found. -/
theorem mem_iff_lookup (h : (t.map Prod.fst).Nodup) :
    (k, v) ∈ t ↔ t.lookup k = some v := by
  induction t with
  | nil => simp
  | cons x xs ih =>
      obtain ⟨b, y⟩ := x
      simp only [List.map_cons, List.nodup_cons] at h
      rw [List.mem_cons, ih h.2, List.lookup_cons]
      by_cases hk : k = b
      · subst hk
        have hno : xs.lookup k ≠ some v := by
          intro hl
          exact h.1 (List.mem_map.mpr ⟨_, (ih h.2).mpr hl, rfl⟩)
        simp [hno, eq_comm]
      · simp [hk, beq_eq_false_iff_ne.mpr hk]

/-- A key is there if and only if looking it up finds something. -/
theorem mem_keys_iff {t : List (κ × β)} :
    k ∈ t.map Prod.fst ↔ t.lookup k ≠ none := by
  induction t with
  | nil => simp
  | cons x xs ih =>
      obtain ⟨b, y⟩ := x
      rw [List.map_cons, List.mem_cons, ih, List.lookup_cons]
      by_cases h : k = b
      · simp [h]
      · simp [h, beq_eq_false_iff_ne.mpr h]

/-- A sum over the entries changes by what the assignment replaces. -/
theorem sum_put [AddCommGroup M] (f : κ × β → M) :
    ((put a v t).map f).sum =
      (t.map f).sum - ((t.lookup a).map fun y => f (a, y)).getD 0 +
        f (a, v) := by
  induction t with
  | nil => simp [put, upsert]
  | cons x xs ih =>
      obtain ⟨b, y⟩ := x
      rw [put_cons]
      by_cases h : b = a
      · subst h
        simp [add_comm]
      · have hab : (a == b) = false := beq_eq_false_iff_ne.mpr (Ne.symm h)
        simp only [if_neg h, List.map_cons, List.sum_cons, ih,
          List.lookup_cons, hab]
        abel

end Dict

end KeyedTable
