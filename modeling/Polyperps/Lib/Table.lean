import Mathlib

/-!
# Keyed tables

A table is a list of rows in insertion order, and `upsert` is
`INSERT ... ON CONFLICT (key) DO UPDATE`: the row with the same key keeps its
place and is merged with the new one, and a row with a new key goes to the
end. `merge old new` is the row the update leaves.
-/

namespace KeyedTable

variable {ρ κ : Type} [DecidableEq κ]

def upsert (key : ρ → κ) (merge : ρ → ρ → ρ) (r : ρ) : List ρ → List ρ
  | [] => [r]
  | x :: xs =>
      if key x = key r then merge x r :: xs else x :: upsert key merge r xs

def lookup (key : ρ → κ) (k : κ) (t : List ρ) : Option ρ :=
  t.find? fun r => key r = k

variable {key : ρ → κ} {merge : ρ → ρ → ρ} {r : ρ} {t : List ρ} {k : κ}

@[simp] theorem lookup_nil : lookup key k ([] : List ρ) = none := rfl

theorem lookup_cons {x : ρ} :
    lookup key k (x :: t) = if key x = k then some x else lookup key k t := by
  unfold lookup
  rw [List.find?_cons]
  split <;> next h => simp_all

theorem lookup_mem {x : ρ} (h : lookup key k t = some x) :
    x ∈ t ∧ key x = k :=
  ⟨List.mem_of_find?_eq_some h, by simpa using List.find?_some h⟩

theorem lookup_eq_none : lookup key k t = none ↔ ∀ x ∈ t, key x ≠ k := by
  simp [lookup]

/-- The row written is the one found, merged with the one it replaced. -/
theorem lookup_upsert_self (hmerge : ∀ a, key a = key r → key (merge a r) = key r) :
    lookup key (key r) (upsert key merge r t) =
      some ((lookup key (key r) t).elim r (merge · r)) := by
  induction t with
  | nil => simp [upsert, lookup_cons]
  | cons x xs ih =>
      rw [upsert, lookup_cons (x := x)]
      split
      · next h => rw [lookup_cons, if_pos (hmerge x h)]; rfl
      · next h => rw [lookup_cons, if_neg h, ih]

/-- Every other key finds what it found. -/
theorem lookup_upsert_ne (hmerge : ∀ a, key a = key r → key (merge a r) = key r)
    (hk : k ≠ key r) :
    lookup key k (upsert key merge r t) = lookup key k t := by
  induction t with
  | nil => simp [upsert, lookup_cons, Ne.symm hk]
  | cons x xs ih =>
      rw [upsert]
      split
      · next h =>
          rw [lookup_cons, lookup_cons, if_neg, if_neg]
          · rw [h]; exact Ne.symm hk
          · rw [hmerge x h]; exact Ne.symm hk
      · next h => rw [lookup_cons, lookup_cons, ih]

/-- The rows after an upsert: the old ones, the new one, or the merge of an
old row of the same key with the new one. -/
theorem mem_upsert {x : ρ} (h : x ∈ upsert key merge r t) :
    x ∈ t ∨ x = r ∨ ∃ y ∈ t, key y = key r ∧ x = merge y r := by
  induction t with
  | nil => simp only [upsert, List.mem_singleton] at h; exact Or.inr (Or.inl h)
  | cons y ys ih =>
      rw [upsert] at h
      split at h
      · next hy =>
          rcases List.mem_cons.mp h with rfl | hmem
          · exact Or.inr (Or.inr ⟨y, by simp, hy, rfl⟩)
          · exact Or.inl (by simp [hmem])
      · next hy =>
          rcases List.mem_cons.mp h with rfl | hmem
          · exact Or.inl (by simp)
          · rcases ih hmem with h1 | h1 | ⟨z, hz, h1⟩
            · exact Or.inl (by simp [h1])
            · exact Or.inr (Or.inl h1)
            · exact Or.inr (Or.inr ⟨z, by simp [hz], h1⟩)

/-- Updating a row that is there changes only what the merge changes. -/
theorem map_upsert {β : Type} {f : ρ → β} (hmerge : ∀ a, f (merge a r) = f a)
    (h : ∃ x ∈ t, key x = key r) :
    (upsert key merge r t).map f = t.map f := by
  induction t with
  | nil => simp at h
  | cons x xs ih =>
      rw [upsert]
      split
      · simp [hmerge]
      · next hx =>
          obtain ⟨y, hy, hk⟩ := h
          rcases List.mem_cons.mp hy with rfl | hy
          · exact absurd hk hx
          · rw [List.map_cons, ih ⟨y, hy, hk⟩, List.map_cons]

/-- A row of a new key goes to the end. -/
theorem upsert_of_none (h : lookup key (key r) t = none) :
    upsert key merge r t = t ++ [r] := by
  rw [lookup_eq_none] at h
  induction t with
  | nil => rfl
  | cons x xs ih =>
      rw [upsert, if_neg (h x (by simp)), ih fun y hy => h y (by simp [hy])]
      rfl

/-- Where keys are distinct, the row found is the row there is. -/
theorem lookup_eq_some_iff (hnd : (t.map key).Nodup) {x : ρ} :
    lookup key k t = some x ↔ x ∈ t ∧ key x = k := by
  refine ⟨lookup_mem, fun ⟨hx, hk⟩ => ?_⟩
  have hsome : (t.find? fun r => key r = k).isSome :=
    List.find?_isSome.mpr ⟨x, hx, by simpa using hk⟩
  obtain ⟨y, hy⟩ := Option.isSome_iff_exists.mp hsome
  obtain ⟨hmem, hyk⟩ := lookup_mem hy
  rw [lookup, hy, List.inj_on_of_nodup_map hnd hmem hx (hyk.trans hk.symm)]

/-- Finding does not depend on the order where keys are distinct. -/
theorem lookup_perm {t' : List ρ} (h : t.Perm t') (hnd : (t.map key).Nodup)
    (k : κ) : lookup key k t = lookup key k t' := by
  have hnd' := (h.map key).nodup_iff.mp hnd
  refine Option.ext fun x => ?_
  rw [lookup_eq_some_iff hnd, lookup_eq_some_iff hnd', h.mem_iff]

end KeyedTable
