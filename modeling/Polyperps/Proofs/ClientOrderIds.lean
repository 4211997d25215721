import Polyperps.Execution.InstrumentRouter

/-!
# The text of a client order id

An id is the run's name, the instrument and a number, with dashes between. The
name may hold dashes and digits of its own, so an id is read from its end: the
number has no dash, and `load_local` finds it again behind the last one. Within
a run the id then says which instrument and which number it is.
-/

namespace Polyperps

open InstrumentRouter

theorem toList_clientOrderId (runId : String) (iid : InstrumentId) (n : ℕ) :
    (clientOrderId runId iid n).toList =
      (runId.toList ++ '-' :: iid.repr.toList) ++
        '-' :: Nat.toDigits 10 n := by
  have h : clientOrderId runId iid n =
      runId ++ "-" ++ iid.repr ++ "-" ++ n.repr := rfl
  have hdash : "-".toList = ['-'] := rfl
  rw [h]
  simp only [String.toList_append, Nat.toList_repr, hdash]
  simp

theorem dash_notMem_toDigits (n : ℕ) : '-' ∉ Nat.toDigits 10 n := by
  intro h
  have hd := Nat.isDigit_of_mem_toDigits (by decide) (by decide) h
  revert hd
  decide

/-- What follows the last dash. -/
theorem takeWhile_dash {l t : List Char} (ht : '-' ∉ t) :
    ((l ++ '-' :: t).reverse.takeWhile (· ≠ '-')).reverse = t := by
  have hpos : ∀ c ∈ t.reverse, decide (c ≠ '-') = true := by
    intro c hc
    have hne : c ≠ '-' := fun heq => ht (by simpa [heq] using hc)
    simpa using hne
  rw [List.reverse_append, List.reverse_cons, List.append_assoc,
    List.takeWhile_append_of_pos hpos]
  simp

theorem tailOf_clientOrderId (runId : String) (iid : InstrumentId) (n : ℕ) :
    tailOf (clientOrderId runId iid n) = Nat.toDigits 10 n := by
  rw [tailOf, toList_clientOrderId]
  exact takeWhile_dash (dash_notMem_toDigits n)

/-- `load_local` reads the number of an id back. -/
theorem orderNumber_clientOrderId (runId : String) (iid : InstrumentId)
    (n : ℕ) : orderNumber (clientOrderId runId iid n) = some n := by
  have hdigits : (Nat.toDigits 10 n).all Char.isDigit = true := by
    rw [List.all_eq_true]
    intro c hc
    exact Nat.isDigit_of_mem_toDigits (by decide) (by decide) hc
  unfold orderNumber
  simp only [tailOf_clientOrderId, hdigits]
  rw [if_pos ⟨Nat.toDigits_ne_nil, trivial⟩, ← Nat.ofDigitChars_eq_foldl,
    Nat.ofDigitChars_ten_toDigits]

theorem toDigits_inj {m n : ℕ} (h : Nat.toDigits 10 m = Nat.toDigits 10 n) :
    m = n := by
  rw [← Nat.ofDigitChars_ten_toDigits (n := m), h,
    Nat.ofDigitChars_ten_toDigits]

/-- The text of an integer says which it is: a dash says it is negative. -/
theorem repr_toList_inj {a b : ℤ} (h : a.repr.toList = b.repr.toList) :
    a = b := by
  have hdash : ∀ m n : ℕ, Nat.toDigits 10 m ≠ '-' :: Nat.toDigits 10 n := by
    intro m n heq
    exact dash_notMem_toDigits m (by rw [heq]; simp)
  cases a with
  | ofNat m =>
      cases b with
      | ofNat n =>
          simp only [Int.repr, Nat.toList_repr] at h
          rw [toDigits_inj h]
      | negSucc n => simp [Int.repr, Nat.toList_repr, hdash] at h
  | negSucc m =>
      cases b with
      | ofNat n =>
          simp only [Int.repr, Nat.toList_repr] at h
          exact absurd (by simpa using h.symm) (hdash n (m + 1))
      | negSucc n =>
          simp only [Int.repr, Nat.toList_repr, String.toList_append] at h
          have hd := toDigits_inj (List.append_cancel_left h)
          rw [Nat.succ.inj hd]

/-- Within a run an id is the instrument's and the number's own. -/
theorem clientOrderId_inj {runId : String} {i j : InstrumentId} {m n : ℕ}
    (h : clientOrderId runId i m = clientOrderId runId j n) :
    i = j ∧ m = n := by
  have hn : m = n := by
    have ho := congrArg orderNumber h
    rw [orderNumber_clientOrderId, orderNumber_clientOrderId] at ho
    exact Option.some.inj ho
  subst hn
  have hl := congrArg String.toList h
  rw [toList_clientOrderId, toList_clientOrderId] at hl
  have hi := List.append_cancel_left (List.append_cancel_right hl)
  exact ⟨repr_toList_inj (List.cons.inj hi).2, rfl⟩

end Polyperps
