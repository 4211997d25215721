import Mathlib

/-!
# Numbers as text of a fixed width

A number below `10 ^ k` written with exactly `k` decimal digits, leading zeros
included. Texts compare character by character, so two such texts, whatever
follows them, compare as the numbers do, and what follows decides only between
equal numbers. Reading the digits back gives the number.
-/

namespace FixedWidth

/-- A text as its characters. -/
abbrev Text := List Char

def digitChar (d : ℕ) : Char := Char.ofNat ('0'.toNat + d)

def digitValue (c : Char) : Option ℕ :=
  if '0' ≤ c ∧ c ≤ '9' then some (c.toNat - '0'.toNat) else none

/-- `%0kd`, for a number below `10 ^ k`. -/
def pad : ℕ → ℕ → Text
  | 0, _ => []
  | k + 1, n => digitChar (n / 10 ^ k) :: pad k (n % 10 ^ k)

/-- The number of the next `k` digits, most significant first. -/
def readDigits : ℕ → ℕ → Text → Option (ℕ × Text)
  | 0, n, rest => some (n, rest)
  | k + 1, n, c :: rest => do
      let d ← digitValue c
      readDigits k (n * 10 + d) rest
  | _ + 1, _, [] => none

/-- One given character. -/
def expect (c : Char) : Text → Option Text
  | x :: rest => if x = c then some rest else none
  | [] => none

@[simp] theorem expect_cons {c : Char} {rest : Text} :
    expect c (c :: rest) = some rest := if_pos rfl

/-! ## Digits -/

theorem digitValue_digitChar {d : ℕ} (h : d < 10) :
    digitValue (digitChar d) = some d := by
  interval_cases d <;> rfl

theorem digitChar_lt_iff {d e : ℕ} (hd : d < 10) (he : e < 10) :
    digitChar d < digitChar e ↔ d < e := by
  have hall : ∀ d < 10, ∀ e < 10, digitChar d < digitChar e ↔ d < e := by
    decide
  exact hall d hd e he

theorem digitChar_inj_iff {d e : ℕ} (hd : d < 10) (he : e < 10) :
    digitChar d = digitChar e ↔ d = e := by
  have hall : ∀ d < 10, ∀ e < 10, digitChar d = digitChar e ↔ d = e := by
    decide
  exact hall d hd e he

theorem top_digit_lt {k n : ℕ} (h : n < 10 ^ (k + 1)) : n / 10 ^ k < 10 := by
  rw [Nat.div_lt_iff_lt_mul (by positivity), ← Nat.pow_succ']
  exact h

/-! ## Order -/

/-- Two numbers of the same width, and whatever follows. -/
theorem pad_append_lt_iff {k n m : ℕ} {x y : Text} (hn : n < 10 ^ k)
    (hm : m < 10 ^ k) :
    pad k n ++ x < pad k m ++ y ↔ n < m ∨ (n = m ∧ x < y) := by
  induction k generalizing n m with
  | zero =>
      rw [Nat.pow_zero, Nat.lt_one_iff] at hn hm
      simp [pad, hn, hm]
  | succ k ih =>
      have hpos : 0 < 10 ^ k := by positivity
      have hn' := top_digit_lt hn
      have hm' := top_digit_lt hm
      rw [pad, pad, List.cons_append, List.cons_append, List.cons_lt_cons_iff,
        digitChar_lt_iff hn' hm', digitChar_inj_iff hn' hm',
        ih (Nat.mod_lt n hpos) (Nat.mod_lt m hpos)]
      have hdn := Nat.div_add_mod n (10 ^ k)
      have hdm := Nat.div_add_mod m (10 ^ k)
      have hrn := Nat.mod_lt n hpos
      have hrm := Nat.mod_lt m hpos
      generalize n / 10 ^ k = a at *
      generalize n % 10 ^ k = r at *
      generalize m / 10 ^ k = b at *
      generalize m % 10 ^ k = s at *
      generalize 10 ^ k = p at *
      rcases lt_trichotomy a b with hab | rfl | hab
      · have hlt : p * a + p ≤ p * b := by
          rw [← Nat.mul_succ]
          exact Nat.mul_le_mul_left p hab
        exact iff_of_true (.inl hab) (.inl (by omega))
      · constructor
        · rintro (h | ⟨-, h | ⟨h, hxy⟩⟩)
          · exact absurd h (lt_irrefl _)
          · exact .inl (by omega)
          · exact .inr ⟨by omega, hxy⟩
        · rintro (h | ⟨h, hxy⟩)
          · exact .inr ⟨rfl, .inl (by omega)⟩
          · exact .inr ⟨rfl, .inr ⟨by omega, hxy⟩⟩
      · have hlt : p * b + p ≤ p * a := by
          rw [← Nat.mul_succ]
          exact Nat.mul_le_mul_left p hab
        refine iff_of_false ?_ ?_
        · rintro (h | ⟨rfl, -⟩)
          · exact absurd h hab.not_gt
          · exact absurd hab (lt_irrefl _)
        · omega

theorem pad_lt_iff {k n m : ℕ} {x : Text} (hn : n < 10 ^ k)
    (hm : m < 10 ^ k) : pad k n ++ x < pad k m ++ x ↔ n < m := by
  rw [pad_append_lt_iff hn hm]
  simp

/-- A character before both. -/
theorem cons_lt_iff {c : Char} {x y : Text} : c :: x < c :: y ↔ x < y := by
  rw [List.cons_lt_cons_iff]
  simp

/-! ## Reading -/

theorem readDigits_pad {k n m : ℕ} {rest : Text} (hn : n < 10 ^ k) :
    readDigits k m (pad k n ++ rest) = some (m * 10 ^ k + n, rest) := by
  induction k generalizing n m with
  | zero =>
      rw [Nat.pow_zero, Nat.lt_one_iff] at hn
      simp [pad, readDigits, hn]
  | succ k ih =>
      have hpos : 0 < 10 ^ k := by positivity
      rw [pad, List.cons_append, readDigits,
        digitValue_digitChar (top_digit_lt hn)]
      show readDigits k (m * 10 + n / 10 ^ k) _ = _
      rw [ih (Nat.mod_lt n hpos)]
      have hd := Nat.div_add_mod n (10 ^ k)
      congr 2
      rw [Nat.pow_succ]
      calc (m * 10 + n / 10 ^ k) * 10 ^ k + n % 10 ^ k
          = m * (10 ^ k * 10) + (10 ^ k * (n / 10 ^ k) + n % 10 ^ k) := by ring
        _ = m * (10 ^ k * 10) + n := by rw [hd]

end FixedWidth
