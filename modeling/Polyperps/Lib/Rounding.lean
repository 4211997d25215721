import Mathlib

/-!
# Rounding to a decimal grid

`quantize` of a decimal number to a power of ten, in the two modes that
matter here: towards zero, and to the nearest grid point with ties going to
the even one. Both are total functions of exact rationals. Python's `quantize`
gives the same where the result has at most 28 digits (`Quantizes`), and raises
`InvalidOperation` where it has more.
-/

namespace Rounding

/-- Towards zero, on the grid of multiples of `unit`. -/
def roundDown (unit x : ℚ) : ℚ :=
  unit * (if 0 ≤ x then ⌊x / unit⌋ else ⌈x / unit⌉ : ℤ)

/-- To the nearest multiple of `unit`, ties to the even one. -/
def roundHalfEven (unit x : ℚ) : ℚ :=
  let y := x / unit
  let f := ⌊y⌋
  unit * (if y - f < 1 / 2 then f
    else if 1 / 2 < y - f then f + 1
    else if f % 2 = 0 then f else f + 1 : ℤ)

/-- A multiple of the unit that `quantize` can give: at most 28 digits. -/
def Quantizes (unit r : ℚ) : Prop := |r| < unit * 10 ^ 28

/-- A number of at least one unit does not round down to nothing. -/
theorem roundDown_pos {unit x : ℚ} (hu : 0 < unit) (hx : unit ≤ x) :
    0 < roundDown unit x := by
  have h0 : 0 ≤ x := le_trans hu.le hx
  have h1 : (1 : ℤ) ≤ ⌊x / unit⌋ := by
    rw [Int.le_floor]
    rw [le_div_iff₀ hu]
    simpa using hx
  rw [roundDown, if_pos h0]
  have h2 : (0 : ℚ) < (⌊x / unit⌋ : ℤ) := by exact_mod_cast h1
  exact mul_pos hu h2

theorem roundDown_nonneg {unit x : ℚ} (hu : 0 < unit) (hx : 0 ≤ x) :
    0 ≤ roundDown unit x := by
  have h0 : 0 ≤ ⌊x / unit⌋ := Int.floor_nonneg.mpr (div_nonneg hx hu.le)
  have h1 : (0 : ℚ) ≤ (⌊x / unit⌋ : ℤ) := by exact_mod_cast h0
  rw [roundDown, if_pos hx]
  exact mul_nonneg hu.le h1

theorem roundDown_le {unit x : ℚ} (hu : 0 < unit) (hx : 0 ≤ x) :
    roundDown unit x ≤ x := by
  rw [roundDown, if_pos hx]
  calc unit * (⌊x / unit⌋ : ℤ) ≤ unit * (x / unit) :=
        mul_le_mul_of_nonneg_left (Int.floor_le _) hu.le
    _ = x := mul_div_cancel₀ x hu.ne'

/-- Only a number of at least one unit does not. -/
theorem roundDown_pos_iff {unit x : ℚ} (hu : 0 < unit) (hx : 0 ≤ x) :
    0 < roundDown unit x ↔ unit ≤ x := by
  refine ⟨fun h => ?_, roundDown_pos hu⟩
  rw [roundDown, if_pos hx] at h
  have h1 : 0 < ⌊x / unit⌋ := by
    have h0 := (mul_pos_iff_of_pos_left hu).mp h
    exact_mod_cast h0
  have h2 : (1 : ℚ) ≤ x / unit := by
    refine le_trans ?_ (Int.floor_le _)
    exact_mod_cast h1
  rwa [one_le_div hu] at h2

/-- The integer a number rounds to: within a half, and strictly within for an
odd one, which a tie does not go to. -/
structure NearestEven (n : ℤ) (y : ℚ) : Prop where
  lower : n - 1 / 2 ≤ y
  upper : y ≤ n + 1 / 2
  odd : n % 2 = 1 → n - 1 / 2 < y ∧ y < n + 1 / 2

theorem roundHalfEven_spec (unit x : ℚ) :
    ∃ n : ℤ, roundHalfEven unit x = unit * n ∧ NearestEven n (x / unit) := by
  have hle : (⌊x / unit⌋ : ℚ) ≤ x / unit := Int.floor_le _
  have hlt : x / unit < ⌊x / unit⌋ + 1 := Int.lt_floor_add_one _
  unfold roundHalfEven
  dsimp only
  generalize ⌊x / unit⌋ = f at hle hlt ⊢
  split
  · next h => exact ⟨f, rfl, by linarith, by linarith, fun _ =>
      ⟨by linarith, by linarith⟩⟩
  split
  · next h =>
    refine ⟨f + 1, rfl, ?_, ?_, fun _ => ⟨?_, ?_⟩⟩ <;> push_cast <;> linarith
  next h h' =>
  have htie : x / unit - f = 1 / 2 := le_antisymm (not_lt.mp h') (not_lt.mp h)
  split
  · next heven => exact ⟨f, rfl, by linarith, by linarith, by omega⟩
  · next hodd =>
    refine ⟨f + 1, rfl, ?_, ?_, by omega⟩ <;> push_cast <;> linarith

section Ties

variable {n k : ℤ} {y : ℚ}

/-! A number rounds to at most an odd integer below the tie above it, and to
at most an even one at that tie, too. -/

theorem NearestEven.le_iff_odd (h : NearestEven n y) (hk : k % 2 = 1) :
    n ≤ k ↔ y < k + 1 / 2 := by
  constructor
  · intro hle
    rcases eq_or_lt_of_le hle with rfl | hlt
    · exact (h.odd hk).2
    · have hq : (n : ℚ) ≤ k - 1 := by exact_mod_cast (by omega : n ≤ k - 1)
      linarith [h.upper]
  · intro hy
    by_contra hgt
    have hq : (k : ℚ) + 1 ≤ n := by exact_mod_cast (by omega : k + 1 ≤ n)
    linarith [h.lower]

theorem NearestEven.le_iff_even (h : NearestEven n y) (hk : k % 2 = 0) :
    n ≤ k ↔ y ≤ k + 1 / 2 := by
  constructor
  · intro hle
    have hq : (n : ℚ) ≤ k := by exact_mod_cast hle
    linarith [h.upper]
  · intro hy
    by_contra hgt
    rcases eq_or_lt_of_le (by omega : k + 1 ≤ n) with rfl | hlt
    · have hodd := (h.odd (by omega)).1
      push_cast at hodd
      linarith
    · have hq : (k : ℚ) + 2 ≤ n := by exact_mod_cast (by omega : k + 2 ≤ n)
      linarith [h.lower]

end Ties

end Rounding
