import Polyperps.Lib.Rounding

/-!
# Rounding to significant digits

Decimal arithmetic of a precision `p` computes a result exactly and rounds it,
half to even, to `p` significant digits. The result is off by a relative error
of half a unit in the last digit at most. Exponents are unbounded here.
-/

namespace Rounding

/-- The place of the last of the `p` digits of a number. -/
def lastPlace (p : ℕ) (x : ℚ) : ℚ := 10 ^ (Int.log 10 |x| + 1 - p)

def roundDigits (p : ℕ) (x : ℚ) : ℚ :=
  if x = 0 then 0 else roundHalfEven (lastPlace p x) x

/-- The default precision of Python's `decimal`. -/
def round28 (x : ℚ) : ℚ := roundDigits 28 x

theorem roundHalfEven_error {unit : ℚ} (hu : 0 < unit) (x : ℚ) :
    |roundHalfEven unit x - x| ≤ unit / 2 := by
  obtain ⟨n, hn, hnear⟩ := roundHalfEven_spec unit x
  have hx : x = unit * (x / unit) := (mul_div_cancel₀ x hu.ne').symm
  rw [hn, abs_le]
  have hlow := mul_le_mul_of_nonneg_left hnear.lower hu.le
  have hup := mul_le_mul_of_nonneg_left hnear.upper hu.le
  rw [← hx] at hlow hup
  exact ⟨by linarith, by linarith⟩

theorem lastPlace_pos (p : ℕ) (x : ℚ) : 0 < lastPlace p x :=
  zpow_pos (by norm_num) _

theorem lastPlace_le {p : ℕ} {x : ℚ} (hx : x ≠ 0) :
    lastPlace p x ≤ |x| * 10 ^ (1 - p : ℤ) := by
  have hlog : ((10 : ℕ) : ℚ) ^ Int.log 10 |x| ≤ |x| :=
    Int.zpow_log_le_self (by norm_num) (abs_pos.mpr hx)
  rw [Nat.cast_ofNat] at hlog
  calc lastPlace p x = 10 ^ Int.log 10 |x| * 10 ^ (1 - p : ℤ) := by
        rw [lastPlace, add_sub_assoc, zpow_add₀ (by norm_num)]
    _ ≤ |x| * 10 ^ (1 - p : ℤ) :=
        mul_le_mul_of_nonneg_right hlog (zpow_pos (by norm_num) _).le

theorem roundDigits_error (p : ℕ) (x : ℚ) :
    |roundDigits p x - x| ≤ |x| * 10 ^ (1 - p : ℤ) / 2 := by
  unfold roundDigits
  split
  · next h => simp [h]
  · next h =>
    have herr := roundHalfEven_error (lastPlace_pos p x) x
    linarith [lastPlace_le (p := p) h]

theorem round28_error (x : ℚ) : |round28 x - x| ≤ |x| / 10 ^ 27 / 2 := by
  have h := roundDigits_error 28 x
  rw [show (10 : ℚ) ^ (1 - (28 : ℕ) : ℤ) = 1 / 10 ^ 27 by norm_num,
    mul_one_div] at h
  exact h

/-! ## Text -/

/-- The decimals a number needs, up to a bound. -/
def decimals : ℕ → ℚ → ℕ
  | 0, _ => 0
  | bound + 1, x => if x.den = 1 then 0 else decimals bound (10 * x) + 1

/-- A terminating decimal, written out without an exponent and without
trailing zeros. -/
def plainText (x : ℚ) : String :=
  let k := decimals (Nat.log 2 x.den) x
  let n := ⌊|x| * 10 ^ k⌋.toNat
  let fraction := toString (n % 10 ^ k)
  (if x < 0 then "-" else "") ++ toString (n / 10 ^ k) ++
    if k = 0 then ""
    else "." ++ String.ofList (List.replicate (k - fraction.length) '0')
      ++ fraction

example : plainText (961 / 10) = "96.1" := by decide +kernel
example : plainText (-5 / 1000) = "-0.005" := by decide +kernel
example : plainText 1200 = "1200" := by decide +kernel

end Rounding
