import Polyperps.Backtest.Harness
import Polyperps.Execution.SimExecutor
import Polyperps.Proofs.RecoverySteps

/-!
# The stop and the liquidation price

Both are computed in 28 digits and rounded to a cent, the entry is not. Far
from zero the stop of a long lies below its entry and above its liquidation
price, and that of a short the other way. Below six cents the grid is as coarse
as the distances, and the order holds on some intervals of the entry only;
which ones is a matter of where the two roundings step, ties to the even cent
included. A product that is half of its last digit away from such a step is
rounded onto it.
-/

namespace Polyperps

open Rounding ProgramLogic

variable {size entry : Decimal}

theorem cent_pos : 0 < cent := by norm_num [cent]

/-! ## In 28 digits -/

/-- `1 - 1 / 3 + 2 / 100`, as the source computes it. -/
def longFactor : Decimal := 6866666666666666666666666667 / 10 ^ 28

/-- `1 + 1 / 3 - 2 / 100`. -/
def shortFactor : Decimal := 1313333333333333333333333333 / 10 ^ 27

theorem stopPrice_default (long : Bool) (entry : Decimal) :
    stopPrice long entry limitsDefault =
      roundHalfEven cent
        (round28 (entry * if long then 17 / 20 else 23 / 20)) := by
  have hlong : round28 (1 - limitsDefault.stopDistance) = 17 / 20 := by
    decide +kernel
  have hshort : round28 (1 + limitsDefault.stopDistance) = 23 / 20 := by
    decide +kernel
  unfold stopPrice
  rw [hlong, hshort]

theorem liquidationPrice_default (size entry : Decimal) :
    liquidationPrice size entry limitsDefault = roundHalfEven cent
      (round28 (entry * if 0 < size then longFactor else shortFactor)) := by
  have hlong : round28 (round28 (1 - round28 (1 / limitsDefault.maxLeverage))
      + limitsDefault.maintenanceRate) = longFactor := by decide +kernel
  have hshort : round28 (round28 (1 + round28 (1 / limitsDefault.maxLeverage))
      - limitsDefault.maintenanceRate) = shortFactor := by decide +kernel
  unfold liquidationPrice
  dsimp only
  rw [hlong, hshort]

/-- Half of the last digit of a price between one and ten cents, in cents. -/
def halfLast : Decimal := 5 / 10 ^ 28

/-- Between one and ten cents the last digit is in one place. -/
theorem round28_cents {x : Decimal} (h : cent ≤ x) (h' : x < 10 * cent) :
    round28 x = roundHalfEven (1 / 10 ^ 29) x := by
  unfold cent at h h'
  have hx : 0 < |x| := abs_pos.mpr (by linarith)
  have habs : |x| = x := abs_of_pos (by linarith)
  have hlow : -2 ≤ Int.log 10 |x| :=
    (Int.zpow_le_iff_le_log (by norm_num) hx).mp (by
      rw [habs]
      norm_num
      linarith)
  have hup : Int.log 10 |x| < -1 :=
    (Int.lt_zpow_iff_log_lt (by norm_num) hx).mp (by
      rw [habs]
      norm_num
      linarith)
  rw [round28, roundDigits, if_neg (abs_pos.mp hx), lastPlace,
    show Int.log 10 |x| = -2 by omega]
  norm_num

/-- The cents of a product are at most `k` up to where the product rounds to
the step above `k`. -/
theorem cents_iff {x : Decimal} {n k : ℤ} (hx : 0 < x) (hk : 1 ≤ k)
    (hk' : k ≤ 7) (hn : NearestEven n (round28 x / cent)) :
    (k % 2 = 1 → (n ≤ k ↔ x / cent < k + 1 / 2 - halfLast)) ∧
      (k % 2 = 0 → (n ≤ k ↔ x / cent ≤ k + 1 / 2 + halfLast)) := by
  have hkq : (1 : ℚ) ≤ k := by exact_mod_cast hk
  have hkq' : (k : ℚ) ≤ 7 := by exact_mod_cast hk'
  have herr := abs_le.mp (round28_error x)
  rw [abs_of_pos hx] at herr
  obtain ⟨herr₁, herr₂⟩ := herr
  rw [show cent = 1 / 100 from rfl] at hn ⊢
  unfold halfLast
  by_cases hsmall : x < cent
  · -- below a cent neither step is near
    rw [cent] at hsmall
    refine ⟨fun ho => iff_of_true ((hn.le_iff_odd ho).mpr ?_) ?_,
      fun he => iff_of_true ((hn.le_iff_even he).mpr ?_) ?_⟩ <;> linarith
  by_cases hbig : 10 * cent ≤ x
  · rw [cent] at hbig
    refine ⟨fun ho => iff_of_false (mt (hn.le_iff_odd ho).mp ?_) ?_,
      fun he => iff_of_false (mt (hn.le_iff_even he).mp ?_) ?_⟩ <;> linarith
  obtain ⟨d, hd, hnear⟩ := roundHalfEven_spec (1 / 10 ^ 29) x
  rw [round28_cents (not_lt.mp hsmall) (not_le.mp hbig), hd] at hn
  -- the step is an even number of last digits
  have hodd := hnear.le_iff_odd (k := (2 * k + 1) * 500000000000000000000000000 - 1)
    (by omega)
  have heven := hnear.le_iff_even (k := (2 * k + 1) * 500000000000000000000000000)
    (by omega)
  push_cast at hodd heven
  constructor
  · intro ho
    have hstep : (1 / 10 ^ 29 * d / (1 / 100) < (k + 1 / 2 : ℚ)) ↔
        d ≤ (2 * k + 1) * 500000000000000000000000000 - 1 := by
      rw [Int.le_sub_one_iff, ← Int.cast_lt (R := ℚ)]
      push_cast
      constructor <;> intro h <;> linarith
    rw [hn.le_iff_odd ho, hstep, hodd]
    constructor <;> intro h <;> linarith
  · intro he
    have hstep : (1 / 10 ^ 29 * d / (1 / 100) ≤ (k + 1 / 2 : ℚ)) ↔
        d ≤ (2 * k + 1) * 500000000000000000000000000 := by
      rw [← Int.cast_le (R := ℚ)]
      push_cast
      constructor <;> intro h <;> linarith
    rw [hn.le_iff_even he, hstep, heven]
    constructor <;> intro h <;> linarith

/-! ## The order on the cents -/

/-- The entries of a long, in cents, whose stop and liquidation price keep
their order. -/
def LongOrdered (c : Decimal) : Prop :=
  (2 < c ∧ c * longFactor < 3 / 2 - halfLast) ∨
    (3 < c ∧ c * longFactor ≤ 5 / 2 + halfLast) ∨
    (7 / 2 - halfLast ≤ c * (17 / 20) ∧ c * longFactor < 7 / 2 - halfLast) ∨
    9 / 2 + halfLast < c * (17 / 20)

/-- Those of a short. -/
def ShortOrdered (c : Decimal) : Prop :=
  (5 / 2 + halfLast < c * shortFactor ∧ c < 2) ∨
    (7 / 2 - halfLast ≤ c * shortFactor ∧ c < 3) ∨
    (9 / 2 + halfLast < c * shortFactor ∧ c * (23 / 20) ≤ 9 / 2 + halfLast) ∨
    (11 / 2 - halfLast ≤ c * shortFactor ∧
      c * (23 / 20) < 11 / 2 - halfLast) ∨
    (13 / 2 + halfLast < c * shortFactor ∧
      c * (23 / 20) ≤ 13 / 2 + halfLast) ∨
    15 / 2 - halfLast ≤ c * shortFactor

/-- What is known of the cents `n` of a product that is `c * factor` cents: the
steps below eight cents, and how close they are to the product. -/
structure CentsOf (n : ℤ) (c factor : Decimal) : Prop where
  odd : ∀ k : ℤ, 1 ≤ k → k ≤ 7 → k % 2 = 1 →
    (n ≤ k ↔ c * factor < k + 1 / 2 - halfLast)
  even : ∀ k : ℤ, 1 ≤ k → k ≤ 7 → k % 2 = 0 →
    (n ≤ k ↔ c * factor ≤ k + 1 / 2 + halfLast)
  lower : c * factor ≤ n + 1 / 2 + c / 10 ^ 26
  upper : n ≤ c * factor + 1 / 2 + c / 10 ^ 26

theorem longOrdered_iff {c : Decimal} {stop liq : ℤ}
    (hstop : CentsOf stop c (17 / 20)) (hliq : CentsOf liq c longFactor) :
    (liq < stop ∧ (stop : Decimal) < c) ↔ LongOrdered c := by
  have s1 := hstop.odd 1 (by norm_num) (by norm_num) rfl
  have s2 := hstop.even 2 (by norm_num) (by norm_num) rfl
  have s3 := hstop.odd 3 (by norm_num) (by norm_num) rfl
  have s4 := hstop.even 4 (by norm_num) (by norm_num) rfl
  have l1 := hliq.odd 1 (by norm_num) (by norm_num) rfl
  have l2 := hliq.even 2 (by norm_num) (by norm_num) rfl
  have l3 := hliq.odd 3 (by norm_num) (by norm_num) rfl
  have l4 := hliq.even 4 (by norm_num) (by norm_num) rfl
  have hlow := hstop.lower
  have hup := hstop.upper
  have hlow' := hliq.lower
  have hup' := hliq.upper
  unfold LongOrdered
  push_cast at s1 s2 s3 s4 l1 l2 l3 l4
  unfold longFactor halfLast at *
  constructor
  · rintro ⟨hlt, hentry⟩
    by_cases h4 : stop ≤ 4
    swap
    · exact .inr (.inr (.inr (by linarith [not_le.mp (mt s4.mpr h4)])))
    by_cases h3 : stop ≤ 3
    swap
    · -- a stop of four cents
      have hlow := not_lt.mp (mt s3.mpr h3)
      have hup := l3.mp (by omega)
      exact .inr (.inr (.inl ⟨by linarith, by linarith⟩))
    by_cases h2 : stop ≤ 2
    swap
    · have hq : (3 : ℚ) ≤ stop := by exact_mod_cast (by omega : 3 ≤ stop)
      have hup := l2.mp (by omega)
      exact .inr (.inl ⟨by linarith, by linarith⟩)
    by_cases h1 : stop ≤ 1
    swap
    · have hq : (2 : ℚ) ≤ stop := by exact_mod_cast (by omega : 2 ≤ stop)
      have hup := l1.mp (by omega)
      exact .inl ⟨by linarith, by linarith⟩
    -- no entry has a stop of a cent or less above its liquidation price
    have hq : (liq : ℚ) ≤ stop - 1 := by
      exact_mod_cast (by omega : liq ≤ stop - 1)
    have hq₁ : (stop : ℚ) ≤ 1 := by exact_mod_cast h1
    rcases eq_or_lt_of_le h1 with rfl | h0
    · push_cast at hentry hq
      linarith
    · have hq₀ : (stop : ℚ) ≤ 0 := by exact_mod_cast (by omega : stop ≤ 0)
      linarith
  · have hbelow : ∀ k : ℤ, stop ≤ k → (k : ℚ) < c → (stop : ℚ) < c := by
      intro k hk hkc
      have hq : (stop : ℚ) ≤ k := by exact_mod_cast hk
      linarith
    rintro (⟨h, h'⟩ | ⟨h, h'⟩ | ⟨h, h'⟩ | h)
    · have hl := l1.mpr (by linarith)
      have hs : ¬ stop ≤ 1 := mt s1.mp (by linarith)
      exact ⟨by omega, hbelow 2 (s2.mpr (by linarith)) (by exact_mod_cast h)⟩
    · have hl := l2.mpr (by linarith)
      have hs : ¬ stop ≤ 2 := mt s2.mp (by linarith)
      exact ⟨by omega, hbelow 3 (s3.mpr (by linarith)) (by exact_mod_cast h)⟩
    · have hl := l3.mpr (by linarith)
      have hs : ¬ stop ≤ 3 := mt s3.mp (by linarith)
      refine ⟨by omega, hbelow 4 (s4.mpr (by linarith)) ?_⟩
      push_cast
      linarith
    · refine ⟨?_, by linarith⟩
      by_cases hsmall : c ≤ 65 / 10
      · have hl := l4.mpr (by linarith)
        have hs : ¬ stop ≤ 4 := mt s4.mp (by linarith)
        omega
      · -- more than a cent apart before they are rounded
        have hq : (liq : ℚ) < stop := by linarith [not_le.mp hsmall]
        exact_mod_cast hq

theorem shortOrdered_iff {c : Decimal} {stop liq : ℤ} (hc : 0 < c)
    (hstop : CentsOf stop c (23 / 20)) (hliq : CentsOf liq c shortFactor) :
    (c < (stop : Decimal) ∧ stop < liq) ↔ ShortOrdered c := by
  have s1 := hstop.odd 1 (by norm_num) (by norm_num) rfl
  have s2 := hstop.even 2 (by norm_num) (by norm_num) rfl
  have s3 := hstop.odd 3 (by norm_num) (by norm_num) rfl
  have s4 := hstop.even 4 (by norm_num) (by norm_num) rfl
  have s5 := hstop.odd 5 (by norm_num) (by norm_num) rfl
  have s6 := hstop.even 6 (by norm_num) (by norm_num) rfl
  have s7 := hstop.odd 7 (by norm_num) (by norm_num) rfl
  have l1 := hliq.odd 1 (by norm_num) (by norm_num) rfl
  have l2 := hliq.even 2 (by norm_num) (by norm_num) rfl
  have l3 := hliq.odd 3 (by norm_num) (by norm_num) rfl
  have l4 := hliq.even 4 (by norm_num) (by norm_num) rfl
  have l5 := hliq.odd 5 (by norm_num) (by norm_num) rfl
  have l6 := hliq.even 6 (by norm_num) (by norm_num) rfl
  have l7 := hliq.odd 7 (by norm_num) (by norm_num) rfl
  have hlow := hstop.lower
  have hup := hstop.upper
  have hlow' := hliq.lower
  have hup' := hliq.upper
  unfold ShortOrdered
  push_cast at s1 s2 s3 s4 s5 s6 s7 l1 l2 l3 l4 l5 l6 l7
  unfold shortFactor halfLast at *
  constructor
  · rintro ⟨hentry, hlt⟩
    have hupper : ∀ k : ℤ, stop ≤ k → c < k := by
      intro k hk
      have hq : (stop : ℚ) ≤ k := by exact_mod_cast hk
      linarith
    by_cases h6 : stop ≤ 6
    swap
    · have hlow := not_lt.mp (mt l7.mpr (by omega))
      exact .inr (.inr (.inr (.inr (.inr (by linarith)))))
    by_cases h5 : stop ≤ 5
    swap
    · have hlow := not_le.mp (mt l6.mpr (by omega))
      have hup := s6.mp h6
      exact .inr (.inr (.inr (.inr (.inl ⟨by linarith, by linarith⟩))))
    by_cases h4 : stop ≤ 4
    swap
    · have hlow := not_lt.mp (mt l5.mpr (by omega))
      have hup := s5.mp h5
      exact .inr (.inr (.inr (.inl ⟨by linarith, by linarith⟩)))
    by_cases h3 : stop ≤ 3
    swap
    · have hlow := not_le.mp (mt l4.mpr (by omega))
      have hup := s4.mp h4
      exact .inr (.inr (.inl ⟨by linarith, by linarith⟩))
    by_cases h2 : stop ≤ 2
    swap
    · have hlow := not_lt.mp (mt l3.mpr (by omega))
      exact .inr (.inl ⟨by linarith, by exact_mod_cast hupper 3 h3⟩)
    by_cases h1 : stop ≤ 1
    swap
    · have hlow := not_le.mp (mt l2.mpr (by omega))
      exact .inl ⟨by linarith, by exact_mod_cast hupper 2 h2⟩
    -- the liquidation price of less than a cent is no two cents
    have hc1 : c < 1 := by exact_mod_cast hupper 1 h1
    have h1' : ¬ stop ≤ 0 := fun h0 => by
      have hc0 := hupper 0 h0
      push_cast at hc0
      linarith
    have hlow := not_lt.mp (mt l1.mpr (by omega))
    linarith
  · have habove : ∀ k : ℤ, ¬ stop ≤ k - 1 → c < k → c < (stop : ℚ) := by
      intro k hk hkc
      have hq : (k : ℚ) ≤ stop := by exact_mod_cast (by omega : k ≤ stop)
      linarith
    rintro (⟨h, h'⟩ | ⟨h, h'⟩ | ⟨h, h'⟩ | ⟨h, h'⟩ | ⟨h, h'⟩ | h)
    · have hl : ¬ liq ≤ 2 := mt l2.mp (by linarith)
      have hs := s2.mpr (by linarith)
      exact ⟨habove 2 (mt s1.mp (by linarith)) (by exact_mod_cast h'),
        by omega⟩
    · have hl : ¬ liq ≤ 3 := mt l3.mp (by linarith)
      have hs := s3.mpr (by linarith)
      exact ⟨habove 3 (mt s2.mp (by linarith)) (by exact_mod_cast h'),
        by omega⟩
    · have hl : ¬ liq ≤ 4 := mt l4.mp (by linarith)
      have hs := s4.mpr (by linarith)
      exact ⟨habove 4 (mt s3.mp (by linarith)) (by push_cast; linarith),
        by omega⟩
    · have hl : ¬ liq ≤ 5 := mt l5.mp (by linarith)
      have hs := s5.mpr (by linarith)
      exact ⟨habove 5 (mt s4.mp (by linarith)) (by push_cast; linarith),
        by omega⟩
    · have hl : ¬ liq ≤ 6 := mt l6.mp (by linarith)
      have hs := s6.mpr (by linarith)
      exact ⟨habove 6 (mt s5.mp (by linarith)) (by push_cast; linarith),
        by omega⟩
    · refine ⟨by linarith, ?_⟩
      by_cases hsmall : c < 65 / 10
      · have hl : ¬ liq ≤ 7 := mt l7.mp (by linarith)
        have hs := s7.mpr (by linarith)
        omega
      · have hq : (stop : ℚ) < liq := by linarith [not_lt.mp hsmall]
        exact_mod_cast hq

/-! ## The two prices of a position -/

/-- The cents of a product in 28 digits. -/
theorem centsOf_round28 {factor : Decimal} {n : ℤ} (hentry : 0 < entry)
    (hfactor : 0 < factor) (hle : factor ≤ 2)
    (hn : NearestEven n (round28 (entry * factor) / cent)) :
    CentsOf n (entry / cent) factor := by
  have hx : 0 < entry * factor := mul_pos hentry hfactor
  have hscale : entry * factor / cent = entry / cent * factor :=
    mul_div_right_comm entry factor cent
  have hprod : entry * factor ≤ entry * 2 :=
    mul_le_mul_of_nonneg_left hle hentry.le
  have herr := abs_le.mp (round28_error (entry * factor))
  rw [abs_of_pos hx] at herr
  obtain ⟨herr₁, herr₂⟩ := herr
  have hlow := hn.lower
  have hup := hn.upper
  rw [show cent = 1 / 100 from rfl] at hlow hup
  refine ⟨fun k hk hk' ho => ?_, fun k hk hk' he => ?_, ?_, ?_⟩
  · rw [(cents_iff hx hk hk' hn).1 ho, hscale]
  · rw [(cents_iff hx hk hk' hn).2 he, hscale]
  · rw [← hscale, show cent = 1 / 100 from rfl]
    linarith
  · rw [← hscale, show cent = 1 / 100 from rfl]
    linarith

/-- A stop that acts in time: the entry does not cross it, and a price crosses
it before the liquidation price. -/
def Guards (size entry trigger : Decimal) : Prop :=
  let liq := liquidationPrice size entry limitsDefault
  if 0 < size then liq < trigger ∧ trigger < entry
  else entry < trigger ∧ trigger < liq

/-- The stop of a position, as every caller asks for it. -/
def stopOf (size entry : Decimal) : Decimal :=
  stopPrice (decide (0 < size)) entry limitsDefault

/-- The entries whose stop acts in time. -/
def InTime (size entry : Decimal) : Prop :=
  if 0 < size then LongOrdered (entry / cent) else ShortOrdered (entry / cent)

theorem guards_iff (size : Decimal) (hentry : 0 < entry) :
    Guards size entry (stopOf size entry) ↔ InTime size entry := by
  unfold Guards stopOf InTime
  by_cases hsize : 0 < size
  · rw [stopPrice_default, liquidationPrice_default, if_pos hsize,
      if_pos hsize, if_pos hsize, if_pos (decide_eq_true hsize)]
    obtain ⟨stop, hs, hstop⟩ := roundHalfEven_spec cent
      (round28 (entry * (17 / 20)))
    obtain ⟨liq, hl, hliq⟩ := roundHalfEven_spec cent
      (round28 (entry * longFactor))
    rw [hs, hl, ← longOrdered_iff
      (centsOf_round28 hentry (by norm_num) (by norm_num) hstop)
      (centsOf_round28 hentry (by norm_num [longFactor])
        (by norm_num [longFactor]) hliq),
      mul_lt_mul_iff_right₀ cent_pos, Int.cast_lt, lt_div_iff₀' cent_pos]
  · rw [stopPrice_default, liquidationPrice_default, if_neg hsize,
      if_neg hsize, if_neg hsize, if_neg (by simpa using hsize)]
    obtain ⟨stop, hs, hstop⟩ := roundHalfEven_spec cent
      (round28 (entry * (23 / 20)))
    obtain ⟨liq, hl, hliq⟩ := roundHalfEven_spec cent
      (round28 (entry * shortFactor))
    rw [hs, hl, ← shortOrdered_iff (div_pos hentry cent_pos)
      (centsOf_round28 hentry (by norm_num) (by norm_num) hstop)
      (centsOf_round28 hentry (by norm_num [shortFactor])
        (by norm_num [shortFactor]) hliq),
      mul_lt_mul_iff_right₀ cent_pos, Int.cast_lt, div_lt_iff₀' cent_pos]

/-- Every entry of at least 0.053, for a short 0.0572. -/
theorem inTime_of_le
    (h : if 0 < size then 53 / 1000 ≤ entry else 572 / 10000 ≤ entry) :
    InTime size entry := by
  unfold InTime LongOrdered ShortOrdered cent longFactor shortFactor halfLast
  split
  · next hsize =>
    rw [if_pos hsize] at h
    exact .inr (.inr (.inr (by linarith)))
  · next hsize =>
    rw [if_neg hsize] at h
    exact .inr (.inr (.inr (.inr (.inr (by linarith)))))

/-- Neither `quantize` raises on an entry that is not huge. -/
theorem prices_quantize (hentry : 0 < entry) (h : entry < 10 ^ 25) :
    Quantizes cent (stopOf size entry) ∧
      Quantizes cent (liquidationPrice size entry limitsDefault) := by
  have hbound : ∀ {factor : Decimal}, |factor| ≤ 2 →
      Quantizes cent (roundHalfEven cent (round28 (entry * factor))) := by
    intro factor hfactor
    have h₁ := round28_error (entry * factor)
    have h₂ := roundHalfEven_error cent_pos (round28 (entry * factor))
    have hprod : |entry * factor| ≤ entry * 2 := by
      rw [abs_mul, abs_of_pos hentry]
      exact mul_le_mul_of_nonneg_left hfactor hentry.le
    have h₃ := abs_sub_abs_le_abs_sub
      (roundHalfEven cent (round28 (entry * factor)))
      (round28 (entry * factor))
    have h₄ := abs_sub_abs_le_abs_sub (round28 (entry * factor))
      (entry * factor)
    unfold Quantizes
    rw [show cent = 1 / 100 from rfl] at h₂ h₃ ⊢
    linarith
  constructor
  · rw [stopOf, stopPrice_default]
    exact hbound (by split <;> norm_num)
  · rw [liquidationPrice_default]
    refine hbound ?_
    split
    · decide +kernel
    · decide +kernel

/-! ## The callers -/

section Callers

variable {V S μ : Type} {ex : Executor V}

/-- What a caller asks of the venue: one stop, which acts in time. -/
def PlacesGuard (ex : Executor V) (iid : InstrumentId) (size entry : Decimal)
    (v v' : V) : Prop :=
  ∃ trigger, Guards size entry trigger ∧ v' = (ex.placeStop iid trigger v).2

open InstrumentRouter in
theorem replaceStop_places {w : World (Durable V) (InstrumentRouter S)}
    (hlimits : w.mem.limits = limitsDefault) (hsize : w.mem.size ≠ 0)
    (hentry : w.mem.entry = some entry)
    (h : Guards w.mem.size entry (stopOf w.mem.size entry)) :
    PlacesGuard ex w.mem.instrumentId w.mem.size entry w.disk.venue
      (replaceStop ex w).2.disk.venue := by
  let placed := fun w' : World (Durable V) (InstrumentRouter S) =>
    PlacesGuard ex w.mem.instrumentId w.mem.size entry w.disk.venue
      w'.disk.venue
  refine (Prog.wp_state (P := placed)).mp ?_
  unfold replaceStop
  rw [Prog.wp_bind, Prog.wp_mem, hentry, hlimits]
  dsimp only
  rw [if_neg hsize]
  rcases hcall : ex.placeStop w.mem.instrumentId (stopOf w.mem.size entry)
    w.disk.venue with ⟨answer, v⟩
  have hplaced : PlacesGuard ex w.mem.instrumentId w.mem.size entry
      w.disk.venue v := ⟨_, h, by rw [hcall]⟩
  unfold stopOf at hcall
  simp only [Prog.wp_catching, Prog.wp_bind, wp_call, hcall]
  cases answer with
  | ok _ =>
      simp only [Prog.wp_modifyMem, wp_persist, wp_alert]
      exact hplaced
  | error e =>
      dsimp only
      rw [Prog.wp_ite]
      split
      · simp only [Prog.wp_bind, Prog.wp_modifyMem, wp_persist, wp_alert]
        exact hplaced
      · exact hplaced

theorem placeExchangeStop_places {w : World (Durable V) μ}
    {pos : PositionView} (hentry : 0 < pos.entryPrice)
    (h : Guards pos.size pos.entryPrice (stopOf pos.size pos.entryPrice)) :
    PlacesGuard ex pos.instrumentId pos.size pos.entryPrice w.disk.venue
      (placeExchangeStop ex pos limitsDefault w).2.disk.venue := by
  refine ⟨stopOf pos.size pos.entryPrice, h, ?_⟩
  let v' := (ex.placeStop pos.instrumentId
    (stopOf pos.size pos.entryPrice) w.disk.venue).2
  refine (Prog.wp_state (P := fun w' : World (Durable V) μ =>
    w'.disk.venue = v')).mp ?_
  unfold placeExchangeStop
  rw [if_neg (not_le.mpr hentry), Prog.wp_bind, wp_call]
  rcases hcall : ex.placeStop pos.instrumentId
    (stopOf pos.size pos.entryPrice) w.disk.venue with ⟨answer, v⟩
  have hv : v = v' := by
    show v = (ex.placeStop _ _ _).2
    rw [hcall]
  unfold stopOf at hcall
  rw [hcall]
  cases answer with
  | ok _ => exact hv
  | error _ => exact hv

open Backtest in
/-- The bar closes the position at its stop when it reaches it. -/
theorem stopPhase_trades (p : BacktestParams S) {bar : Bar}
    {s : BacktestState S} {high low : Decimal} (hhigh : bar.high = some high)
    (hlow : bar.low = some low) (hsize : s.book.position ≠ 0) :
    stopPhase p bar s =
      (if (if 0 < s.book.position then
          low ≤ stopOf s.book.position s.book.entry
        else stopOf s.book.position s.book.entry ≤ high) then
        tradeTo p 0 (some (stopOf s.book.position s.book.entry)) bar.spreadBps
          bar.openTs .stop ""
      else pure ()) s := by
  unfold stopPhase
  rw [hhigh, hlow]
  show (if s.book.position = 0 then _ else _ : M S Unit) s = _
  rw [if_neg hsize]
  simp only [decide_eq_true_iff]
  rfl

/-- **The stop acts before the liquidation price**, and not at the entry,
exactly for the entries on these intervals, which leave none out from 0.053 on
for a long and from 0.0572 on for a short. For these entries the stop that the
router places acts in time, and so does the one that a bar of the backtest is
compared with. All of it is for prices that have 28 digits at most, as all have
below `10 ^ 25`: for others the source raises. -/
theorem stop_before_liquidation (ex : Executor V) (p : BacktestParams S)
    (size : Decimal) {entry : Decimal} (hentry : 0 < entry) :
    (entry < 10 ^ 25 → Quantizes cent (stopOf size entry) ∧
      Quantizes cent (liquidationPrice size entry limitsDefault)) ∧
    (Quantizes cent (stopOf size entry) →
      Quantizes cent (liquidationPrice size entry limitsDefault) →
      (Guards size entry (stopOf size entry) ↔ InTime size entry) ∧
      ((if 0 < size then 53 / 1000 ≤ entry else 572 / 10000 ≤ entry) →
        InTime size entry) ∧
      (InTime size entry →
        (∀ w : World (Durable V) (InstrumentRouter S),
          w.mem.limits = limitsDefault → w.mem.size = size → size ≠ 0 →
          w.mem.entry = some entry →
            PlacesGuard ex w.mem.instrumentId size entry w.disk.venue
              (InstrumentRouter.replaceStop ex w).2.disk.venue) ∧
        (∀ (w : World (Durable V) (InstrumentRouter S)) (pos : PositionView),
          pos.size = size → pos.entryPrice = entry →
            PlacesGuard ex pos.instrumentId size entry w.disk.venue
              (placeExchangeStop ex pos limitsDefault w).2.disk.venue) ∧
        (∀ (s : BacktestState S) (bar : Bar) (high low : Decimal),
          s.book.position = size → size ≠ 0 → s.book.entry = entry →
          bar.high = some high → bar.low = some low →
            ∃ trigger, Guards size entry trigger ∧
              Backtest.stopPhase p bar s =
                (if (if 0 < size then low ≤ trigger else trigger ≤ high) then
                  Backtest.tradeTo p 0 (some trigger) bar.spreadBps bar.openTs
                    .stop ""
                else pure ()) s))) := by
  refine ⟨prices_quantize hentry, fun _ _ =>
    ⟨guards_iff size hentry, inTime_of_le, fun h => ?_⟩⟩
  have hguards := (guards_iff size hentry).mpr h
  refine ⟨?_, ?_, ?_⟩
  · rintro w hlimits rfl hsize hw
    exact replaceStop_places hlimits hsize hw hguards
  · rintro w pos rfl rfl
    exact placeExchangeStop_places hentry hguards
  · rintro s bar high low rfl hsize rfl hhigh hlow
    exact ⟨_, hguards, stopPhase_trades p hhigh hlow hsize⟩

end Callers

/-- A strategy that holds what it has. -/
def stillStrategy : Strategy Unit := ⟨0, fun s _ => (0, s), none, none⟩

def stillBacktest : BacktestParams Unit :=
  ⟨stillStrategy, [], 0, 0, 0, 0, 100, .hourlyOpen, 0⟩

/-- A router of the paper account that is long from 100. -/
def longFrom100 : World (Durable SimExecutor) (InstrumentRouter Unit) where
  mem :=
    { InstrumentRouter.fresh "run" 1 stillStrategy () [] limitsDefault
        exposureDefault with size := 1, entry := some 100 }
  disk := ⟨.empty, SimExecutor.new 1000 0 0 0 100 0 true, [], []⟩
  past := []

/-- Its stop is in time, and is the one it places. -/
theorem stop_before_liquidation_hundred :
    Guards 1 100 (stopOf 1 100) ∧
      PlacesGuard (SimExecutor.executor round28) 1 1 100
        longFrom100.disk.venue
        (InstrumentRouter.replaceStop (SimExecutor.executor round28)
          longFrom100).2.disk.venue := by
  obtain ⟨hrange, hmain⟩ := stop_before_liquidation
    (SimExecutor.executor round28) stillBacktest 1
    (show (0 : Decimal) < 100 by norm_num)
  obtain ⟨hstop, hliq⟩ := hrange (by norm_num)
  obtain ⟨hiff, hfar, hcallers⟩ := hmain hstop hliq
  have h := hfar (by norm_num)
  exact ⟨hiff.mpr h,
    (hcallers h).1 longFrom100 rfl rfl (by norm_num) rfl⟩

/-- At an entry of one cent the stop of a long is the entry, and its
liquidation price too. -/
theorem stop_at_entry :
    ¬ ∀ size entry : Decimal, 0 < entry →
      Guards size entry (stopOf size entry) := by
  intro h
  have hlong := h 1 cent cent_pos
  unfold Guards at hlong
  rw [if_pos (by norm_num)] at hlong
  exact absurd hlong.2 (by decide +kernel)

end Polyperps
