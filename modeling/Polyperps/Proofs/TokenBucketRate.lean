import Polyperps.Exchange.RateLimiter

/-!
# The token bucket keeps the rate

From any instant on, what was acquired and what is still in the bucket
together are at most a full bucket and what has trickled in since: a refill
adds no more than that, and a call that returns moves one token from the one
to the other. A window is bounded at the last call in it. The call asleep
holds the lock, so the bucket is as it left it, and its second refill brings
the token it slept for, however long the sleep was.
-/

namespace Polyperps

variable {limits : BucketLimits} {b : TokenBucket} {done : List Acquired}
  {now t u : ℚ}

/-- The calls that completed in the closed interval from `t` to `u`. -/
def between (done : List Acquired) (t u : ℚ) : ℕ :=
  (done.filter fun a => decide (t ≤ a.time ∧ a.time ≤ u)).length

theorem between_append_inside {a : Acquired} (h : t ≤ a.time ∧ a.time ≤ u) :
    between (done ++ [a]) t u = between done t u + 1 := by
  simp [between, List.filter_append, h]

theorem between_append_outside {a : Acquired}
    (h : ¬ (t ≤ a.time ∧ a.time ≤ u)) :
    between (done ++ [a]) t u = between done t u := by
  have hfilter : [a].filter (fun a => decide (t ≤ a.time ∧ a.time ≤ u)) = [] := by
    simp only [List.filter_singleton, h, decide_false]
    rfl
  unfold between
  rw [List.filter_append, hfilter, List.append_nil]

/-- Nothing completed after the last reading. -/
theorem between_of_le (h : ∀ a ∈ done, a.time ≤ now) (hu : now ≤ u) :
    between done t u = between done t now := by
  unfold between
  congr 1
  refine List.filter_congr fun a ha => ?_
  have hle := h a ha
  exact decide_eq_decide.mpr
    ⟨fun hin => ⟨hin.1, hle⟩, fun hin => ⟨hin.1, hle.trans hu⟩⟩

theorem between_eq_zero (h : ∀ a ∈ done, a.time < t) :
    between done t u = 0 := by
  unfold between
  rw [List.length_eq_zero_iff, List.filter_eq_nil_iff]
  intro a ha hin
  exact (h a ha).not_ge (of_decide_eq_true hin).1

/-- The bucket is in its bounds, and what was acquired keeps the rate. -/
structure Fair (limits : BucketLimits) (b : TokenBucket)
    (done : List Acquired) : Prop where
  nonneg : 0 ≤ b.tokens
  le_burst : b.tokens ≤ limits.burst
  past : ∀ a ∈ done, a.time ≤ b.last
  since : ∀ t ≤ b.last, (between done t b.last : ℚ) + b.tokens ≤
    limits.burst + limits.ratePerSec * (b.last - t)
  window : ∀ t u, t ≤ u → (between done t u : ℚ) ≤
    limits.burst + limits.ratePerSec * (u - t)

theorem Fair.refill (h : Fair limits b done) (hnow : b.last ≤ now) :
    Fair limits (b.refill limits now) done := by
  have hrate := limits.rate_pos
  have hgain : 0 ≤ (now - b.last) * limits.ratePerSec :=
    mul_nonneg (sub_nonneg.mpr hnow) hrate.le
  refine ⟨?_, min_le_left _ _, fun a ha => (h.past a ha).trans hnow, ?_,
    h.window⟩
  · refine le_min ?_ (add_nonneg h.nonneg hgain)
    exact h.nonneg.trans h.le_burst
  · intro t ht
    show (between done t now : ℚ) +
      min _ (b.tokens + (now - b.last) * limits.ratePerSec) ≤
        limits.burst + limits.ratePerSec * (now - t)
    rw [between_of_le h.past hnow]
    rcases le_or_gt t b.last with hle | hgt
    · have hmin := min_le_right (limits.burst : ℚ)
        (b.tokens + (now - b.last) * limits.ratePerSec)
      have hsince := h.since t hle
      linarith
    · -- a window that opens after the last reading is empty
      rw [between_eq_zero fun a ha => (h.past a ha).trans_lt hgt]
      have hmin := min_le_left (limits.burst : ℚ)
        (b.tokens + (now - b.last) * limits.ratePerSec)
      have hlater : 0 ≤ limits.ratePerSec * (now - t) :=
        mul_nonneg hrate.le (sub_nonneg.mpr ht)
      push_cast
      linarith

theorem Fair.take (h : Fair limits b done) (hone : 1 ≤ b.tokens)
    {a : Acquired} (ha : a.time = b.last) :
    Fair limits b.take (done ++ [a]) := by
  have hpast : ∀ x ∈ done ++ [a], x.time ≤ b.last := by
    intro x hx
    rcases List.mem_append.mp hx with hx | hx
    · exact h.past x hx
    · rw [List.mem_singleton.mp hx, ha]
  have hsince : ∀ t ≤ b.last, (between (done ++ [a]) t b.last : ℚ) +
      (b.tokens - 1) ≤ limits.burst + limits.ratePerSec * (b.last - t) := by
    intro t ht
    rw [between_append_inside ⟨ht.trans_eq ha.symm, ha.le⟩]
    push_cast
    linarith [h.since t ht]
  refine ⟨sub_nonneg.mpr hone, ?_, hpast, hsince, ?_⟩
  · show b.tokens - 1 ≤ _
    linarith [h.le_burst]
  · intro t u htu
    by_cases hin : t ≤ a.time ∧ a.time ≤ u
    · -- the window is bounded at this call
      rw [ha] at hin
      rw [between_of_le hpast hin.2]
      have hlater : 0 ≤ limits.ratePerSec * (u - b.last) :=
        mul_nonneg limits.rate_pos.le (sub_nonneg.mpr hin.2)
      linarith [hsince t hin.1]
    · rw [between_append_outside hin]
      exact h.window t u htu

namespace Pacing

variable {w w' : Pacing}

/-- The bucket is fair, and the sleeper left it as it is. -/
structure Paced (limits : BucketLimits) (w : Pacing) : Prop where
  fair : Fair limits w.bucket w.acquired
  last : w.bucket.last ≤ w.clock
  sleeper : ∀ s ∈ w.sleeper, s.since = w.bucket.last ∧
    s.waited = (1 - w.bucket.tokens) / limits.ratePerSec

theorem paced_start : Paced limits (start limits now) where
  fair := by
    have hburst : (0 : ℚ) ≤ limits.burst := by
      have h := limits.one_le_burst
      exact_mod_cast (by omega : 0 ≤ limits.burst)
    have hempty : ∀ t u, t ≤ u → ((0 : ℕ) : ℚ) ≤
        limits.burst + limits.ratePerSec * (u - t) := by
      intro t u htu
      have hlater : 0 ≤ limits.ratePerSec * (u - t) :=
        mul_nonneg limits.rate_pos.le (sub_nonneg.mpr htu)
      push_cast
      linarith
    refine ⟨hburst, le_rfl, nofun, fun t ht => ?_, hempty⟩
    show ((0 : ℕ) : ℚ) + limits.burst ≤
      limits.burst + limits.ratePerSec * (now - t)
    have hlater : 0 ≤ limits.ratePerSec * (now - t) :=
      mul_nonneg limits.rate_pos.le (sub_nonneg.mpr ht)
    push_cast
    linarith
  last := le_rfl
  sleeper := nofun

theorem Paced.enter (h : Paced limits w) (hfree : w.sleeper = none)
    (caller : ℕ) : Paced limits (w.enter limits caller) := by
  have hfair := h.fair.refill h.last
  unfold Pacing.enter
  dsimp only
  split
  · refine ⟨hfair, le_rfl, fun s hs => ?_⟩
    obtain rfl := Option.some.inj hs
    exact ⟨rfl, rfl⟩
  · next hone =>
    refine ⟨hfair.take (not_lt.mp hone) rfl, le_rfl, fun s hs => ?_⟩
    have hnone : w.sleeper = some s := hs
    rw [hfree] at hnone
    cases hnone

/-- The second refill brings the token the sleep was for. -/
theorem Paced.wake (h : Paced limits w) {s : Sleeper}
    (hs : w.sleeper = some s) (hlong : s.since + s.waited ≤ w.clock) :
    Paced limits (w.wake limits s) := by
  obtain ⟨hsince, hwaited⟩ := h.sleeper s hs
  have hone : 1 ≤ (w.bucket.refill limits w.clock).tokens := by
    refine le_min (by exact_mod_cast limits.one_le_burst) ?_
    have hgain : s.waited * limits.ratePerSec ≤
        (w.clock - w.bucket.last) * limits.ratePerSec := by
      refine mul_le_mul_of_nonneg_right ?_ limits.rate_pos.le
      linarith
    rw [hwaited, div_mul_cancel₀ _ limits.rate_pos.ne'] at hgain
    linarith
  exact ⟨(h.fair.refill h.last).take hone rfl, le_rfl, nofun⟩

theorem Paced.step (h : Paced limits w) (hstep : Step limits w w') :
    Paced limits w' := by
  cases hstep with
  | time now hnow => exact ⟨h.fair, h.last.trans hnow, h.sleeper⟩
  | acquire caller hfree _ => exact h.enter hfree caller
  | queue caller _ => exact ⟨h.fair, h.last, h.sleeper⟩
  | granted caller rest hfree _ =>
      have hrest : Paced limits { w with waiting := rest } :=
        ⟨h.fair, h.last, h.sleeper⟩
      exact hrest.enter hfree caller
  | wake s hs hlong => exact h.wake hs hlong
  | cancelSleep s _ => exact ⟨h.fair, h.last, nofun⟩
  | cancelWait caller => exact ⟨h.fair, h.last, h.sleeper⟩

theorem reachable_paced
    (h : Relation.ReflTransGen (Step limits) (start limits now) w) :
    Paced limits w := by
  induction h with
  | refl => exact paced_start
  | tail _ hstep ih => exact ih.step hstep

/-- Whatever the calls, their times and their cancellations: the bucket stays
between empty and full, and a closed interval of length `d` sees at most a
full bucket and what trickles in meanwhile. -/
theorem reachable_keeps_rate
    (h : Relation.ReflTransGen (Step limits) (start limits now) w) :
    (0 ≤ w.bucket.tokens ∧ w.bucket.tokens ≤ limits.burst) ∧
      ∀ t d : ℚ, 0 ≤ d → (between w.acquired t (t + d) : ℚ) ≤
        limits.burst + limits.ratePerSec * d := by
  have hpaced := reachable_paced h
  refine ⟨⟨hpaced.fair.nonneg, hpaced.fair.le_burst⟩, fun t d hd => ?_⟩
  have hwindow := hpaced.fair.window t (t + d) (le_add_of_nonneg_right hd)
  rwa [add_sub_cancel_left] at hwindow

/-! ## A burst of one -/

def onePerSecond : BucketLimits := ⟨1, 1, by norm_num, by norm_num⟩

/-- Asleep from the half second, for half a second. -/
def asleep : Pacing where
  clock := 1 / 2
  bucket := ⟨1 / 2, 1 / 2⟩
  sleeper := some ⟨2, 1 / 2, 1 / 2⟩
  waiting := []
  acquired := [⟨1, 0, 0⟩]

/-- Woken a quarter of a second late: what came in meanwhile is cut at the
burst. -/
def overslept : Pacing where
  clock := 5 / 4
  bucket := ⟨0, 5 / 4⟩
  sleeper := none
  waiting := []
  acquired := [⟨1, 0, 0⟩, ⟨2, 5 / 4, 1 / 2⟩]

theorem overslept_reachable :
    Relation.ReflTransGen (Step onePerSecond) (start onePerSecond 0)
      overslept := by
  have hfirst : Step onePerSecond (start onePerSecond 0)
      ((start onePerSecond 0).enter onePerSecond 1) := .acquire 1 rfl rfl
  have hlater : Step onePerSecond
      ((start onePerSecond 0).enter onePerSecond 1)
      { (start onePerSecond 0).enter onePerSecond 1 with clock := 1 / 2 } :=
    .time (1 / 2) (by decide +kernel)
  have hsleep : Step onePerSecond
      { (start onePerSecond 0).enter onePerSecond 1 with clock := 1 / 2 }
      asleep := by
    have h : asleep = Pacing.enter onePerSecond
      { (start onePerSecond 0).enter onePerSecond 1 with clock := 1 / 2 } 2 := by
      decide +kernel
    rw [h]
    exact .acquire 2 (by decide +kernel) (by decide +kernel)
  have htime : Step onePerSecond asleep { asleep with clock := 5 / 4 } :=
    .time (5 / 4) (by decide +kernel)
  have hwake : Step onePerSecond { asleep with clock := 5 / 4 } overslept := by
    have h : overslept = Pacing.wake onePerSecond
      { asleep with clock := 5 / 4 } ⟨2, 1 / 2, 1 / 2⟩ := by decide +kernel
    rw [h]
    exact .wake _ rfl (by decide +kernel)
  exact ((((Relation.ReflTransGen.single hfirst).tail hlater).tail
    hsleep).tail htime).tail hwake

/-- Two calls in a second and a quarter, where two and a quarter may. -/
theorem reachable_keeps_rate_overslept :
    (between overslept.acquired 0 (0 + 5 / 4) : ℚ) ≤ 1 + 1 * (5 / 4) := by
  have h := (reachable_keeps_rate overslept_reachable).2 0 (5 / 4)
    (by norm_num)
  simpa [onePerSecond] using h

end Pacing

end Polyperps
