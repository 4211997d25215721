import Polyperps.Execution.Types

/-!
# The client-side token bucket

`exchange/rate_limiter.py`, with exact times. `acquire` holds the bucket's
lock through its sleep, so between two awaits there is at most one call inside
it: the one asleep. What can happen next is `Step`: time passes, a call comes
in or is let in, the sleeper wakes once its time is over, or a call is
cancelled where it waits.
-/

namespace Polyperps

/-- The arguments the constructor accepts. -/
structure BucketLimits where
  ratePerSec : ℚ
  burst : ℤ
  rate_pos : 0 < ratePerSec
  one_le_burst : 1 ≤ burst

/-- The checks of `TokenBucket.__init__`. -/
def bucketLimits (ratePerSec : ℚ) (burst : ℤ) : Except Exc BucketLimits :=
  if hr : ratePerSec ≤ 0 then
    .error ⟨.valueError, "rate_per_sec must be > 0"⟩
  else if hb : burst < 1 then .error ⟨.valueError, "burst must be >= 1"⟩
  else .ok ⟨ratePerSec, burst, not_le.mp hr, not_lt.mp hb⟩

/-- `_tokens` and `_last`. -/
structure TokenBucket where
  tokens : ℚ
  last : ℚ
deriving DecidableEq

/-- `_refill` at a reading of the clock. -/
def TokenBucket.refill (limits : BucketLimits) (b : TokenBucket) (now : ℚ) :
    TokenBucket where
  tokens := min limits.burst (b.tokens + (now - b.last) * limits.ratePerSec)
  last := now

/-- `_tokens -= 1`. -/
def TokenBucket.take (b : TokenBucket) : TokenBucket :=
  { b with tokens := b.tokens - 1 }

/-- A call of `acquire` asleep, since a reading of the clock. -/
structure Sleeper where
  caller : ℕ
  since : ℚ
  waited : ℚ
deriving DecidableEq

/-- A call of `acquire` that returned `waited`, by its last clock reading. -/
structure Acquired where
  caller : ℕ
  time : ℚ
  waited : ℚ
deriving DecidableEq

/-- A bucket in use: the clock, the call that holds the lock, the calls that
wait for it in order, and those that returned. -/
structure Pacing where
  clock : ℚ
  bucket : TokenBucket
  sleeper : Option Sleeper
  waiting : List ℕ
  acquired : List Acquired
deriving DecidableEq

namespace Pacing

/-- A bucket built at a reading of the clock: full. -/
def start (limits : BucketLimits) (now : ℚ) : Pacing where
  clock := now
  bucket := ⟨limits.burst, now⟩
  sleeper := none
  waiting := []
  acquired := []

/-- `acquire` from taking the lock to its return or its sleep. -/
def enter (limits : BucketLimits) (w : Pacing) (caller : ℕ) : Pacing :=
  let b := w.bucket.refill limits w.clock
  if b.tokens < 1 then
    { w with
      bucket := b
      sleeper := some ⟨caller, w.clock, (1 - b.tokens) / limits.ratePerSec⟩ }
  else
    { w with
      bucket := b.take
      acquired := w.acquired ++ [⟨caller, w.clock, 0⟩] }

/-- `acquire` from the end of its sleep. -/
def wake (limits : BucketLimits) (w : Pacing) (s : Sleeper) : Pacing :=
  { w with
    bucket := (w.bucket.refill limits w.clock).take
    sleeper := none
    acquired := w.acquired ++ [⟨s.caller, w.clock, s.waited⟩] }

/-- What can happen next. -/
inductive Step (limits : BucketLimits) : Pacing → Pacing → Prop
  /-- The clock does not go back. -/
  | time {w : Pacing} (now : ℚ) (h : w.clock ≤ now) :
      Step limits w { w with clock := now }
  /-- A call finds the lock free. -/
  | acquire {w : Pacing} (caller : ℕ) (hfree : w.sleeper = none)
      (hnone : w.waiting = []) : Step limits w (w.enter limits caller)
  /-- A call finds it taken, or others before it. -/
  | queue {w : Pacing} (caller : ℕ)
      (h : w.sleeper ≠ none ∨ w.waiting ≠ []) :
      Step limits w { w with waiting := w.waiting ++ [caller] }
  /-- The first that waits is let in. -/
  | granted {w : Pacing} (caller : ℕ) (rest : List ℕ)
      (hfree : w.sleeper = none) (hfirst : w.waiting = caller :: rest) :
      Step limits w ({ w with waiting := rest }.enter limits caller)
  /-- A sleep lasts at least as long as it was asked to. -/
  | wake {w : Pacing} (s : Sleeper) (hs : w.sleeper = some s)
      (h : s.since + s.waited ≤ w.clock) : Step limits w (w.wake limits s)
  /-- Cancelled asleep: the lock is given back, no token is taken. -/
  | cancelSleep {w : Pacing} (s : Sleeper) (hs : w.sleeper = some s) :
      Step limits w { w with sleeper := none }
  /-- Cancelled in the queue. -/
  | cancelWait {w : Pacing} (caller : ℕ) :
      Step limits w { w with waiting := w.waiting.erase caller }

end Pacing

end Polyperps
