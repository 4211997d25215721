import Polyperps.Execution.Types

/-!
# The execution cost model

`backtest/costs.py`, shared by the paper executor and the backtest.
-/

namespace Polyperps

/-- The cost of changing exposure by `notionalDelta`, an absolute value. Every
result is rounded by `fl`, and exact by default. -/
def fillCost (notionalDelta notional spreadBps takerFeeRate impactBps :
    Decimal) (fl : Decimal → Decimal := id) : Except Exc Decimal :=
  if notionalDelta = 0 then .ok 0
  else do
    let turnoverFraction ← divide notionalDelta notional
    let rate := fl (fl (takerFeeRate + fl (spreadBps / (2 * 10000)))
      + fl (fl (impactBps / 10000) * fl turnoverFraction))
    return fl (notionalDelta * rate)

theorem fillCost_ok {notionalDelta notional : Decimal} (h : notional ≠ 0)
    (spreadBps takerFeeRate impactBps : Decimal) :
    ∃ c, fillCost notionalDelta notional spreadBps takerFeeRate impactBps =
      .ok c := by
  unfold fillCost
  split
  · exact ⟨0, rfl⟩
  · rw [divide_of_ne_zero h]
    exact ⟨_, rfl⟩

end Polyperps
