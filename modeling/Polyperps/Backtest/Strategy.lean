import Polyperps.Execution.Types

/-!
# The strategy interface

`backtest/strategy.py`: a strategy is a function of its own state and the
history. The two hooks are optional, as the callers' `getattr` makes them.
-/

namespace Polyperps

structure Strategy (S : Type) where
  /-- `getattr(strategy, "warmup", 0)`. -/
  warmup : ℕ
  target : S → List Bar → Decimal × S
  onFlatten : Option (S → S)
  onRecover : Option (ℤ → S → S)

namespace Strategy

variable {S : Type}

/-- Call `on_flatten` where there is one. -/
def flatten (strategy : Strategy S) (s : S) : S :=
  (strategy.onFlatten.map fun hook => hook s).getD s

/-- Call `on_recover` where there is one. -/
def recover (strategy : Strategy S) (positionSign : ℤ) (s : S) : S :=
  (strategy.onRecover.map fun hook => hook positionSign s).getD s

end Strategy

/-- `clamp_target`. -/
def clampTarget (x : Decimal) : Decimal := max (-1) (min 1 x)

end Polyperps
