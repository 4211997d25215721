import Polyperps.Execution.Types

/-!
# Performance statistics

`backtest/stats.py`: the drawdown of an equity curve. The Sharpe ratio, which
takes a root, is a parameter of its callers.
-/

namespace Polyperps

/-- One step of the loop of `max_drawdown`: the peak so far and the worst fall
from it. -/
def drawdownStep (s : Option Decimal × Decimal) (e : Decimal) :
    Option Decimal × Decimal :=
  let peak := match s.1 with
    | none => e
    | some p => if p < e then e else p
  let dd := peak - e
  (some peak, if s.2 < dd then dd else s.2)

/-- `max_drawdown`. -/
def maxDrawdown (equity : List Decimal) : Decimal :=
  (equity.foldl drawdownStep (none, 0)).2

end Polyperps
