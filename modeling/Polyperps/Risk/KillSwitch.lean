import Polyperps.Monitor.Alerts

/-!
# The kill switch's actions and the loss limit

From `risk/kill_switch.py`: what the router is told to do on a bar, and the
drawdown rule `Portfolio._shutdown` reads its cause from.
-/

namespace Polyperps

/-- `kill_switch.Action`. -/
inductive KillAction
  | run
  | pause
  | shutdown
deriving DecidableEq, Repr

def lossLimit (equity startEquity : Option Decimal) : KillAction :=
  match equity, startEquity with
  | some equity, some start =>
      if start ≤ 0 then .run
      else
        let drawdown := equity / start - 1
        if drawdown ≤ alertThresholds.pnlCritical then .shutdown
        else if drawdown ≤ alertThresholds.pnlWarn then .pause
        else .run
  | _, _ => .run

end Polyperps
