import Polyperps.Execution.Types
import Polyperps.Lib.Significant

/-!
# The per-position guards

`risk/liquidation_guard.py`: the leverage cap and liquidation-distance floor
on an entry, the two exits of an open position, and the stop and liquidation
prices. Every division may raise, so a vetting is an `Except`.

The two prices are computed in the 28 digits of the source, since it is their
last digit that may decide how they round to a cent. `quantize` raises where
the result has more than 28 digits; the prices are its results where there is
one (`Quantizes`).
-/

namespace Polyperps

open Rounding

/-- `_Q`: quantities are multiples of this. -/
def quantityUnit : Decimal := 1 / 10 ^ 8

def cent : Decimal := 1 / 100

theorem quantityUnit_pos : 0 < quantityUnit := by norm_num [quantityUnit]

structure RiskLimits where
  maxLeverage : ℕ
  minLiqDistance : Decimal
  stopDistance : Decimal
  notionalUsd : Decimal
  maxFundingCost : Decimal
  maintenanceRate : Decimal
deriving DecidableEq

/-- `LIMITS`. -/
def limitsDefault : RiskLimits where
  maxLeverage := 3
  minLiqDistance := 25 / 100
  stopDistance := 15 / 100
  notionalUsd := 100
  maxFundingCost := 2 / 100
  maintenanceRate := 2 / 100

inductive Verdict
  | allow
  | resize (quantity : Decimal)
  | reject (reason : String)
deriving DecidableEq

def verdictLabel : Verdict → String
  | .allow => "allow"
  | .resize q => s!"resize:{Decimal.str q}"
  | .reject reason => s!"reject:{reason}"

def vetEntry (intent : Intent) (mark : Decimal) (snapshot : AccountSnapshot)
    (limits : RiskLimits) (pending : List Intent) : Except Exc Verdict :=
  if snapshot.equity ≤ 0 then .ok (.reject "equity <= 0")
  else
    let existing := (snapshot.positions.map PositionView.notional).sum
      + ((pending.filter fun i => !i.reduceOnly).map Intent.notional).sum
    let capNotional := limits.maxLeverage * snapshot.equity - existing
    if capNotional ≤ 0 then
      .ok (.reject s!"leverage cap {limits.maxLeverage}x already used")
    else do
      let allowed := min intent.notional capNotional
      let maxLevForFloor ←
        divide 1 (limits.minLiqDistance + limits.maintenanceRate)
      let floorNotional := maxLevForFloor * snapshot.equity - existing
      if floorNotional ≤ 0 then
        return .reject "liquidation-distance floor leaves no room"
      let allowed := min allowed floorNotional
      if intent.notional ≤ allowed then return .allow
      let q ← divide allowed mark
      return .resize (roundDown quantityUnit q)

/-- `check_open(...) == "flatten"`. -/
def checkOpen (position : PositionView) (mark : Decimal)
    (limits : RiskLimits) : Except Exc Bool :=
  match position.liquidationPrice with
  | none => .ok false
  | some liq =>
      if position.size = 0 then .ok false
      else do
        let distance ← divide |liq - mark| mark
        return decide (distance < limits.minLiqDistance)

/-- `stop_price`, for `side = "long"` when `long` is true. -/
def stopPrice (long : Bool) (entry : Decimal) (limits : RiskLimits) :
    Decimal :=
  let factor := if long then round28 (1 - limits.stopDistance)
    else round28 (1 + limits.stopDistance)
  roundHalfEven cent (round28 (entry * factor))

def liquidationPrice (size entry : Decimal) (limits : RiskLimits) :
    Decimal :=
  let lev : Decimal := limits.maxLeverage
  let factor := if 0 < size then
      round28 (round28 (1 - round28 (1 / lev)) + limits.maintenanceRate)
    else round28 (round28 (1 + round28 (1 / lev)) - limits.maintenanceRate)
  roundHalfEven cent (round28 (entry * factor))

def fundingExitDue (position : PositionView) (limits : RiskLimits) : Bool :=
  decide (limits.maxFundingCost * position.notional
    ≤ -position.cumulativeFunding)

end Polyperps
