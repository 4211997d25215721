import Polyperps.Risk.LiquidationGuard

/-!
# The aggregate exposure caps

`risk/portfolio_exposure.py`, and the merge of the two vettings that
`order_router.apply_guards` makes of them.
-/

namespace Polyperps

open Rounding

structure ExposureLimits where
  gross : Decimal
  clusterNet : Decimal
deriving DecidableEq

/-- `EXPOSURE`. -/
def exposureDefault : ExposureLimits where
  gross := 1
  clusterNet := 6 / 10

def clusterOf (category : String) : String :=
  if category ∈ ["crypto", "equity", "index", "commodity"] then category
  else "other"

/-- `categories.get(iid, "other")`, then its cluster. -/
def clusterIn (categories : List (InstrumentId × String))
    (iid : InstrumentId) : String :=
  clusterOf ((categories.lookup iid).getD "other")

def vetExposure (intent : Intent) (positions : List PositionView)
    (equity : Decimal) (categories : List (InstrumentId × String))
    (limits : ExposureLimits) (pending : List Intent) : Except Exc Verdict :=
  if equity ≤ 0 then .ok (.reject "equity <= 0")
  else
    let sign := intent.side.sign
    let myCluster := clusterIn categories intent.instrumentId
    let entries := pending.filter fun i => !i.reduceOnly
    let grossExisting := (positions.map PositionView.notional).sum
      + (entries.map Intent.notional).sum
    let netExisting :=
      ((positions.filter fun p =>
          clusterIn categories p.instrumentId = myCluster).map
        fun p => (if 0 < p.size then 1 else -1) * p.notional).sum
      + ((entries.filter fun i =>
          clusterIn categories i.instrumentId = myCluster).map
        fun i => i.side.sign * i.notional).sum
    let grossRoom := limits.gross * equity - grossExisting
    if grossRoom ≤ 0 then .ok (.reject "gross exposure cap already used")
    else
      let allowed := min intent.notional grossRoom
      let clusterRoom := limits.clusterNet * equity - sign * netExisting
      if clusterRoom ≤ 0 then
        .ok (.reject s!"cluster net cap already used in {myCluster}")
      else
        let allowed := min allowed clusterRoom
        if intent.notional ≤ allowed then .ok .allow
        else do
          let mark ← divide intent.notional intent.quantity
          let q ← divide allowed mark
          return .resize (roundDown quantityUnit q)

/-- The tightest of the verdicts: no order if any rejects, else the intent at
the smallest quantity, its notional in proportion. -/
def applyGuards (intent : Intent) (verdicts : List (String × Verdict)) :
    Except Exc (Option Intent × List (String × String)) :=
  let labels := verdicts.map fun nv => (nv.1, verdictLabel nv.2)
  if verdicts.any fun nv => nv.2 matches .reject _ then .ok (none, labels)
  else
    let qty := (verdicts.filterMap fun nv =>
      match nv.2 with
      | .resize q => some q
      | _ => none).foldr min intent.quantity
    if qty = intent.quantity then .ok (some intent, labels)
    else do
      let notional ← divide (intent.notional * qty) intent.quantity
      return (some
        { intent with
          quantity := qty, notional := roundHalfEven cent notional },
        labels)

end Polyperps
