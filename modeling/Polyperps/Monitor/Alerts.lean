import Polyperps.Execution.Types

/-!
# Alerts

The alert value and the pure threshold helpers of `monitor/alerts.py`. An
alert's detail keeps the source's keys; a `Decimal` in it is printed from its
exact value, since the exponent a `Decimal` carries is not part of the model.
-/

namespace Polyperps

inductive Level
  | info
  | warn
  | critical
deriving DecidableEq, Repr

structure Alert where
  level : Level
  kind : String
  instrumentId : Option InstrumentId
  detail : List (String × String)
  ts : DateTime
deriving DecidableEq

structure AlertThresholds where
  marginWarn : Decimal
  marginCritical : Decimal
  pnlWarn : Decimal
  pnlCritical : Decimal
  fundingDriftX : Decimal

/-- `ALERT_THRESHOLDS`. -/
def alertThresholds : AlertThresholds where
  marginWarn := 35 / 100
  marginCritical := 28 / 100
  pnlWarn := -5 / 100
  pnlCritical := -10 / 100
  fundingDriftX := 3

def marginAlert (liqDistance : Decimal) (instrumentId : InstrumentId)
    (ts : DateTime) (t : AlertThresholds := alertThresholds) : Option Alert :=
  let alert (level : Level) : Alert :=
    { level, kind := "margin_ratio", instrumentId := some instrumentId,
      detail := [("liq_distance", Decimal.str liqDistance)], ts }
  if liqDistance < t.marginCritical then some (alert .critical)
  else if liqDistance < t.marginWarn then some (alert .warn)
  else none

def pnlAlert (equity startEquity : Decimal) (ts : DateTime)
    (t : AlertThresholds := alertThresholds) : Option Alert :=
  if startEquity ≤ 0 then none
  else
    let dd := (equity - startEquity) / startEquity
    let alert (level : Level) : Alert :=
      { level, kind := "pnl_drawdown", instrumentId := none,
        detail := [("drawdown", Decimal.str dd)], ts }
    if dd ≤ t.pnlCritical then some (alert .critical)
    else if dd ≤ t.pnlWarn then some (alert .warn)
    else none

def fundingDriftAlert (realisedRate expectedRate : Decimal)
    (instrumentId : InstrumentId) (ts : DateTime)
    (t : AlertThresholds := alertThresholds) : Option Alert :=
  if expectedRate = 0 then none
  else
    let ratio := |realisedRate| / |expectedRate|
    if ratio < t.fundingDriftX then none
    else some
      { level := .warn, kind := "funding_drift",
        instrumentId := some instrumentId,
        detail := [("realised", Decimal.str realisedRate),
          ("expected", Decimal.str expectedRate), ("ratio", Decimal.str ratio)],
        ts }

end Polyperps
