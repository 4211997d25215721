import Polyperps.Scripts.RunBacktest
import Polyperps.Signal.Base

/-!
# The validation log

`stats_clear_bar` of `signal/sufficiency.py` and `signal/validation_log.py`,
with the end of `scripts/run_backtest.py`: what a run is judged by, and the
record it appends to the log that the gate reads. The report on the stored data
and the statistics are what the run has of them, whatever they are; floats are
their exact values, and what Python writes for a value is a parameter.
-/

namespace Polyperps

open Rounding

/-! ## Sufficiency -/

/-- The values of `BAR` that a result is judged by. -/
structure EvidenceBar where
  minDays : ℕ
  minOosSharpe : Decimal

def evidenceBar : EvidenceBar where
  minDays := 60
  minOosSharpe := 1

structure SufficiencyReport where
  met : Bool
  days : Decimal
  fundingPeriods : ℕ
  sourceType : SourceType
  shortfall : List (String × String)

/-- A span in days, to two places. -/
def daysOf (span : ℤ) : Decimal := roundHalfEven (1 / 100) (span / day)

/-- `stats_clear_bar`. -/
def statsClearBar (oosSharpe ciLo : Decimal)
    (bar : EvidenceBar := evidenceBar) : Bool :=
  bar.minOosSharpe ≤ oosSharpe ∧ 0 < ciLo

/-- `evaluate_run`: whether a run screened and whether it passed. -/
def evaluateRun (source : SourceType) (sufficiency : SufficiencyReport)
    (holdoutSharpe : Decimal) (ciLo ciHi : Option Decimal)
    (holdoutFillsAtHourlyOpen : ℕ) (testedDays : Decimal)
    (robustScreened : Bool) (bar : EvidenceBar := evidenceBar) : Bool × Bool :=
  match ciLo, ciHi with
  | some lo, some _ =>
      let screened := statsClearBar holdoutSharpe lo bar
      (screened, screened && source.native && sufficiency.met &&
        decide (holdoutFillsAtHourlyOpen = 0) &&
        decide ((bar.minDays : Decimal) ≤ testedDays) && robustScreened)
  | _, _ => (false, false)

/-! ## The record of a run -/

/-- What Python writes for a value. -/
structure Printer where
  /-- `str` of a `Decimal`. -/
  decimalText : Decimal → String
  /-- A float in JSON. -/
  floatText : Decimal → String
  isoformat : DateTime → String
  /-- `%Y%m%dT%H%M%S%f`. -/
  stamp : DateTime → String

/-- What `_stats` returns: the interval of a bootstrap, or why there is none,
where one was asked for. -/
structure RunStats where
  sharpe : Decimal
  maxDd : Decimal
  hitRate : Decimal
  turnover : Decimal
  n : ℕ
  fills : ℕ
  fillsUnavailable : ℕ
  fillsAtHourlyOpen : ℕ
  fillsAtLastTrade : ℕ
  maxLastTradeAgeMin : ℤ
  barsConstantSpread : ℕ
  finalEquity : Decimal
  ci : Option (Except String (Decimal × Decimal))

namespace RunStats

/-- `stats["ci_lo"]`. -/
def ciLo (s : RunStats) : Option Decimal :=
  match s.ci with
  | some (.ok ci) => some ci.1
  | _ => none

/-- `stats["ci_hi"]`. -/
def ciHi (s : RunStats) : Option Decimal :=
  match s.ci with
  | some (.ok ci) => some ci.2
  | _ => none

def json (pr : Printer) (s : RunStats) : Json :=
  .obj ([("sharpe", .float (pr.floatText s.sharpe)),
    ("max_dd", .str (pr.decimalText s.maxDd)),
    ("hit_rate", .float (pr.floatText s.hitRate)),
    ("turnover", .str (pr.decimalText s.turnover)),
    ("n", .int s.n),
    ("fills", .int s.fills),
    ("fills_unavailable", .int s.fillsUnavailable),
    ("fills_at_hourly_open", .int s.fillsAtHourlyOpen),
    ("fills_at_last_trade", .int s.fillsAtLastTrade),
    ("max_last_trade_age_min", .int s.maxLastTradeAgeMin),
    ("bars_constant_spread", .int s.barsConstantSpread),
    ("final_equity", .str (pr.decimalText s.finalEquity))] ++
    match s.ci with
    | none => []
    | some (.ok ci) =>
        [("ci_lo", .float (pr.floatText ci.1)),
          ("ci_hi", .float (pr.floatText ci.2))]
    | some (.error note) =>
        [("ci_lo", .null), ("ci_hi", .null), ("ci_note", .str note)])

end RunStats

/-- A run of the script that gets to its record, with the trimmed bars. -/
structure RunOutcome where
  now : DateTime
  /-- `--end`. -/
  endArg : Option DateTime
  hypothesis : Hypothesis
  instrument : InstrumentId
  source : SourceType
  feeCategory : String
  takerFeeRate : Decimal
  feeFetchedAt : DateTime
  seed : ℤ
  paramsChosen : Json
  gridTried : List Json
  bars : List Bar
  bars_ne : bars ≠ []
  holdoutBars : ℕ
  train : RunStats
  holdout : RunStats
  robust : RunStats
  sufficiency : SufficiencyReport

namespace RunOutcome

variable (pr : Printer) (run : RunOutcome)

/-- `end`: never after `now`. -/
def stop : DateTime := min (run.endArg.getD run.now) run.now

/-- `make_run_id`. -/
def runId : String :=
  pr.stamp run.now ++ "-" ++ run.hypothesis.value ++ "-"
    ++ toString run.instrument ++ "-" ++ run.source.value

def firstBar : Bar := run.bars.head run.bars_ne

def lastBar : Bar := run.bars.getLast run.bars_ne

def testedStart : DateTime := run.firstBar.openTs

/-- The close of the last bar. -/
def testedEnd : DateTime := run.lastBar.openTs + hour

def testedDays : Decimal := daysOf (run.testedEnd - run.testedStart)

def robustScreened : Bool :=
  match run.robust.ciLo with
  | some lo => statsClearBar run.robust.sharpe lo
  | none => false

/-- `screened, passed`. -/
def verdict : Bool × Bool :=
  evaluateRun run.source run.sufficiency run.holdout.sharpe run.holdout.ciLo
    run.holdout.ciHi run.holdout.fillsAtHourlyOpen run.testedDays
    run.robustScreened

/-- The record of a run, as it is read back from the log. -/
def record : Record :=
  [("run_id", .str (run.runId pr)),
    ("ts", .str (pr.isoformat run.now)),
    ("end", .str (pr.isoformat run.stop)),
    ("hypothesis", .str run.hypothesis.value),
    ("harness_version", .int harnessVersion),
    ("instrument_id", .int run.instrument),
    ("source_type", .str run.source.value),
    ("params_chosen", run.paramsChosen),
    ("grid_tried", .arr run.gridTried),
    ("dataset", .obj
      [("start", .str (pr.isoformat run.firstBar.openTs)),
        ("end", .str (pr.isoformat run.lastBar.openTs)),
        ("bars", .int run.bars.length),
        ("complete_bars", .int (run.bars.countP (·.complete))),
        ("funding_periods", .int run.sufficiency.fundingPeriods),
        ("days", .str (pr.decimalText run.sufficiency.days)),
        ("tested_start", .str (pr.isoformat run.testedStart)),
        ("tested_end", .str (pr.isoformat run.testedEnd)),
        ("tested_days", .str (pr.decimalText run.testedDays)),
        ("holdout_bars", .int run.holdoutBars)]),
    ("fee_used", .str (pr.decimalText run.takerFeeRate)),
    ("fee_category_used", .str run.feeCategory),
    ("fee_fetched_at", .str (pr.isoformat run.feeFetchedAt)),
    ("latency_s", .int (barBar.latency / second)),
    ("impact_bps", .str (pr.decimalText barBar.impactBps)),
    ("seed", .int run.seed),
    ("train", run.train.json pr),
    ("holdout", run.holdout.json pr),
    ("holdout_robust", run.robust.json pr),
    ("robust_screened", .bool run.robustScreened),
    ("sufficiency", .obj
      [("met", .bool run.sufficiency.met),
        ("shortfall", .obj (run.sufficiency.shortfall.map fun kv =>
          (kv.1, .str kv.2)))]),
    ("screened", .bool run.verdict.1),
    ("passed", .bool run.verdict.2)]

end RunOutcome

end Polyperps
