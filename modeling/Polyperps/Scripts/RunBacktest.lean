import Polyperps.Backtest.Harness
import Polyperps.Strategies.Hypotheses

/-!
# Choosing the parameters

`scripts/run_backtest.py` up to the choice: the bars are trimmed and checked,
split in time, every point of the grid is run on the earlier part, and the one
with the best Sharpe ratio is taken. The Sharpe ratio and the order it is
compared in are parameters, as is how a percentage is written.
-/

namespace Polyperps

/-- `SourceType.value`. -/
def SourceType.value : SourceType → String
  | .polymarketWs => "polymarket_ws"
  | .polymarketRest => "polymarket_rest"
  | .proxyHyperliquid => "proxy_hyperliquid"
  | .proxyCex => "proxy_cex"
  | .syntheticTest => "synthetic_test"

/-- The pre-registered values of `BAR` that a run uses. -/
structure SufficiencyBar where
  holdoutFraction : Decimal
  latency : ℤ
  impactBps : Decimal
  blockLen : ℕ
  notionalUsd : Decimal
  lastTradeMaxAge : ℤ
deriving DecidableEq

def barBar : SufficiencyBar where
  holdoutFraction := 30 / 100
  latency := 2 * second
  impactBps := 5
  blockLen := 24
  notionalUsd := 100
  lastTradeMaxAge := 60 * minute

/-- `_EPOCH`, the first of January 2000. -/
def epoch2000 : DateTime := 946684800 * second

/-- `chronological_split`: the last `ceil(n * fraction)` items are held out. -/
def chronologicalSplit {α : Type} (items : List α) (holdoutFraction : Decimal) :
    List α × List α :=
  let k := ⌈(items.length : Decimal) * holdoutFraction⌉.toNat
  (items.take (items.length - k), items.drop (items.length - k))

/-- `_trim_incomplete_edges`. -/
def trimIncompleteEdges (bars : List Bar) : List Bar :=
  ((bars.dropWhile fun b => !b.complete).reverse.dropWhile
    fun b => !b.complete).reverse

/-- What the script reads: the rows of both venues and the minute closes. -/
structure DataSet where
  rows : HourlyRows
  proxyRows : HourlyRows
  minuteCloses : List (DateTime × Decimal)

/-- The arguments of a run beside its data: `end` and the fee are those in
force, the fee `None` where no row is stored. -/
structure RunArgs where
  instrument : InstrumentId
  source : SourceType
  feeCategory : String
  stop : DateTime
  takerFeeRate : Option Decimal

/-- The checked bars and, where the hypothesis reads them, the proxy closes. -/
structure Prepared where
  takerFeeRate : Decimal
  bars : List Bar
  proxyCloses : Option (List (DateTime × Decimal))

namespace RunBacktest

/-- `raise SystemExit(message)`. -/
def exit {α : Type} (message : String) : Except Exc α :=
  .error ⟨.other "SystemExit", message⟩

/-- `{b.open_ts: b.close ...}` over the complete proxy bars. -/
def closesOf (proxyBars : List Bar) : List (DateTime × Decimal) :=
  proxyBars.filterMap fun b =>
    if b.complete then b.close.map fun c => (b.openTs, c) else none

/-- The proxy closes, unless they cover too few of the native hours. -/
def coveredCloses (percent : Decimal → String) (h : Hypothesis)
    (args : RunArgs) (data : DataSet) (bars : List Bar) (first : Bar) :
    Except Exc (List (DateTime × Decimal)) := do
  let proxyBars := data.proxyRows.buildBars args.instrument .proxyHyperliquid
    proxySpreadBps first.openTs args.stop
  let closes := closesOf proxyBars
  let hours := (bars.filter (·.complete)).map (·.openTs)
  let pct ← divide (hours.filter fun t => (closes.lookup t).isSome).length
    hours.length
  if pct < 9 / 10 then
    exit (h.value ++ ": Hyperliquid proxy covers only "
      ++ percent pct ++ " of native hours (need 90 %); "
      ++ "run scripts/backfill_hyperliquid.py first")
  else return closes

/-- The script up to the split: every way it can refuse to run. -/
def prepare (percent : Decimal → String) (h : Hypothesis) (args : RunArgs)
    (data : DataSet) :
    Except Exc Prepared :=
  let leg := toString args.instrument ++ "/" ++ args.source.value
  match args.takerFeeRate with
  | none =>
      exit ("no fee row for category '" ++ args.feeCategory
        ++ "'; run scripts/store_fees.py, or pass --fee-category equity to "
        ++ "use the published schedule explicitly (recorded in the run log)")
  | some takerFeeRate =>
      let all := data.rows.buildBars args.instrument args.source proxySpreadBps
        epoch2000 args.stop
      if all = [] then exit ("no bars for " ++ leg)
      else
        let bars := trimIncompleteEdges all
        if bars.length < 4 * barBar.blockLen then
          exit ("only " ++ toString bars.length ++ " bars for " ++ leg
            ++ "; nothing to test")
        else
          match bars with
          | [] => .error ⟨.other "IndexError", "list index out of range"⟩
          | first :: _ =>
              if h.needsProxy then
                if args.source ≠ .polymarketRest then
                  exit (h.value
                    ++ " trades the native leg: use --source native")
                else do
                  let closes ← coveredCloses percent h args data bars first
                  return ⟨takerFeeRate, bars, some closes⟩
              else return ⟨takerFeeRate, bars, none⟩

/-- The earlier part of the bars. -/
def trainSlice (bars : List Bar) : List Bar :=
  (chronologicalSplit bars barBar.holdoutFraction).1

/-- The arguments `main` passes to `run_backtest`. -/
def backtestParams (takerFeeRate : Decimal)
    (minuteCloses : List (DateTime × Decimal)) (strategy : Strategy Stance) :
    BacktestParams Stance where
  strategy := strategy
  minuteCloses := minuteCloses
  takerFeeRate := takerFeeRate
  warmup := strategy.warmup
  latency := barBar.latency
  impactBps := barBar.impactBps
  notional := barBar.notionalUsd
  fillFallback := .lastTrade
  lastTradeMaxAge := barBar.lastTradeMaxAge

/-- The result of a run, or what it raised. -/
def resultOf (bars : List Bar) (p : BacktestParams Stance) :
    Except Exc BacktestResult :=
  let run := runBacktest bars p (Backtest.initial Stance.start)
  match run.1 with
  | .ok _ => .ok run.2.res
  | .error e => .error e

/-- One grid point on the train slice. -/
def trial (score : List Decimal → Decimal) (h : Hypothesis) (data : DataSet)
    (prepared : Prepared) (params : h.Params) :
    Except Exc BacktestResult := do
  let strat ← buildStrategy score h params prepared.proxyCloses
  resultOf (trainSlice prepared.bars)
    (backtestParams prepared.takerFeeRate data.minuteCloses strat)

section Choice

variable {R α : Type}

/-- `max(items, key=...)`: the first of the greatest. -/
def maxBy (gt : R → R → Bool) (key : α → R) : List α → Option α
  | [] => none
  | x :: xs => some (xs.foldl (fun m y => if gt (key y) (key m) then y else m) x)

/-- The trials of the grid, in order, and the best of them by its Sharpe
ratio. -/
def chooseParams (percent : Decimal → String) (score : List Decimal → Decimal)
    (sharpe : List Decimal → R) (gt : R → R → Bool) (h : Hypothesis)
    (grid : List h.Params) (args : RunArgs) (data : DataSet) :
    Except Exc (List (h.Params × BacktestResult)
      × (h.Params × BacktestResult)) := do
  let prepared ← prepare percent h args data
  let trials ← grid.mapM fun params => do
    let res ← trial score h data prepared params
    return (params, res)
  match maxBy gt (fun t => sharpe t.2.returns) trials with
  | some best => return (trials, best)
  | none => .error ⟨.valueError, "max() iterable argument is empty"⟩

end Choice

end RunBacktest

end Polyperps
