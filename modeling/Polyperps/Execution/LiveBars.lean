import Polyperps.Backtest.Bars
import Polyperps.Lib.Dict
import Polyperps.Lib.Slices

/-!
# Live hourly bars

`execution/live_bars.py`, and `seed_history` of `scripts/run_trader.py`, which
fills the history before the first live hour.
-/

namespace Polyperps

open KeyedTable Slices

/-- `_Acc`: the hour being accumulated. -/
structure Acc where
  openTs : DateTime
  o : Decimal
  h : Decimal
  l : Decimal
  c : Decimal
  index : Decimal
  funding : Decimal
  source : SourceType
  complete : Bool
deriving DecidableEq

namespace Acc

def start (t : Tick) (complete : Bool) : Acc where
  openTs := floorHour t.exchangeTs
  o := t.markPrice
  h := t.markPrice
  l := t.markPrice
  c := t.markPrice
  index := t.indexPrice
  funding := t.fundingRate
  source := t.sourceType
  complete := complete

def add (a : Acc) (t : Tick) : Acc :=
  { a with
    h := max a.h t.markPrice
    l := min a.l t.markPrice
    c := t.markPrice
    index := t.indexPrice
    funding := t.fundingRate }

/-- The closed bar of an accumulator. -/
def bar (a : Acc) (iid : InstrumentId) (spread : Decimal) : Bar where
  instrumentId := iid
  sourceType := a.source
  openTs := a.openTs
  openPrice := some a.o
  high := some a.h
  low := some a.l
  close := some a.c
  indexClose := some a.index
  fundingRate := some a.funding
  spreadBps := spread
  spreadSource := .constant
  complete := a.complete

end Acc

structure LiveBarBuilder where
  spread : Decimal
  maxHistory : ℕ
  acc : List (InstrumentId × Acc)
  hist : List (InstrumentId × List Bar)

namespace LiveBarBuilder

def new (spread : Decimal) (maxHistory : ℕ) : LiveBarBuilder :=
  ⟨spread, maxHistory, [], []⟩

/-- The history of an instrument; a `defaultdict` starts an empty one. -/
def history (b : LiveBarBuilder) (iid : InstrumentId) : List Bar :=
  (b.hist.lookup iid).getD []

/-- Extend a history and cut it to its last `maxHistory` bars. -/
def extend (b : LiveBarBuilder) (iid : InstrumentId) (bars : List Bar) :
    LiveBarBuilder :=
  { b with
    hist := put iid (keepLast b.maxHistory (b.history iid ++ bars)) b.hist }

/-- `on_tick`: the closed bar, if the tick opens a later hour. -/
def onTick (b : LiveBarBuilder) (tick : Tick) : LiveBarBuilder × Option Bar :=
  let iid := tick.instrumentId
  match b.acc.lookup iid with
  | none => ({ b with acc := put iid (Acc.start tick true) b.acc }, none)
  | some acc =>
      let hr := floorHour tick.exchangeTs
      if acc.openTs < hr then
        let closed := acc.bar iid b.spread
        let b := b.extend iid [closed]
        -- the first bar after a missing hour is incomplete
        let next := Acc.start tick (decide (hr = acc.openTs + hour))
        ({ b with acc := put iid next b.acc }, some closed)
      else ({ b with acc := put iid (acc.add tick) b.acc }, none)

/-- The builder after a sequence of ticks. -/
def onTicks (b : LiveBarBuilder) (ticks : List Tick) : LiveBarBuilder :=
  ticks.foldl (fun b t => (b.onTick t).1) b

/-- `seed`: append closed bars; the open hour is untouched. -/
def seed (b : LiveBarBuilder) (iid : InstrumentId) (bars : List Bar) :
    LiveBarBuilder := b.extend iid bars

end LiveBarBuilder

/-- `_SEED_WINDOW_FACTOR`: twice the wanted hours are scanned, so that gaps in
the stored candles still leave as many complete bars as are wanted. -/
def seedWindowFactor : ℕ := 2

/-- The bars `seed_history` appends for an instrument: the last `n` complete
ones before the current hour, with the spread the live builder stamps. -/
def seedBars (rows : HourlyRows) (iid : InstrumentId) (source : SourceType)
    (n : ℕ) (now : DateTime) : List Bar :=
  if n = 0 then []
  else
    let stop := floorHour now
    let raw := rows.buildBars iid source proxySpreadBps
      (stop - n * seedWindowFactor * hour) stop
    keepLast n ((raw.filter (·.complete)).map fun b =>
      { b with spreadBps := proxySpreadBps, spreadSource := .constant })

/-- A builder as the trader starts it, its history seeded. -/
def LiveBarBuilder.seeded (rows : HourlyRows) (iid : InstrumentId)
    (source : SourceType) (n : ℕ) (now : DateTime) (spread : Decimal)
    (maxHistory : ℕ) : LiveBarBuilder :=
  (LiveBarBuilder.new spread maxHistory).seed iid
    (seedBars rows iid source n now)

end Polyperps
