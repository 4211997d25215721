import Polyperps.Lib.Sorting
import Polyperps.Storage.Market

/-!
# The tables under the bars

The candles and funding rates of `storage/db.py` beside the market tables, the
two queries on them, and `build_bars` of `backtest/bars.py` from the stored
rows: it reads the four tables over the hours of its window and hands the
dictionaries to `HourlyRows.buildBars`. A stored book whose mid is zero makes
the spread reader raise.
-/

namespace Polyperps

open KeyedTable

structure FundingObservation where
  instrumentId : InstrumentId
  fundingRate : Decimal
  exchangeTs : DateTime
  receivedTs : DateTime
  sourceType : SourceType
deriving DecidableEq

structure BarTables where
  market : MarketDb
  candles : List Candle
  fundingRates : List FundingObservation
deriving DecidableEq

/-- What `_spread_bps` raises for a book, if it does. -/
def BookSnapshot.spreadFault (b : BookSnapshot) : Option Exc :=
  match (b.bids.map (·.price)).max?, (b.asks.map (·.price)).min? with
  | some bestBid, some bestAsk =>
      match divide (bestAsk - bestBid) ((bestBid + bestAsk) / 2) with
      | .error e => some e
      | .ok _ => none
  | _, _ => none

namespace MarketDb

/-- The contiguous runs of hours `query_book_spread_bps_by_hour` reads from
the books. -/
def bookRuns (db : MarketDb) (iid : InstrumentId) (start stop : DateTime) :
    List (DateTime × DateTime) :=
  let out := (db.rollupHours iid (·.spreadBps) start stop).map fun hv =>
    (hv.1, [hv.2])
  ((hoursFrom (floorHour start) stop).filter fun h =>
    (out.lookup h).isNone ∧ db.firstBookHour iid stop ≤ h).foldl addRun []

/-- What `query_book_spread_bps_by_hour` raises: the fault of the first book
it reads that has one. -/
def spreadsFault (db : MarketDb) (iid : InstrumentId)
    (start stop : DateTime) : Option Exc :=
  ((db.bookRuns iid start stop).flatMap fun run =>
    db.booksBetween iid (max run.1 start) (min (run.2 - 1) stop)).findSome?
      (·.spreadFault)

end MarketDb

namespace BarTables

/-- `query_funding`. -/
def queryFunding (db : BarTables) (iid : InstrumentId)
    (start stop : DateTime) (source : Option SourceType) :
    List FundingObservation :=
  (db.fundingRates.filter fun f =>
    f.instrumentId = iid ∧ start ≤ f.exchangeTs ∧ f.exchangeTs ≤ stop ∧
      ∀ s ∈ source, f.sourceType = s).insertionSort
        fun x y => x.exchangeTs ≤ y.exchangeTs

/-- `query_candles`. -/
def queryCandles (db : BarTables) (iid : InstrumentId) (interval : String)
    (source : SourceType) (start stop : DateTime) : List Candle :=
  (db.candles.filter fun c =>
    c.instrumentId = iid ∧ c.interval = interval ∧ c.sourceType = source ∧
      start ≤ c.openTs ∧ c.openTs ≤ stop).insertionSort
        fun x y => x.openTs ≤ y.openTs

/-- The four dictionaries of `build_bars`. The ticks and books are read for a
native source only. -/
def hourlyRows (db : BarTables) (iid : InstrumentId) (source : SourceType)
    (start stop : DateTime) : Except Exc HourlyRows :=
  let first := floorHour start
  let lastOpen := floorHour (stop - 1)
  let tickEnd := lastOpen + hour - 1
  let candles := dictOf Candle.openTs id
    (db.queryCandles iid "1h" source first lastOpen)
  let funding := dictOf (fun f : FundingObservation => floorHour f.exchangeTs)
    FundingObservation.fundingRate
    (db.queryFunding iid (first + hour) (lastOpen + 2 * hour - 1) (some source))
  if source.native then
    match db.market.spreadsFault iid first tickEnd with
    | some e => .error e
    | none => .ok
        { candles := candles
          funding := funding
          indexByHour := db.market.queryLastIndexByHour iid first tickEnd
          spreadsByHour :=
            db.market.queryBookSpreadBpsByHour iid first tickEnd }
  else .ok ⟨candles, funding, [], []⟩

/-- `build_bars`. -/
def buildBars (db : BarTables) (iid : InstrumentId) (source : SourceType)
    (proxySpread : Decimal) (start stop : DateTime) :
    Except Exc (List Bar) :=
  if stop ≤ floorHour start then .ok []
  else do
    let rows ← db.hourlyRows iid source start stop
    return rows.buildBars iid source proxySpread start stop

end BarTables

end Polyperps
