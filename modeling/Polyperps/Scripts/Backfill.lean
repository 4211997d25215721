import Polyperps.Lib.Prog
import Polyperps.Storage.Gaps

/-!
# The native backfill

`scripts/backfill.py`, with `data_ingest/intervals.py` and the two paged calls
of `exchange/client.py`. The history is pulled in windows of a day; a window
is tried three times, funding first and candles after, and every row is
committed by itself with `INSERT OR IGNORE`. What fails for a passing reason is
tried again, a window that keeps failing is listed, anything else aborts.

The SDK behind the client is a parameter: what it answers to each call, page
by page. Waiting between two attempts changes nothing here.
-/

namespace Polyperps

open ProgramLogic KeyedTable

/-! ## Intervals -/

/-- `_UNIT_TO_KWARG`, of a letter of either case. -/
def intervalUnit (c : Char) : Option ℤ :=
  match c.toLower with
  | 's' => some second
  | 'm' => some minute
  | 'h' => some hour
  | 'd' => some day
  | 'w' => some (7 * day)
  | _ => none

/-- `parse_interval`: digits and a unit, a newline at the end allowed, as
`$` does. Digits are ASCII here. -/
def parseInterval (text : String) : Option ℤ :=
  let chars := text.toList
  let body := if chars.getLast? = some '\n' then chars.dropLast else chars
  let digits := body.dropLast
  if digits ≠ [] ∧ digits.all Char.isDigit then
    (body.getLast?.bind intervalUnit).map fun unit =>
      (digits.foldl (fun n c => 10 * n + (c.toNat - '0'.toNat)) 0 : ℕ) * unit
  else none

/-! ## What a call raises -/

/-- The exceptions of a run, by the `except` clause that meets them. -/
inductive Fault
  /-- One of `TRANSIENT_ERRORS`. -/
  | transient (name : String)
  /-- A `RuntimeError`. -/
  | runtime (message : String)
  | other (name : String)
deriving DecidableEq

/-- `closed`: the candles whose interval has ended. Without an interval the
sum raises. -/
def closed (now : DateTime) : List Candle → Except Fault (List Candle)
  | [] => .ok []
  | c :: rest =>
      match parseInterval c.interval with
      | none => .error (.other "TypeError")
      | some length => do
          let later ← closed now rest
          return if c.openTs + length ≤ now then c :: later else later

/-! ## The client -/

/-- What a paged query serves: pages until one says there are no more. -/
inductive Pager (ρ : Type)
  | last (items : List ρ)
  | more (items : List ρ) (rest : Pager ρ)
  | fails (f : Fault)

/-- The loop over the pages. -/
def Pager.rows {ρ : Type} : Pager ρ → Except Fault (List ρ)
  | .last items => .ok items
  | .more items rest => do
      let out ← rest.rows
      return items ++ out
  | .fails f => .error f

/-- A funding row as the SDK has it. -/
structure RawFunding where
  fundingRate : Decimal
  timestamp : DateTime
deriving DecidableEq

/-- A candle as the SDK has it. -/
structure RawCandle where
  timestamp : DateTime
  openPrice : Decimal
  high : Decimal
  low : Decimal
  close : Decimal
  volume : Decimal
  trades : ℤ
deriving DecidableEq

/-- `funding_from_rest`. -/
def fundingFromRest (iid : InstrumentId) (receivedTs : DateTime)
    (raw : RawFunding) : FundingObservation where
  instrumentId := iid
  fundingRate := raw.fundingRate
  exchangeTs := raw.timestamp
  receivedTs := receivedTs
  sourceType := .polymarketRest

/-- `candle_from_rest`. -/
def candleFromRest (iid : InstrumentId) (interval : String)
    (receivedTs : DateTime) (raw : RawCandle) : Candle where
  instrumentId := iid
  interval := interval
  openTs := raw.timestamp
  openPrice := raw.openPrice
  high := raw.high
  low := raw.low
  close := raw.close
  volume := raw.volume
  trades := raw.trades
  receivedTs := receivedTs
  sourceType := .polymarketRest

/-- The fields of an `Instrument` the script reads. -/
structure Instrument where
  instrumentId : InstrumentId
  symbol : String
  fundingInterval : String
deriving DecidableEq

/-- The SDK and the client's clock, by the number of the call. -/
structure Sdk where
  instruments : Except Fault (List Instrument)
  funding : ℕ → InstrumentId → DateTime → DateTime → Pager RawFunding
  candles : ℕ → InstrumentId → String → DateTime → DateTime → Pager RawCandle
  clock : ℕ → DateTime

abbrev Window := DateTime × DateTime

/-- What is printed of an instrument. There is no check of the funding where
its interval is not one. -/
structure InstrumentReport where
  instrumentId : InstrumentId
  symbol : String
  fundingRows : ℕ
  candleRows : ℕ
  fundingGaps : Option (List Window)
  candleGaps : List Window
  failedWindows : List Window
deriving DecidableEq

/-- What a run keeps in memory: the calls made and what it has printed. -/
structure Session where
  calls : ℕ
  reports : List InstrumentReport

/-- The primary keys of the two tables. -/
def FundingObservation.key (f : FundingObservation) :
    InstrumentId × SourceType × DateTime :=
  (f.instrumentId, f.sourceType, f.exchangeTs)

def Candle.key (c : Candle) :
    InstrumentId × String × SourceType × DateTime :=
  (c.instrumentId, c.interval, c.sourceType, c.openTs)

namespace Backfill

abbrev Act (α : Type) : Type := Prog Fault (World BarTables Session) α

variable (sdk : Sdk)

/-- The number of this call. -/
def nextCall : Act ℕ := do
  let s ← Prog.mem
  Prog.modifyMem fun s => { s with calls := s.calls + 1 }
  return s.calls

/-- `fetch_funding_history`. -/
def fetchFundingHistory (iid : InstrumentId) (start stop : DateTime) :
    Act (List FundingObservation) := do
  let n ← nextCall
  let raw ← Prog.ofExcept (sdk.funding n iid start stop).rows
  return raw.map (fundingFromRest iid (sdk.clock n))

/-- `fetch_candles`. -/
def fetchCandles (iid : InstrumentId) (interval : String)
    (start stop : DateTime) : Act (List Candle) := do
  let n ← nextCall
  let raw ← Prog.ofExcept (sdk.candles n iid interval start stop).rows
  return raw.map (candleFromRest iid interval (sdk.clock n))

/-- `insert_funding`: whether the row is new. -/
def insertFunding (f : FundingObservation) : Act Bool :=
  Prog.commit fun db =>
    (.ok (f.key ∉ db.fundingRates.map FundingObservation.key),
      { db with
        fundingRates := insertOrIgnore FundingObservation.key f
          db.fundingRates })

/-- `insert_candle`. -/
def insertCandle (c : Candle) : Act Bool :=
  Prog.commit fun db =>
    (.ok (c.key ∉ db.candles.map Candle.key),
      { db with candles := insertOrIgnore Candle.key c db.candles })

/-- `sum(insert(r) for r in rows)`. -/
def insertAll {ρ : Type} (insert : ρ → Act Bool) : List ρ → Act ℕ
  | [] => pure 0
  | r :: rest => do
      let fresh ← insert r
      let n ← insertAll insert rest
      return (if fresh then 1 else 0) + n

/-- One attempt at a window. -/
def attemptWindow (iid : InstrumentId) (interval : String) (now : DateTime)
    (w : Window) : Act (ℕ × ℕ) := do
  let funding ← fetchFundingHistory sdk iid w.1 w.2
  let fundingRows ← insertAll insertFunding funding
  let candles ← fetchCandles sdk iid interval w.1 w.2
  let done ← Prog.ofExcept (closed now candles)
  let candleRows ← insertAll insertCandle done
  return (fundingRows, candleRows)

/-- `_MAX_ATTEMPTS`. -/
def maxAttempts : ℕ := 3

/-- `_fetch_window` with so many attempts left. -/
def fetchWindow (iid : InstrumentId) (interval : String) (now : DateTime)
    (w : Window) : ℕ → Act (ℕ × ℕ)
  | 0 => Prog.raise (.runtime "exhausted retries")
  | left + 1 =>
      Prog.catching (attemptWindow sdk iid interval now w) fun e =>
        match e with
        | .transient _ => fetchWindow iid interval now w left
        | e => Prog.raise e

/-- The windows of the loop, while there is time left and turns to take. -/
def windowsFrom (stop : DateTime) : ℕ → DateTime → List Window
  | 0, _ => []
  | turns + 1, start =>
      if start < stop then
        (start, min (start + day) stop) ::
          windowsFrom stop turns (min (start + day) stop)
      else []

/-- The loop makes a turn for each day, the last one for what is left. -/
def windows (start stop : DateTime) : List Window :=
  windowsFrom stop ((stop - start) / day + 1).toNat start

/-- The counts and the failed windows with one window more. -/
def tally (w : Window) (rows : Option (ℕ × ℕ))
    (later : (ℕ × ℕ) × List Window) : (ℕ × ℕ) × List Window :=
  match rows with
  | some (f, c) => ((f + later.1.1, c + later.1.2), later.2)
  | none => (later.1, w :: later.2)

/-- The loop over the windows: the new rows of each kind and the windows that
failed. Any exception but a `RuntimeError` leaves it. -/
def backfillWindows (iid : InstrumentId) (interval : String) (now : DateTime) :
    List Window → Act ((ℕ × ℕ) × List Window)
  | [] => pure ((0, 0), [])
  | w :: rest => do
      let rows ← Prog.catching
        (do
          let rows ← fetchWindow sdk iid interval now w maxAttempts
          return some rows)
        fun e =>
          match e with
          | .runtime _ => pure none
          | e => Prog.raise e
      let later ← backfillWindows iid interval now rest
      return tally w rows later

/-- A gap report, of a table and an interval that do not raise. -/
def gapsOf (db : BarTables) (iid : InstrumentId) (table : GapTable)
    (maxGap : ℤ) (start stop : DateTime) (interval : Option String) :
    Except Fault (List Window) :=
  (db.findGaps iid table maxGap start stop interval).mapError fun _ =>
    .other "ValueError"

/-- The check of the funding allows one interval to be missed; without an
interval there is none. -/
def fundingCheck (db : BarTables) (inst : Instrument)
    (start stop : DateTime) : Except Fault (Option (List Window)) :=
  match parseInterval inst.fundingInterval with
  | none => .ok none
  | some fi => (gapsOf db inst.instrumentId .fundingRates (2 * fi) start stop
      none).map some

/-- The check of the candles allows one bar to be missed. -/
def candleCheck (db : BarTables) (iid : InstrumentId) (interval : String)
    (start stop : DateTime) : Except Fault (List Window) :=
  match parseInterval interval with
  | none => .error (.other "TypeError")
  | some ci => gapsOf db iid .candles (2 * ci) start stop (some interval)

/-- An instrument: its windows, then the two gap checks. -/
def backfillInstrument (inst : Instrument) (interval : String)
    (start stop : DateTime) : Act Unit := do
  let iid := inst.instrumentId
  let (counts, failed) ← backfillWindows sdk iid interval stop
    (windows start stop)
  let db ← Prog.disk id
  let fundingGaps ← Prog.ofExcept (fundingCheck db inst start stop)
  let candleGaps ← Prog.ofExcept (candleCheck db iid interval start stop)
  Prog.modifyMem fun s =>
    { s with
      reports := s.reports ++
        [⟨iid, inst.symbol, counts.1, counts.2, fundingGaps, candleGaps,
          failed⟩] }

/-- The loop over the configured instruments; one the venue does not have is
passed over. -/
def backfillInstruments (instruments : List (InstrumentId × Instrument))
    (interval : String) (start stop : DateTime) :
    List InstrumentId → Act Unit := fun ids =>
  Prog.forEach ids fun iid =>
    match instruments.lookup iid with
    | none => pure ()
    | some inst => backfillInstrument sdk inst interval start stop

/-- `main` from the connection on: whether it exits with 1. -/
def main (ids : List InstrumentId) (interval : String)
    (start stop : DateTime) : Act Bool := do
  let listed ← Prog.ofExcept sdk.instruments
  let instruments := dictOf Instrument.instrumentId id listed
  Prog.catching
    (do
      backfillInstruments sdk instruments interval start stop ids
      let s ← Prog.mem
      return s.reports.any fun r => r.failedWindows ≠ [])
    fun _ => pure true

end Backfill

end Polyperps
