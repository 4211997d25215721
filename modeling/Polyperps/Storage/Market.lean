import Polyperps.Backtest.Bars
import Polyperps.Lib.Dict

/-!
# Ticks, books and their hourly rollup

The market tables of `storage/db.py` with their hourly readers, and the prune
run of `scripts/prune.py`, which rolls closed hours up and then deletes old raw
rows. The readers take an hour from the rollup where it lies inside the window
and has a value there, and from the raw rows otherwise.

Timestamps are stored as ISO texts of one format, whose order as texts is the
order of the instants, so comparisons are made on the instants.
-/

namespace Polyperps

open KeyedTable

structure RollupRow where
  instrumentId : InstrumentId
  hourTs : DateTime
  indexClose : Option Decimal
  spreadBps : Option Decimal
  openMark : Option Decimal
deriving DecidableEq

structure MarketDb where
  ticks : List Tick
  books : List BookSnapshot
  rollups : List RollupRow
deriving DecidableEq

/-- `_FILL_LATENCY`. -/
def fillLatency : ℤ := 2 * second

/-- `_ROLLUP_GRACE`: late ticks land after the hour closes. -/
def rollupGrace : ℤ := 5 * minute

def day : ℤ := 24 * hour

/-- The hours a loop from `first` visits while they are at most `last`. -/
def hoursFrom (first last : DateTime) : List DateTime :=
  (List.range ((last - first) / hour + 1).toNat).map fun i : ℕ =>
    first + i * hour

/-- `INSERT OR IGNORE`: a row whose primary key is there is left out. -/
def insertOrIgnore {ρ κ : Type} [DecidableEq κ] (key : ρ → κ) (r : ρ)
    (t : List ρ) : List ρ :=
  if key r ∈ t.map key then t else t ++ [r]

/-- The primary keys of the three tables. -/
def Tick.key (t : Tick) : InstrumentId × SourceType × DateTime :=
  (t.instrumentId, t.sourceType, t.exchangeTs)

def BookSnapshot.key (b : BookSnapshot) :
    InstrumentId × SourceType × DateTime :=
  (b.instrumentId, b.sourceType, b.exchangeTs)

def RollupRow.key (r : RollupRow) : InstrumentId × DateTime :=
  (r.instrumentId, r.hourTs)

/-- `_median`. -/
def medianOpt (xs : List Decimal) : Option Decimal :=
  if xs = [] then none else some (median xs)

/-- `_spread_bps`, of a book whose prices are positive: none without both
sides. -/
def BookSnapshot.spreadBps (b : BookSnapshot) : Option Decimal :=
  match (b.bids.map (·.price)).max?, (b.asks.map (·.price)).min? with
  | some bestBid, some bestAsk =>
      let mid := (bestBid + bestAsk) / 2
      some ((bestAsk - bestBid) / mid * 10000)
  | _, _ => none

/-- A book cut to its first levels. -/
def BookSnapshot.levels (b : BookSnapshot) (maxLevels : ℕ) : BookSnapshot :=
  { b with bids := b.bids.take maxLevels, asks := b.asks.take maxLevels }

namespace MarketDb

def empty : MarketDb := ⟨[], [], []⟩

/-- The ticks of a native source of an instrument in `[lo, hi]`. -/
def nativeTicks (db : MarketDb) (iid : InstrumentId) (lo hi : DateTime) :
    List Tick :=
  db.ticks.filter fun t =>
    t.instrumentId = iid ∧ lo ≤ t.exchangeTs ∧ t.exchangeTs ≤ hi ∧
      t.sourceType.native

/-- `ORDER BY exchange_ts DESC LIMIT 1`. -/
def newestOf : List Tick → Option Tick
  | [] => none
  | t :: ts =>
      match newestOf ts with
      | some best => if t.exchangeTs < best.exchangeTs then some best else some t
      | none => some t

def newestTick (db : MarketDb) (iid : InstrumentId) (lo hi : DateTime) :
    Option Tick := newestOf (db.nativeTicks iid lo hi)

/-- The books of an instrument in `[lo, hi]`, in the order of time. -/
def booksBetween (db : MarketDb) (iid : InstrumentId) (lo hi : DateTime) :
    List BookSnapshot :=
  (db.books.filter fun b =>
    b.instrumentId = iid ∧ lo ≤ b.exchangeTs ∧
      b.exchangeTs ≤ hi).insertionSort fun x y => x.exchangeTs ≤ y.exchangeTs

/-- `_rollup_hours`: a column's values for the hours that lie inside the
window. -/
def rollupHours (db : MarketDb) (iid : InstrumentId)
    (column : RollupRow → Option Decimal) (start stop : DateTime) :
    List (DateTime × Decimal) :=
  db.rollups.filterMap fun r =>
    if r.instrumentId = iid ∧ start ≤ r.hourTs ∧ r.hourTs + hour - 1 ≤ stop then
      (column r).map fun v => (r.hourTs, v)
    else none

/-- An hour of a reader's loop: what is there stays, what is missing is taken
from the raw row found for it. -/
def fillHour {ρ β : Type} (row : DateTime → Option ρ) (value : ρ → β)
    (out : List (DateTime × β)) (h : DateTime) : List (DateTime × β) :=
  if (out.lookup h).isSome then out
  else
    match row h with
    | some t => put h (value t) out
    | none => out

/-- `query_last_index_by_hour`. -/
def queryLastIndexByHour (db : MarketDb) (iid : InstrumentId)
    (start stop : DateTime) : List (DateTime × Decimal) :=
  (hoursFrom (floorHour start) stop).foldl
    (fillHour
      (fun h => db.newestTick iid (max h start) (min (h + hour - 1) stop))
      (·.indexPrice))
    (db.rollupHours iid (·.indexClose) start stop)

/-- One more hour of the contiguous runs to read from the raw books. -/
def addRun (runs : List (DateTime × DateTime)) (h : DateTime) :
    List (DateTime × DateTime) :=
  match runs.getLast? with
  | some (first, stop) =>
      if stop = h then runs.dropLast ++ [(first, h + hour)]
      else runs ++ [(h, h + hour)]
  | none => [(h, h + hour)]

/-- `out.setdefault(hour, []).append(bps)` for a book with both sides. -/
def addSpread (out : List (DateTime × List Decimal)) (b : BookSnapshot) :
    List (DateTime × List Decimal) :=
  match b.spreadBps with
  | some x =>
      let h := floorHour b.exchangeTs
      put h ((out.lookup h).getD [] ++ [x]) out
  | none => out

/-- `MIN(exchange_ts)` over some rows. -/
def firstOf {ρ : Type} (ts : ρ → DateTime) (rows : List ρ) : Option DateTime :=
  (rows.map ts).min?

def booksOf (db : MarketDb) (iid : InstrumentId) : List BookSnapshot :=
  db.books.filter (·.instrumentId = iid)

def ticksOf (db : MarketDb) (iid : InstrumentId) : List Tick :=
  db.ticks.filter (·.instrumentId = iid)

/-- The hour of the oldest book of an instrument, which the hours before it
have nothing to read from; one past the window where there is no book. -/
def firstBookHour (db : MarketDb) (iid : InstrumentId) (stop : DateTime) :
    DateTime :=
  match firstOf (·.exchangeTs) (db.booksOf iid) with
  | some t => floorHour t
  | none => stop + hour

/-- `query_book_spread_bps_by_hour`. -/
def queryBookSpreadBpsByHour (db : MarketDb) (iid : InstrumentId)
    (start stop : DateTime) : List (DateTime × List Decimal) :=
  let out := (db.rollupHours iid (·.spreadBps) start stop).map fun hv =>
    (hv.1, [hv.2])
  let hours := (hoursFrom (floorHour start) stop).filter fun h =>
    (out.lookup h).isNone ∧ db.firstBookHour iid stop ≤ h
  let runs := hours.foldl addRun []
  runs.foldl
    (fun out run =>
      (db.booksBetween iid (max run.1 start) (min (run.2 - 1) stop)).foldl
        addSpread out)
    out

/-- The row of one closed hour, if there is anything to write in it. -/
def rollupRow (db : MarketDb) (iid : InstrumentId) (h : DateTime) :
    Option RollupRow :=
  let idx := (db.queryLastIndexByHour iid h (h + hour - 1)).lookup h
  let spread := medianOpt
    (((db.queryBookSpreadBpsByHour iid h (h + hour - 1)).lookup h).getD [])
  let mark := (db.newestTick iid (h - hour) (h + fillLatency)).map (·.markPrice)
  if idx.isSome ∨ spread.isSome ∨ mark.isSome then
    some ⟨iid, h, idx, spread, mark⟩
  else none

/-- The newest hour an instrument has a rollup row for. -/
def lastRollup (db : MarketDb) (iid : InstrumentId) : Option DateTime :=
  ((db.rollups.filter (·.instrumentId = iid)).map (·.hourTs)).max?

/-- The first hour to roll up: that of the oldest raw row, or the one after
the newest row. -/
def startHour (db : MarketDb) (iid : InstrumentId) (first : DateTime) :
    DateTime :=
  match db.lastRollup iid with
  | some last => max (floorHour first) (last + hour)
  | none => floorHour first

/-- The rows of an instrument: its closed hours from the one of its oldest raw
row on, after the newest rollup hour. -/
def rollupRowsOf (db : MarketDb) (now : DateTime) (iid : InstrumentId) :
    List RollupRow :=
  let firsts := (firstOf (·.exchangeTs) (db.ticksOf iid)).toList
    ++ (firstOf (·.exchangeTs) (db.booksOf iid)).toList
  match firsts.min? with
  | none => []
  | some first =>
      (hoursFrom (db.startHour iid first)
        (now - rollupGrace - hour)).filterMap (db.rollupRow iid)

/-- `rollup_hours`: every row is computed before the first is written. -/
def rollupClosed (db : MarketDb) (now : DateTime) : MarketDb :=
  let ids := (db.ticks.map (·.instrumentId)
    ++ db.books.map (·.instrumentId)).dedup.insertionSort (· ≤ ·)
  let rows := ids.flatMap (db.rollupRowsOf now)
  { db with
    rollups := rows.foldl (fun t r => insertOrIgnore RollupRow.key r t)
      db.rollups }

/-- `prune`: the raw rows before the cutoff go, batch after batch until none
is left. -/
def deleteBefore (db : MarketDb) (cutoff : DateTime) : MarketDb :=
  { db with
    ticks := db.ticks.filter fun t => cutoff ≤ t.exchangeTs
    books := db.books.filter fun b => cutoff ≤ b.exchangeTs }

/-- `run` of `scripts/prune.py`. -/
def pruneRun (db : MarketDb) (now : DateTime) (days : ℕ) : MarketDb :=
  (db.rollupClosed now).deleteBefore (now - days * day)

def insertTick (db : MarketDb) (t : Tick) : MarketDb :=
  { db with ticks := insertOrIgnore Tick.key t db.ticks }

/-- `insert_book`, with its default for `max_levels`. -/
def insertBook (db : MarketDb) (b : BookSnapshot) (maxLevels : ℕ := 10) :
    MarketDb :=
  { db with
    books := insertOrIgnore BookSnapshot.key (b.levels maxLevels) db.books }

end MarketDb

/-- A write to the market tables. -/
inductive MarketOp
  | insertTick (t : Tick)
  | insertBook (b : BookSnapshot)
  | prune (days : ℕ)
deriving DecidableEq

namespace MarketOp

/-- A write at a time; a prune run is given the current one. -/
def apply (op : MarketOp) (now : DateTime) (db : MarketDb) : MarketDb :=
  match op with
  | .insertTick t => db.insertTick t
  | .insertBook b => db.insertBook b
  | .prune days => db.pruneRun now days

/-- The same write on a copy that is never pruned. -/
def applyUnpruned (op : MarketOp) (now : DateTime) (db : MarketDb) :
    MarketDb :=
  match op with
  | .prune _ => db
  | op => op.apply now db

/-- What the writers keep to: a row is at most five minutes late and its
prices are positive, and at least a day is retained. -/
def Admissible (op : MarketOp) (now : DateTime) : Prop :=
  match op with
  | .insertTick t =>
      now - 5 * minute ≤ t.exchangeTs ∧ 0 < t.markPrice ∧ 0 < t.indexPrice
  | .insertBook b =>
      now - 5 * minute ≤ b.exchangeTs ∧
        ∀ level ∈ b.bids ++ b.asks, 0 < level.price
  | .prune days => 1 ≤ days

instance {op : MarketOp} {now : DateTime} : Decidable (op.Admissible now) :=
  match op with
  | .insertTick _ => inferInstanceAs (Decidable (_ ∧ _ ∧ _))
  | .insertBook _ => inferInstanceAs (Decidable (_ ∧ ∀ _ ∈ _, _))
  | .prune days => inferInstanceAs (Decidable (1 ≤ days))

/-- The native tick an operation inserts, if it does. -/
def nativeTick? : MarketOp → Option Tick
  | .insertTick t => if t.sourceType.native then some t else none
  | _ => none

end MarketOp

namespace MarketDb

/-- The tables after some writes, each with its time. -/
def applyAll (ops : List (DateTime × MarketOp)) (db : MarketDb) : MarketDb :=
  ops.foldl (fun db op => op.2.apply op.1 db) db

def applyAllUnpruned (ops : List (DateTime × MarketOp)) (db : MarketDb) :
    MarketDb := ops.foldl (fun db op => op.2.applyUnpruned op.1 db) db

end MarketDb

/-- A sequence of writes: in the order of time, each as the writers make it,
and no two native ticks of an instrument of the same instant. -/
structure AdmissibleWrites (ops : List (DateTime × MarketOp)) : Prop where
  ordered : ops.Pairwise (·.1 ≤ ·.1)
  each : ∀ op ∈ ops, op.2.Admissible op.1
  distinct : (ops.filterMap (·.2.nativeTick?)).Pairwise fun t t' =>
    ¬(t.instrumentId = t'.instrumentId ∧ t.exchangeTs = t'.exchangeTs)

end Polyperps
