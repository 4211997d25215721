import Polyperps.Storage.BarTables

/-!
# Gaps in a stored series

`storage/gaps.py`: the holes longer than a limit that a window of a table has,
before its first row, between rows and after its last one.
-/

namespace Polyperps

/-- The tables of `_TIME_COLUMN`. -/
inductive GapTable
  | ticks
  | fundingRates
  | candles
deriving DecidableEq, Repr

namespace BarTables

/-- The time column of an instrument's rows within `[start, stop]`. -/
def timesIn (db : BarTables) (table : GapTable) (iid : InstrumentId)
    (interval : Option String) (start stop : DateTime) : List DateTime :=
  let times : List DateTime :=
    match table with
    | .ticks => (db.market.ticks.filter (·.instrumentId = iid)).map
        (·.exchangeTs)
    | .fundingRates => (db.fundingRates.filter (·.instrumentId = iid)).map
        (·.exchangeTs)
    | .candles => (db.candles.filter fun c =>
        c.instrumentId = iid ∧ some c.interval = interval).map (·.openTs)
  times.filter fun t => start ≤ t ∧ t ≤ stop

/-- `zip(stamps, stamps[1:])`. -/
def adjacent (stamps : List DateTime) : List (DateTime × DateTime) :=
  stamps.zip stamps.tail

/-- `find_gaps`. -/
def findGaps (db : BarTables) (iid : InstrumentId) (table : GapTable)
    (maxGap : ℤ) (start stop : DateTime) (interval : Option String) :
    Except Exc (List (DateTime × DateTime)) :=
  if table = .candles ∧ interval = none then
    .error ⟨.valueError, "interval is required when table='candles'"⟩
  else
    let stamps := (db.timesIn table iid interval start stop).insertionSort
      (· ≤ ·)
    .ok
      (match stamps.head?, stamps.getLast? with
      | some first, some last =>
          (if maxGap < first - start then [(start, first)] else []) ++
            ((adjacent stamps).filter fun ab => maxGap < ab.2 - ab.1) ++
              if maxGap < stop - last then [(last, stop)] else []
      | _, _ => [(start, stop)])

end BarTables

end Polyperps
