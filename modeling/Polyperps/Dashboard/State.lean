import Polyperps.Storage.Gaps

/-!
# The dashboard's gap count

`count_gaps` of `dashboard/state.py` counts the gaps of a window inside the
database, which has times as texts: it rebuilds the seconds of a stamp from
`strftime`, whose fraction has three decimals, and allows a microsecond of
slack. Times are instants here, in microseconds; the window's ends are in UTC,
and the sums of the database are exact.
-/

namespace Polyperps

/-- How a build of the database computes `strftime`. -/
structure Strftime where
  /-- Whether `%s` is of the stamp rounded to milliseconds, as in newer
  versions; in the others it is of the stamp itself. -/
  carries : Bool
  /-- Whether half a millisecond is rounded up, which the double it is held in
  decides. -/
  halfUp : DateTime → Bool

namespace Strftime

/-- `%s`. -/
def epoch (sql : Strftime) (t : DateTime) : ℤ :=
  if sql.carries then (t + 500) / 1000 / 1000 else t / second

/-- `%f`, in milliseconds: rounded, but never to a whole minute. -/
def millis (sql : Strftime) (t : DateTime) : ℤ :=
  min 59999 ((t % minute + if sql.halfUp t then 500 else 499) / 1000)

/-- `%S`. -/
def wholeSeconds (t : DateTime) : ℤ := t / second % 60

/-- `strftime('%s') + strftime('%f') - strftime('%S')`, in microseconds. -/
def secs (sql : Strftime) (t : DateTime) : ℤ :=
  sql.epoch t * second + sql.millis t * 1000 - wholeSeconds t * second

end Strftime

namespace BarTables

/-- `count_gaps`. The limit is compared in microseconds: as a number of seconds
a double tells them apart for spans of more than a century. -/
def countGaps (sql : Strftime) (db : BarTables) (table : GapTable)
    (iid : InstrumentId) (maxGap : ℤ) (start stop : DateTime) :
    Except Exc ℕ :=
  if table = .candles then .error ⟨.keyError, "'candles'"⟩
  else
    let times := db.timesIn table iid none start stop
    .ok
      (match times.min?, times.max? with
      | some first, some last =>
          (((adjacent (times.insertionSort (· ≤ ·))).countP fun ab =>
            maxGap + 1 < sql.secs ab.2 - sql.secs ab.1) +
              if maxGap < first - start then 1 else 0) +
                if maxGap < stop - last then 1 else 0
      | _, _ => 1)

end BarTables

end Polyperps
