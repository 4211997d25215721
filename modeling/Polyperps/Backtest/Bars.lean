import Polyperps.Exchange.Types

/-!
# Hourly bars from stored rows

`backtest/bars.py`. `buildBars` reads four dictionaries the queries return
(the candles by opening hour, the funding by settlement hour and, for a
native source, the last index and the book spreads by hour) and makes one bar
for each hour of the window, whether or not there is data for it.
-/

namespace Polyperps

def floorHour (t : DateTime) : DateTime := t - t % hour

/-- `statistics.median`. -/
def median (xs : List Decimal) : Decimal :=
  let sorted := xs.insertionSort (· ≤ ·)
  let n := sorted.length
  if n % 2 = 1 then sorted.getD (n / 2) 0
  else (sorted.getD (n / 2 - 1) 0 + sorted.getD (n / 2) 0) / 2

/-- `NATIVE_SOURCES`. -/
def SourceType.native : SourceType → Bool
  | .polymarketWs | .polymarketRest => true
  | _ => false

/-- `BAR.proxy_spread_bps`. -/
def proxySpreadBps : Decimal := 5

/-- What the four queries return for one instrument, source and window. -/
structure HourlyRows where
  candles : List (DateTime × Candle)
  funding : List (DateTime × Decimal)
  indexByHour : List (DateTime × Decimal)
  spreadsByHour : List (DateTime × List Decimal)

namespace HourlyRows

/-- The spread of an hour and where it is from. -/
def spreadAt (rows : HourlyRows) (source : SourceType)
    (proxySpread : Decimal) (openTs : DateTime) : Decimal × SpreadSource :=
  match if source.native then rows.spreadsByHour.lookup openTs else none with
  | some (x :: xs) => (median (x :: xs), .book)
  | _ => (proxySpread, .constant)

/-- The bar of one hour. -/
def barAt (rows : HourlyRows) (iid : InstrumentId) (source : SourceType)
    (proxySpread : Decimal) (openTs : DateTime) : Bar :=
  let c := rows.candles.lookup openTs
  let rate := rows.funding.lookup (openTs + hour)
  let spread := rows.spreadAt source proxySpread openTs
  { instrumentId := iid
    sourceType := source
    openTs := openTs
    openPrice := c.map (·.openPrice)
    high := c.map (·.high)
    low := c.map (·.low)
    close := c.map (·.close)
    indexClose := if source.native then rows.indexByHour.lookup openTs else none
    fundingRate := rate
    spreadBps := spread.1
    spreadSource := spread.2
    complete := c.isSome && rate.isSome }

/-- `build_bars`: its loop visits `first`, an hour later, and so on up to
the hour before `end`. -/
def buildBars (rows : HourlyRows) (iid : InstrumentId) (source : SourceType)
    (proxySpread : Decimal) (start stop : DateTime) : List Bar :=
  let first := floorHour start
  if stop ≤ first then []
  else
    let lastOpen := floorHour (stop - 1)
    (List.range ((lastOpen - first) / hour + 1).toNat).map fun i : ℕ =>
      rows.barAt iid source proxySpread (first + i * hour)

end HourlyRows

/-! ## Hours -/

theorem floorHour_mono {s t : DateTime} (h : s ≤ t) :
    floorHour s ≤ floorHour t := by
  unfold floorHour hour minute second
  unfold DateTime at *
  omega

@[simp] theorem floorHour_floorHour (t : DateTime) :
    floorHour (floorHour t) = floorHour t := by
  unfold floorHour hour minute second
  unfold DateTime at *
  omega

/-! ## The bars of a window -/

theorem HourlyRows.barAt_openTs {rows : HourlyRows} {iid : InstrumentId}
    {source : SourceType} {spread : Decimal} {t : DateTime} :
    (rows.barAt iid source spread t).openTs = t := rfl

/-- The bars of a window are in order and end before it does. -/
theorem HourlyRows.buildBars_sorted (rows : HourlyRows) (iid : InstrumentId)
    (source : SourceType) (spread : Decimal) (start stop : DateTime) :
    (rows.buildBars iid source spread start stop).Pairwise
        (·.openTs < ·.openTs) ∧
      ∀ b ∈ rows.buildBars iid source spread start stop, b.openTs < stop := by
  unfold HourlyRows.buildBars
  simp only
  split
  · exact ⟨List.Pairwise.nil, by simp⟩
  · next hlt =>
      refine ⟨?_, ?_⟩
      · rw [List.pairwise_map]
        refine List.pairwise_lt_range.imp fun {i j} hij => ?_
        simp only [barAt_openTs]
        unfold hour minute second
        unfold DateTime at *
        omega
      · intro b hb
        obtain ⟨i, hi, rfl⟩ := List.mem_map.mp hb
        have hi := List.mem_range.mp hi
        simp only [barAt_openTs]
        unfold floorHour hour minute second at *
        unfold DateTime at *
        omega

end Polyperps
