import Polyperps.Backtest.Costs
import Polyperps.Backtest.Strategy
import Polyperps.Lib.Prog
import Polyperps.Risk.LiquidationGuard
import Polyperps.Storage.Timestamps

/-!
# The hourly backtest

`backtest/harness.py`. A run is a program on the book, the strategy's own
state and the result being built; a missing price met by arithmetic raises,
as it does in the source. `calls` is a record the code does not keep, of
what the strategy was asked and told, in order.
-/

namespace Polyperps

open ProgramLogic Rounding

inductive LedgerKind
  | funding
  | fill
  | fillUnavailable
  | gapFlatten
  | mark
  | stop
  | guardExit
deriving DecidableEq, Repr

structure LedgerRow where
  ts : DateTime
  kind : LedgerKind
  position : Decimal
  price : Option Decimal
  cashDelta : Decimal
  equity : Decimal
  note : String
deriving DecidableEq

/-- A fill as the result lists it: time, side, quantity. -/
structure Trade where
  ts : DateTime
  side : Side
  quantity : Decimal
deriving DecidableEq

structure BacktestResult where
  ledger : List LedgerRow
  equity : List (DateTime × Decimal)
  returns : List Decimal
  tradePnls : List Decimal
  fillNotionals : List Decimal
  trades : List Trade
  fills : ℕ
  fillsUnavailable : ℕ
  fillsAtHourlyOpen : ℕ
  fillsAtLastTrade : ℕ
  maxLastTradeAgeMin : ℤ
deriving DecidableEq

def BacktestResult.empty : BacktestResult :=
  ⟨[], [], [], [], [], [], 0, 0, 0, 0, 0⟩

/-- `_Book`. -/
structure Book where
  cash : Decimal
  position : Decimal
  entry : Decimal
  funding : Decimal
deriving DecidableEq

def Book.empty : Book := ⟨0, 0, 0, 0⟩

/-- A call of the strategy: asked on a history, or told it is flat. -/
inductive StrategyCall
  | target (history : List Bar)
  | onFlatten
deriving DecidableEq

inductive FillFallback
  | lastTrade
  | hourlyOpen
deriving DecidableEq, Repr

/-- The arguments of `run_backtest` beyond the bars. -/
structure BacktestParams (S : Type) where
  strategy : Strategy S
  minuteCloses : List (DateTime × Decimal)
  takerFeeRate : Decimal
  warmup : ℕ
  latency : ℤ
  impactBps : Decimal
  notional : Decimal
  fillFallback : FillFallback
  lastTradeMaxAge : ℤ

/-- What a run carries from one iteration to the next. -/
structure BacktestState (S : Type) where
  book : Book
  strategyState : S
  res : BacktestResult
  lastEquity : Decimal
  calls : List StrategyCall

def floorMinute (t : DateTime) : DateTime := t - t % minute

/-- `_sign`. -/
def signOf (x : Decimal) : ℤ := if 0 < x then 1 else if x < 0 then -1 else 0

/-- `_units`: contracts for a leg worth `|fraction| * notional`. -/
def units (fraction notional price : Decimal) : Except Exc Decimal := do
  let q ← divide (|fraction| * notional) price
  return roundDown quantityUnit q

namespace Backtest

variable {S : Type}

abbrev M (S α : Type) : Type := Prog Exc (BacktestState S) α

/-- The price an arithmetic step needs; `None` there is a `TypeError`. -/
def required (price : Option Decimal) : Except Exc Decimal :=
  match price with
  | some p => .ok p
  | none => .error ⟨.other "TypeError", "unsupported operand type(s)"⟩

def unrealised (book : Book) (notional price : Decimal) :
    Except Exc Decimal :=
  if book.position = 0 then .ok 0
  else do
    let ratio ← divide price book.entry
    return book.position * notional * (ratio - 1)

def equityAt (book : Book) (notional : Decimal) (price : Option Decimal) :
    Except Exc Decimal :=
  match price with
  | none => .ok book.cash
  | some price => do
      let u ← unrealised book notional price
      return book.cash + u

/-- `_Book.view`: the book as the router's guards see a venue position. -/
def view (book : Book) (notional : Decimal) (iid : InstrumentId)
    (price : Decimal) : Except Exc PositionView := do
  let size ← divide (book.position * notional) book.entry
  return { instrumentId := iid, size, entryPrice := book.entry
           notional := |size| * price, leverage := limitsDefault.maxLeverage
           liquidationPrice :=
             some (liquidationPrice size book.entry limitsDefault)
           unrealisedPnl := size * (price - book.entry)
           cumulativeFunding := book.funding }

def onBook (f : Book → Book) : M S Unit :=
  Prog.modify fun s => { s with book := f s.book }

def onResult (f : BacktestResult → BacktestResult) : M S Unit :=
  Prog.modify fun s => { s with res := f s.res }

def logRow (p : BacktestParams S) (ts : DateTime) (kind : LedgerKind)
    (price : Option Decimal) (cashDelta : Decimal) (note : String) :
    M S Unit := do
  let s ← Prog.get
  let equity ← Prog.ofExcept (equityAt s.book p.notional price)
  onResult fun res =>
    { res with
      ledger := res.ledger ++
        [{ ts, kind, position := s.book.position, price, cashDelta
           equity, note }] }

/-- Tell the strategy it is flat. -/
def tellFlat (p : BacktestParams S) : M S Unit :=
  Prog.modify fun s =>
    { s with
      strategyState := p.strategy.flatten s.strategyState
      calls := s.calls ++ [.onFlatten] }

/-- The part of a trade that closes: what it realises and the cost basis
left. -/
def closeLeg (p : BacktestParams S) (book : Book) (target price : Decimal) :
    Except Exc (Option Decimal × Decimal) :=
  if book.position ≠ 0 ∧ target = 0 then do
    let ratio ← divide price book.entry
    return (some (book.position * p.notional * (ratio - 1)), 0)
  else if book.position ≠ 0 ∧ |target| < |book.position| then do
    let ratio ← divide price book.entry
    return (some ((|book.position| - |target|) * signOf book.position
      * p.notional * (ratio - 1)), book.entry)
  else do
    let entry ← divide (|book.position| * book.entry
      + |target - book.position| * price) |target|
    return (none, entry)

/-- The value a trade is charged on and its quantity: a closing leg at its
current value, an opening one at the notional. -/
def legValue (p : BacktestParams S) (book : Book) (target price : Decimal) :
    Except Exc (Decimal × Decimal) :=
  let delta := target - book.position
  if book.position ≠ 0 ∧ |target| < |book.position| then do
    let value ← divide (|delta| * p.notional * price) book.entry
    let qty ← units delta p.notional book.entry
    return (value, qty)
  else do
    let qty ← units delta p.notional price
    return (|delta| * p.notional, qty)

def tradeTo (p : BacktestParams S) (target : Decimal) (price : Option Decimal)
    (spreadBps : Decimal) (ts : DateTime) (kind : LedgerKind)
    (note : String) : M S Unit := do
  let s ← Prog.get
  let delta := target - s.book.position
  if delta = 0 then pure ()
  else do
    let price ← Prog.ofExcept (required price)
    let (realised, entry) ← Prog.ofExcept (closeLeg p s.book target price)
    match realised with
    | none => pure ()
    | some realised => do
        onBook fun b => { b with cash := b.cash + realised }
        onResult fun res =>
          { res with tradePnls := res.tradePnls ++ [realised] }
    let (value, qty) ← Prog.ofExcept (legValue p s.book target price)
    let cost ← Prog.ofExcept
      (fillCost value p.notional spreadBps p.takerFeeRate p.impactBps)
    onBook fun b =>
      { b with cash := b.cash - cost, position := target, entry }
    onResult fun res =>
      { res with
        fillNotionals := res.fillNotionals ++ [value]
        trades := res.trades ++
          [{ ts, side := if 0 < delta then .buy else .sell, quantity := qty }]
        fills := res.fills + 1 }
    logRow p ts kind (some price) (-cost) note
    if target = 0 then do
      onBook fun b => { b with funding := 0 }
      tellFlat p
    else pure ()

/-- `mark`: the equity after the iteration, and its return. -/
def markEquity (p : BacktestParams S) (ts : DateTime)
    (price : Option Decimal) : M S Unit := do
  let s ← Prog.get
  let eq ← Prog.ofExcept (equityAt s.book p.notional price)
  let ret ← Prog.ofExcept (divide (eq - s.lastEquity) p.notional)
  onResult fun res =>
    { res with
      equity := res.equity ++ [(ts, eq)], returns := res.returns ++ [ret] }
  Prog.modify fun s => { s with lastEquity := eq }
  logRow p ts .mark price 0 ""

/-! ## The five phases of an iteration -/

/-- 1. The intrabar stop. -/
def stopPhase (p : BacktestParams S) (bar : Bar) : M S Unit := do
  let s ← Prog.get
  match bar.high, bar.low with
  | some high, some low =>
      if s.book.position = 0 then pure ()
      else do
        let long := decide (0 < s.book.position)
        let trigger := stopPrice long s.book.entry limitsDefault
        if (if long then low ≤ trigger else trigger ≤ high) then
          tradeTo p 0 (some trigger) bar.spreadBps bar.openTs .stop ""
        else pure ()
  | _, _ => pure ()

/-- 2. Funding on the position's value at the close. -/
def fundingPhase (p : BacktestParams S) (bar : Bar) : M S Unit := do
  let s ← Prog.get
  match bar.fundingRate, bar.close with
  | some rate, some close =>
      if s.book.position = 0 then pure ()
      else do
        let ratio ← Prog.ofExcept (divide close s.book.entry)
        let paid := -s.book.position * p.notional * ratio * rate
        onBook fun b =>
          { b with cash := b.cash + paid, funding := b.funding + paid }
        logRow p bar.openTs .funding (some close) paid ""
  | _, _ => pure ()

/-- 3. A bar after missing data: exit to flat where the close is known. -/
def gapPhase (p : BacktestParams S) (bar nxt : Bar) : M S Unit := do
  let s ← Prog.get
  match bar.close with
  | some close =>
      if s.book.position = 0 then pure ()
      else tradeTo p 0 (some close) bar.spreadBps nxt.openTs .gapFlatten ""
  | none => pure ()

/-- 4. The router's protective exits, at the close. -/
def guardPhase (p : BacktestParams S) (bar nxt : Bar) : M S Unit := do
  let s ← Prog.get
  if s.book.position = 0 then pure ()
  else do
    let close ← Prog.ofExcept (required bar.close)
    let v ← Prog.ofExcept (view s.book p.notional bar.instrumentId close)
    let flatten ← Prog.ofExcept (checkOpen v close limitsDefault)
    if flatten || fundingExitDue v limitsDefault then
      tradeTo p 0 (some close) bar.spreadBps nxt.openTs .guardExit ""
    else pure ()

/-- `minute_keys`: empty unless the fallback may use them. -/
def minuteKeys (p : BacktestParams S) : List DateTime :=
  match p.fillFallback with
  | .lastTrade => (p.minuteCloses.map Prod.fst).insertionSort (· ≤ ·)
  | .hourlyOpen => []

/-- `bisect_right`: the number of keys at or before `at`, on a sorted list. -/
def bisectRight : List DateTime → DateTime → ℕ
  | [], _ => 0
  | k :: rest, time => if k ≤ time then bisectRight rest time + 1 else 0

/-- `last_trade`: the latest key at or before `time`, if fresh enough. -/
def lastTrade (p : BacktestParams S) (time : DateTime) : Option DateTime :=
  let keys := minuteKeys p
  let i := bisectRight keys time
  if i = 0 then none
  else
    match keys[i - 1]? with
    | some k => if time - k ≤ p.lastTradeMaxAge then some k else none
    | none => none

/-- The fill of a decision: the fill minute's close, the last trade before
it, or the next open. -/
def fillPhase (p : BacktestParams S) (bar nxt : Bar) (target : Decimal) :
    M S Unit := do
  let fillMinute := floorMinute (nxt.openTs + p.latency)
  match p.minuteCloses.lookup fillMinute with
  | some price =>
      tradeTo p target (some price) bar.spreadBps nxt.openTs .fill ""
  | none =>
      match lastTrade p fillMinute with
      | some last => do
          let age := (fillMinute - last) / minute
          onResult fun res =>
            { res with
              fillsAtLastTrade := res.fillsAtLastTrade + 1
              maxLastTradeAgeMin := max res.maxLastTradeAgeMin age }
          tradeTo p target (p.minuteCloses.lookup last) bar.spreadBps
            nxt.openTs .fill s!"fill_source=last_trade age_min={age}"
      | none =>
          match nxt.openPrice with
          | some price => do
              onResult fun res =>
                { res with fillsAtHourlyOpen := res.fillsAtHourlyOpen + 1 }
              tradeTo p target (some price) bar.spreadBps nxt.openTs .fill
                "fill_source=hourly_open"
          | none => do
              onResult fun res =>
                { res with fillsUnavailable := res.fillsUnavailable + 1 }
              logRow p nxt.openTs .fillUnavailable none 0
                ("no price at " ++ Timestamps.isoText (nxt.openTs + p.latency))

/-- 5. Decide; a flip exits this bar. -/
def decidePhase (p : BacktestParams S) (history : List Bar) (bar nxt : Bar) :
    M S Unit := do
  let s ← Prog.get
  let (x, strategyState) := p.strategy.target s.strategyState history
  Prog.modify fun s =>
    { s with strategyState, calls := s.calls ++ [.target history] }
  let x := clampTarget x
  let target :=
    if s.book.position ≠ 0 ∧ x ≠ 0 ∧ signOf x ≠ signOf s.book.position then 0
    else x
  if target = s.book.position then pure ()
  else fillPhase p bar nxt target

/-- An iteration up to, and without, its closing mark. -/
def trade (p : BacktestParams S) (history : List Bar) (bar nxt : Bar) :
    M S Unit := do
  stopPhase p bar
  fundingPhase p bar
  if !bar.complete || nxt.close.isNone then gapPhase p bar nxt
  else do
    guardPhase p bar nxt
    decidePhase p history bar nxt

/-- One iteration of the loop. -/
def iteration (p : BacktestParams S) (history : List Bar) (bar nxt : Bar) :
    M S Unit := do
  trade p history bar nxt
  markEquity p nxt.openTs nxt.close

/-- Iteration `t`, which looks at `bars[: t + 1]` and one bar ahead. -/
def iterationAt (p : BacktestParams S) (bars : List Bar) (t : ℕ) :
    M S Unit :=
  match bars[t]?, bars[t + 1]? with
  | some bar, some nxt => iteration p (bars.take (t + 1)) bar nxt
  | _, _ => Prog.raise ⟨.other "IndexError", "list index out of range"⟩

def initial (strategyState : S) : BacktestState S where
  book := .empty
  strategyState := strategyState
  res := .empty
  lastEquity := 0
  calls := []

/-- The iterations `warmup .. n - 1` of a run. -/
def iterations (p : BacktestParams S) (bars : List Bar) (n : ℕ) : M S Unit :=
  Prog.forEach (List.range' p.warmup (n - p.warmup)) (iterationAt p bars)

end Backtest

/-- `run_backtest`. -/
def runBacktest {S : Type} (bars : List Bar) (p : BacktestParams S) :
    Backtest.M S Unit := Backtest.iterations p bars (bars.length - 1)

end Polyperps
