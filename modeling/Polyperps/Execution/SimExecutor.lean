import Polyperps.Backtest.Costs
import Polyperps.Execution.InstrumentRouter

/-!
# The paper executor

`execution/sim_executor.py`: an in-memory account that fills at the live
mark, fires its own stops, and queues the events of what it filled. Its
dictionaries are keyed lists, because the order of a dictionary decides the
order in which stops fire and positions are listed. A method is a program on
the account alone, which makes the account an executor state.

The methods that compute take the rounding `fl` of a result, applied after
every operation of the source: `round28` is what the source computes with, and
`id` is exact arithmetic.
-/

namespace Polyperps

open ProgramLogic KeyedTable

structure SimPos where
  size : Decimal
  entry : Decimal
  funding : Decimal
deriving DecidableEq

def SimPos.zero : SimPos := ⟨0, 0, 0⟩

/-- The injected failure modes of `fail_queue` and `fail_next`. -/
inductive FailMode
  | timeout
  | reject
  | drop
deriving DecidableEq, Repr

/-- What `to_json` writes. -/
structure SavedAccount where
  cash : Decimal
  startEquity : Decimal
  n : ℕ
  positions : List (InstrumentId × SimPos)
  stops : List (InstrumentId × Decimal)
  marks : List (InstrumentId × Decimal)
deriving DecidableEq

structure SimExecutor where
  cash : Decimal
  startEquity : Decimal
  fee : Decimal
  spread : Decimal
  impact : Decimal
  notional : Decimal
  /-- What `self._clock()` reads. -/
  now : DateTime
  marks : List (InstrumentId × Decimal)
  pos : List (InstrumentId × SimPos)
  stops : List (InstrumentId × Decimal)
  queue : List Event
  n : ℕ
  failNext : Option FailMode
  failQueue : List FailMode
  heartbeatCount : ℕ
  /-- The last text handed to the `persist` callback, where there is one. -/
  saved : Option SavedAccount
  persists : Bool
deriving DecidableEq

namespace SimExecutor

/-- A dictionary assignment. -/
def assign {β : Type} (k : InstrumentId) (v : β)
    (t : List (InstrumentId × β)) : List (InstrumentId × β) :=
  upsert Prod.fst (fun _ new => new) (k, v) t

/-- `dict.pop(k, None)`. -/
def remove {β : Type} (k : InstrumentId) (t : List (InstrumentId × β)) :
    List (InstrumentId × β) := t.filter fun kv => kv.1 ≠ k

def new (equity takerFeeRate spread impact notional : Decimal)
    (now : DateTime) (persists : Bool) : SimExecutor where
  cash := equity
  startEquity := equity
  fee := takerFeeRate
  spread := spread
  impact := impact
  notional := notional
  now := now
  marks := []
  pos := []
  stops := []
  queue := []
  n := 0
  failNext := none
  failQueue := []
  heartbeatCount := 0
  saved := none
  persists := persists

abbrev M (α : Type) : Type := Prog Exc SimExecutor α

def toJson (s : SimExecutor) : SavedAccount where
  cash := s.cash
  startEquity := s.startEquity
  n := s.n
  positions := s.pos.filter fun ip => ip.2.size ≠ 0
  stops := s.stops
  marks := s.marks

def save : M Unit :=
  Prog.modify fun s => if s.persists then { s with saved := some s.toJson }
    else s

/-- The position of an instrument, zero where there is none. -/
def posOf (s : SimExecutor) (iid : InstrumentId) : SimPos :=
  (s.pos.lookup iid).getD .zero

/-- The signed size the account holds. -/
def size (s : SimExecutor) (iid : InstrumentId) : Decimal := (s.posOf iid).size

/-! ## Market data in -/

def updateMark (iid : InstrumentId) (mark : Decimal) : M Unit :=
  Prog.modify fun s => { s with marks := assign iid mark s.marks }

/-- `self._marks[iid]`. -/
def markOf (iid : InstrumentId) : M Decimal := do
  let s ← Prog.get
  match s.marks.lookup iid with
  | some mark => return mark
  | none => Prog.raise ⟨.keyError, toString iid⟩

def applyFunding (fl : Decimal → Decimal) (iid : InstrumentId)
    (rate : Decimal) : M Unit := do
  let s ← Prog.get
  match (s.pos.lookup iid).filter (·.size ≠ 0) with
  | none => pure ()
  | some p => do
      let mark ← markOf iid
      let paid := fl (fl (fl (-p.size) * mark) * rate)
      Prog.modify fun s =>
        { s with
          pos := assign iid { p with funding := fl (p.funding + paid) } s.pos
          cash := fl (s.cash + paid) }
      save

/-- The runner's `on_bar` hook. -/
def onBar (fl : Decimal → Decimal) (bar : Bar) : M Unit :=
  match bar.fundingRate with
  | some rate => applyFunding fl bar.instrumentId rate
  | none => pure ()

/-! ## Trading -/

/-- The account's arithmetic for a trade of `delta` at `price`: the position
it leaves and the cash it realises, if it does. -/
def tradePosition (fl : Decimal → Decimal) (p : SimPos)
    (delta price : Decimal) : SimPos × Option Decimal :=
  let old := p.size
  let new := fl (p.size + delta)
  let q : SimPos × Option Decimal :=
    if old = 0 then ({ p with size := new, entry := price }, none)
    else if (0 < old ↔ 0 < new) ∧ fl |old| < fl |new| then
      ({ p with
          size := new
          entry := fl (fl (fl (fl |old| * p.entry) + fl (fl |delta| * price))
            / fl |new|) }, none)
    else if (0 < old ↔ 0 < new) ∧ new ≠ 0 then
      ({ p with size := new },
        some (fl (fl (fl (fl |old| - fl |new|) * (if 0 < old then 1 else -1))
          * fl (price - p.entry))))
    else
      ({ p with size := new, entry := if new ≠ 0 then price else 0 },
        some (fl (old * fl (price - p.entry))))
  ({ q.1 with funding := if q.1.size = 0 then 0 else q.1.funding }, q.2)

def applyPosition (fl : Decimal → Decimal) (iid : InstrumentId)
    (delta price : Decimal) : M Unit :=
  Prog.modify fun s =>
    let (p, realised) := tradePosition fl (s.posOf iid) delta price
    { s with
      pos := assign iid p s.pos
      cash := realised.elim s.cash fun x => fl (s.cash + x) }

/-- `_fill` once the price is known. -/
def fillAt (fl : Decimal → Decimal) (order : OrderRequest) (ts : DateTime)
    (quantity px : Decimal) : M FillUpdate := do
  let s ← Prog.get
  let fee ← Prog.ofExcept
    (fillCost (fl (quantity * px)) s.notional s.spread s.fee s.impact fl)
  Prog.modify fun s => { s with cash := fl (s.cash - fee) }
  applyPosition fl order.instrumentId (fl (order.side.sign * quantity)) px
  return { clientOrderId := order.clientOrderId
           instrumentId := order.instrumentId, side := order.side
           quantity, price := px, fee, ts }

/-- `_fill`, at the live mark unless a price is given. -/
def fill (fl : Decimal → Decimal) (order : OrderRequest) (ts : DateTime)
    (quantity : Decimal) (price : Option Decimal) : M FillUpdate := do
  let px ← match price with
    | some px => pure px
    | none => markOf order.instrumentId
  fillAt fl order ts quantity px

def rejectedAck (order : OrderRequest) (reason : String) (ts : DateTime) :
    OrderAck :=
  { clientOrderId := order.clientOrderId, exchangeOrderId := none
    status := .rejected, reason, ts }

/-- The reduce-only rule: nothing to reduce, or the wrong side. -/
def refusesReduce (order : OrderRequest) (size : Decimal) : Bool :=
  order.reduceOnly && decide (size = 0 ∨ (0 < size ↔ order.side = .buy))

/-- The quantity `submit` fills: a reduce-only order stops at flat. -/
def fillQuantity (fl : Decimal → Decimal) (order : OrderRequest)
    (size : Decimal) : Decimal :=
  if order.reduceOnly then min order.quantity (fl |size|) else order.quantity

/-- `submit` of an order the account takes: fill, queue the events, save, and
acknowledge unless the answer is to be lost. -/
def execute (fl : Decimal → Decimal) (lost : Bool) (order : OrderRequest)
    (ts : DateTime) (fillQty : Decimal) : M OrderAck := do
  Prog.modify fun s => { s with n := s.n + 1 }
  let ev ← fill fl order ts fillQty none
  Prog.modify fun s =>
    { s with
      queue := s.queue ++
        [.order
          { clientOrderId := order.clientOrderId, status := .filled
            filledQuantity := fillQty, ts },
         .fill ev] }
  save
  let s ← Prog.get
  if lost then
    Prog.raise ⟨.executorTimeout,
      s!"sim: injected timeout for {order.clientOrderId}"⟩
  else
    return { clientOrderId := order.clientOrderId
             exchangeOrderId := some s!"sim-{s.n}"
             status := .accepted, reason := "", ts }

/-- `self._pos.setdefault`: the entry is there from now on, traded or not. -/
def ensurePos (iid : InstrumentId) : M Unit :=
  Prog.modify fun s => { s with pos := assign iid (s.posOf iid) s.pos }

/-- `submit` once the failure mode is known. -/
def submitMode (fl : Decimal → Decimal) (mode : Option FailMode)
    (order : OrderRequest) : M OrderAck := do
  let s ← Prog.get
  match mode with
  | some .drop =>
      Prog.raise ⟨.executorTimeout,
        s!"sim: injected drop for {order.clientOrderId}"⟩
  | some .reject => return rejectedAck order "sim: injected reject" s.now
  | mode => do
      ensurePos order.instrumentId
      let size := s.size order.instrumentId
      if refusesReduce order size then
        return rejectedAck order
          "reduce_only order would open or increase a position" s.now
      else
        execute fl (mode = some .timeout) order s.now
          (fillQuantity fl order size)

/-- Take the next injected failure mode, if any. -/
def nextMode : M (Option FailMode) := do
  let s ← Prog.get
  match s.failQueue with
  | mode :: rest => do
      Prog.modify fun s => { s with failQueue := rest }
      return some mode
  | [] => do
      Prog.modify fun s => { s with failNext := none }
      return s.failNext

def submit (fl : Decimal → Decimal) (order : OrderRequest) : M OrderAck := do
  let mode ← nextMode
  submitMode fl mode order

def placeStop (iid : InstrumentId) (trigger : Decimal) : M Unit := do
  Prog.modify fun s => { s with stops := assign iid trigger s.stops }
  save

def cancelStop (iid : InstrumentId) : M Unit := do
  Prog.modify fun s => { s with stops := remove iid s.stops }
  save

/-- The id of a fired stop's fill. -/
def stopCid (iid : InstrumentId) (n : ℕ) : ClientOrderId :=
  s!"sim-stop-{iid}-{n}"

/-- Whether a stop fires on a position at a mark. -/
def triggered (size trigger mark : Decimal) : Bool :=
  decide ((0 < size ∧ mark ≤ trigger) ∨ (size < 0 ∧ trigger ≤ mark))

/-- One stop: the fill it made, if it fired. -/
def checkTrigger (fl : Decimal → Decimal) (iid : InstrumentId)
    (trigger : Decimal) : M (Option FillUpdate) := do
  let s ← Prog.get
  match s.marks.lookup iid with
  | none => return none
  | some mark =>
      let size := s.size iid
      if size ≠ 0 ∧ triggered size trigger mark then do
        Prog.modify fun s => { s with n := s.n + 1 }
        let order : OrderRequest :=
          { clientOrderId := stopCid iid (s.n + 1), instrumentId := iid
            side := if 0 < size then .sell else .buy
            quantity := fl |size|, reduceOnly := true, ts := s.now }
        let ev ← fill fl order s.now (fl |size|) (some trigger)
        Prog.modify fun s => { s with stops := remove iid s.stops }
        return some ev
      else return none

/-- The loop of `check_triggers`, over the stops listed when it began. -/
def fireStops (fl : Decimal → Decimal) :
    List (InstrumentId × Decimal) → M (List FillUpdate)
  | [] => return []
  | (iid, trigger) :: rest => do
      let fired ← checkTrigger fl iid trigger
      let later ← fireStops fl rest
      return fired.toList ++ later

/-- `check_triggers`, which is also the runner's `poll_fills`. -/
def checkTriggers (fl : Decimal → Decimal) : M (List FillUpdate) := do
  let s ← Prog.get
  let fired ← fireStops fl s.stops
  if fired = [] then pure () else save
  return fired

/-! ## The account out -/

def view (fl : Decimal → Decimal) (iid : InstrumentId) (p : SimPos)
    (mark : Decimal) : PositionView where
  instrumentId := iid
  size := p.size
  entryPrice := p.entry
  notional := fl (fl |p.size| * mark)
  leverage := limitsDefault.maxLeverage
  liquidationPrice := some (liquidationPrice p.size p.entry limitsDefault)
  unrealisedPnl := fl (p.size * fl (mark - p.entry))
  cumulativeFunding := p.funding

/-- The open positions, each valued at its mark. -/
def views (fl : Decimal → Decimal) :
    List (InstrumentId × SimPos) → M (List PositionView)
  | [] => return []
  | (iid, p) :: rest =>
      if p.size = 0 then views fl rest
      else do
        let mark ← markOf iid
        let later ← views fl rest
        return view fl iid p mark :: later

/-- `unreal`: the positions' unrealised values, added in their order. -/
def unrealised (fl : Decimal → Decimal) (positions : List PositionView) :
    Decimal :=
  positions.foldl (fun unreal p => fl (unreal + p.unrealisedPnl)) 0

def snapshot (fl : Decimal → Decimal) : M AccountSnapshot := do
  let s ← Prog.get
  let positions ← views fl s.pos
  return { equity := fl (s.cash + unrealised fl positions)
           positions, openOrders := [], stops := s.stops
           inLiquidation := false, ts := s.now }

/-- Take every queued event. -/
def drainEvents : M (List Event) := do
  let s ← Prog.get
  Prog.modify fun s => { s with queue := [] }
  return s.queue

/-- `from_json`, with the arguments the constructor takes. An object's keys are
distinct, so its items are the dictionary. -/
def fromJson (d : SavedAccount) (takerFeeRate spread impact notional : Decimal)
    (now : DateTime) (persists : Bool) : SimExecutor :=
  { new d.cash takerFeeRate spread impact notional now persists with
    startEquity := d.startEquity
    n := d.n
    pos := d.positions
    stops := d.stops
    marks := d.marks }

/-! ## Calls, in any order -/

/-- A call on the account, a failure injected, or time passing. -/
inductive Op
  | updateMark (iid : InstrumentId) (mark : Decimal)
  | applyFunding (iid : InstrumentId) (rate : Decimal)
  | submit (order : OrderRequest)
  | placeStop (iid : InstrumentId) (trigger : Decimal)
  | cancelStop (iid : InstrumentId)
  | checkTriggers
  | drainEvents
  | snapshot
  | inject (failNext : Option FailMode) (failQueue : List FailMode)
  | clock (now : DateTime)

/-- What a call returns. -/
inductive Answer
  | none
  | ack (a : OrderAck)
  | stop (a : StopAck)
  | fills (evs : List FillUpdate)
  | events (evs : List Event)
  | account (snap : AccountSnapshot)
deriving DecidableEq

def perform (fl : Decimal → Decimal) : Op → M Answer
  | .updateMark iid mark => do
      updateMark iid mark
      return .none
  | .applyFunding iid rate => do
      applyFunding fl iid rate
      return .none
  | .submit order => do
      let ack ← submit fl order
      return .ack ack
  | .placeStop iid trigger => do
      placeStop iid trigger
      let s ← Prog.get
      return .stop ⟨iid, trigger, some s!"sim-stop-{iid}", s.now⟩
  | .cancelStop iid => do
      cancelStop iid
      return .none
  | .checkTriggers => do
      let fired ← checkTriggers fl
      return .fills fired
  | .drainEvents => do
      let evs ← drainEvents
      return .events evs
  | .snapshot => do
      let snap ← snapshot fl
      return .account snap
  | .inject failNext failQueue => do
      Prog.modify fun s => { s with failNext, failQueue }
      return .none
  | .clock now => do
      Prog.modify fun s => { s with now }
      return .none

/-- The account after a list of calls, returning or raising. -/
def run (fl : Decimal → Decimal) (ops : List Op) (s : SimExecutor) :
    SimExecutor :=
  ops.foldl (fun s op => (perform fl op s).2) s

/-- The account as the executor the router talks to. -/
def executor (fl : Decimal → Decimal) : Executor SimExecutor where
  name := "sim"
  submit := submit fl
  cancel := fun _ s => (.ok (), s)
  placeStop := placeStop
  cancelStop := cancelStop
  snapshot := snapshot fl
  clock := SimExecutor.now

end SimExecutor

end Polyperps
