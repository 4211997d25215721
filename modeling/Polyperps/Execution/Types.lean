import Polyperps.Lib.Significant

/-!
# Execution value types

The values on both sides of the executor boundary and the rows the process
persists (`execution/types.py`), with the bar of `backtest/bars.py`.

A `Decimal` is its exact value; rounding happens only where the source
quantizes. A `DateTime` is an aware UTC instant in microseconds, so an
awareness check has nothing left to refuse. A client order id is text,
because recovery and reconciliation read it as text.
-/

namespace Polyperps

abbrev Decimal := ℚ

/-- `str(x)`, in the digits an operation keeps. An exponent is written out, and
trailing zeros, which a rational does not have, are not written. -/
def Decimal.str (x : Decimal) : String :=
  Rounding.plainText (Rounding.round28 x)

/-- Microseconds since the epoch, UTC. -/
abbrev DateTime := ℤ

abbrev InstrumentId := ℤ

abbrev ClientOrderId := String

def second : ℤ := 1000000

def minute : ℤ := 60 * second

def hour : ℤ := 60 * minute

inductive State
  | flat
  | entryPending
  | opened
  | exitPending
  | liquidated
  | halted
deriving DecidableEq, Repr

/-- `State.value`, the text a note or an alert carries. -/
def State.value : State → String
  | .flat => "FLAT"
  | .entryPending => "ENTRY_PENDING"
  | .opened => "OPEN"
  | .exitPending => "EXIT_PENDING"
  | .liquidated => "LIQUIDATED"
  | .halted => "HALTED"

/-- The states only an operator leaves (`_FROZEN`). -/
def State.frozen : State → Bool
  | .halted | .liquidated => true
  | _ => false

/-- The states that wait for an order in flight. -/
def State.pending : State → Bool
  | .entryPending | .exitPending => true
  | _ => false

inductive Side
  | buy
  | sell
deriving DecidableEq, Repr

/-- `+1` for a buy, `-1` for a sell. -/
def Side.sign : Side → Decimal
  | .buy => 1
  | .sell => -1

inductive AckStatus
  | accepted
  | rejected
deriving DecidableEq, Repr

/-- The statuses an order update carries. -/
inductive OrderStatus
  | accepted
  | opened
  | partialFill
  | filled
  | cancelled
  | autoCancelled
  | rejected
deriving DecidableEq, Repr

/-- An update that ends the pending order without a fill. -/
def OrderStatus.ends : OrderStatus → Bool
  | .cancelled | .autoCancelled | .rejected => true
  | _ => false

/-- The text of an order status. -/
def OrderStatus.value : OrderStatus → String
  | .accepted => "accepted"
  | .opened => "open"
  | .partialFill => "partial"
  | .filled => "filled"
  | .cancelled => "cancelled"
  | .autoCancelled => "auto_cancelled"
  | .rejected => "rejected"

/-- The statuses an order row can hold: those of an update, and the ones the
router and recovery write themselves. -/
inductive RowStatus
  | submitting
  | update (s : OrderStatus)
  | lost
  | error
  | shadowRefused
  | timeoutAdopted
  | adopted
  | abandoned
deriving DecidableEq, Repr

structure Intent where
  instrumentId : InstrumentId
  side : Side
  quantity : Decimal
  notional : Decimal
  reduceOnly : Bool
  reason : String
deriving DecidableEq

/-- The state an order waits in: `EXIT_PENDING` for a reduce-only one. -/
def Intent.waiting (intent : Intent) : State :=
  if intent.reduceOnly then .exitPending else .entryPending

structure OrderRequest where
  clientOrderId : ClientOrderId
  instrumentId : InstrumentId
  side : Side
  quantity : Decimal
  reduceOnly : Bool
  ts : DateTime
deriving DecidableEq

structure OrderAck where
  clientOrderId : ClientOrderId
  exchangeOrderId : Option String
  status : AckStatus
  reason : String
  ts : DateTime
deriving DecidableEq

structure OrderUpdate where
  clientOrderId : ClientOrderId
  status : OrderStatus
  filledQuantity : Decimal
  ts : DateTime
deriving DecidableEq

structure FillUpdate where
  clientOrderId : ClientOrderId
  instrumentId : InstrumentId
  side : Side
  quantity : Decimal
  price : Decimal
  fee : Decimal
  ts : DateTime
deriving DecidableEq

structure StopAck where
  instrumentId : InstrumentId
  triggerPrice : Decimal
  exchangeOrderId : Option String
  ts : DateTime
deriving DecidableEq

/-- The signed size a fill adds. -/
def FillUpdate.delta (ev : FillUpdate) : Decimal := ev.side.sign * ev.quantity

structure PositionView where
  instrumentId : InstrumentId
  size : Decimal
  entryPrice : Decimal
  notional : Decimal
  leverage : ℕ
  liquidationPrice : Option Decimal
  unrealisedPnl : Decimal
  cumulativeFunding : Decimal
deriving DecidableEq

structure AccountSnapshot where
  equity : Decimal
  positions : List PositionView
  openOrders : List ClientOrderId
  stops : List (InstrumentId × Decimal)
  inLiquidation : Bool
  ts : DateTime
deriving DecidableEq

namespace AccountSnapshot

/-- `AccountSnapshot.position`: the first view of the instrument. -/
def position (snap : AccountSnapshot) (iid : InstrumentId) :
    Option PositionView := snap.positions.find? fun p => p.instrumentId = iid

/-- `snap.stops.get(iid)`. -/
def stop (snap : AccountSnapshot) (iid : InstrumentId) : Option Decimal :=
  snap.stops.lookup iid

/-- The signed size of an instrument, zero where there is no view. -/
def size (snap : AccountSnapshot) (iid : InstrumentId) : Decimal :=
  ((snap.position iid).map PositionView.size).getD 0

end AccountSnapshot

/-! ## Persisted rows -/

structure DecisionRow where
  runId : String
  instrumentId : InstrumentId
  seq : ℕ
  ts : DateTime
  stateBefore : State
  target : Option Decimal
  verdicts : List (String × String)
  intent : Option Intent
  clientOrderId : Option ClientOrderId
  note : String
deriving DecidableEq

structure OrderRow where
  clientOrderId : ClientOrderId
  runId : String
  instrumentId : InstrumentId
  side : Side
  quantity : Decimal
  reduceOnly : Bool
  status : RowStatus
  exchangeOrderId : Option String
  filledQuantity : Decimal
  avgPrice : Option Decimal
  submittedAt : DateTime
  updatedAt : DateTime
  reason : String
deriving DecidableEq

structure PositionLocalRow where
  runId : String
  instrumentId : InstrumentId
  state : State
  size : Decimal
  entryPrice : Option Decimal
  stopTrigger : Option Decimal
  cumulativeFunding : Decimal
  updatedAt : DateTime
deriving DecidableEq

/-- What the event stream carries. -/
inductive Event
  | order (ev : OrderUpdate)
  | fill (ev : FillUpdate)
  | reconcileNow
deriving DecidableEq

/-- The fill an event carries. -/
def Event.fill? : Event → Option FillUpdate
  | .fill ev => some ev
  | _ => none

/-! ## Bars -/

inductive SourceType
  | polymarketWs
  | polymarketRest
  | proxyHyperliquid
  | proxyCex
  | syntheticTest
deriving DecidableEq, Repr

inductive SpreadSource
  | book
  | constant
deriving DecidableEq, Repr

structure Bar where
  instrumentId : InstrumentId
  sourceType : SourceType
  openTs : DateTime
  openPrice : Option Decimal
  high : Option Decimal
  low : Option Decimal
  close : Option Decimal
  indexClose : Option Decimal
  fundingRate : Option Decimal
  spreadBps : Decimal
  spreadSource : SpreadSource
  complete : Bool
deriving DecidableEq

/-! ## Exceptions -/

/-- The exception classes the modelled code raises or tells apart. -/
inductive ExcKind
  | timeoutError
  | executorTimeout
  | gateClosed
  | shadowRefused
  | valueError
  | keyError
  | divisionByZero
  | invalidOperation
  | integrityError
  | recoveryHalt
  | other (name : String)
deriving DecidableEq, Repr

/-- `type(exc).__name__`. -/
def ExcKind.name : ExcKind → String
  | .timeoutError => "TimeoutError"
  | .executorTimeout => "ExecutorTimeout"
  | .gateClosed => "GateClosed"
  | .shadowRefused => "ShadowRefused"
  | .valueError => "ValueError"
  | .keyError => "KeyError"
  | .divisionByZero => "DivisionByZero"
  | .invalidOperation => "InvalidOperation"
  | .integrityError => "IntegrityError"
  | .recoveryHalt => "RecoveryHalt"
  | .other name => name

structure Exc where
  kind : ExcKind
  message : String
deriving DecidableEq, Repr

/-- The exceptions that mean the order may have landed. -/
def Exc.isTimeout (e : Exc) : Bool :=
  e.kind = .timeoutError ∨ e.kind = .executorTimeout

/-- Decimal division, which raises on a zero divisor. -/
def divide (a b : Decimal) : Except Exc Decimal :=
  if b = 0 then
    .error (if a = 0 then ⟨.invalidOperation, "[DivisionUndefined]"⟩
      else ⟨.divisionByZero, "[DivisionByZero]"⟩)
  else .ok (a / b)

theorem divide_of_ne_zero {a b : Decimal} (h : b ≠ 0) :
    divide a b = .ok (a / b) := if_neg h

end Polyperps
