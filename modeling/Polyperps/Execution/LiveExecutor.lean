import Polyperps.Signal.Base

/-!
# Live orders and their three locks

`gates.py` and the submit path of `execution/live_executor.py`. The locks are
the variable, the modes and the validation files, any of which may change
while a process runs; `signalValidated` is the constant `signal/base.py`
computes once, when the process imports it. `handed` is a record the code does
not keep: the orders that reached the SDK, each with the locks as they were.
-/

namespace Polyperps

/-! ## The gate -/

inductive ExecutionMode
  | manualReview
  | paper
  | auto
deriving DecidableEq, Repr

def ExecutionMode.value : ExecutionMode → String
  | .manualReview => "manual_review"
  | .paper => "paper"
  | .auto => "auto"

structure GateDecision where
  allowed : Bool
  reason : String
deriving DecidableEq

/-- `LIVE_ENV_VAR`. -/
def liveEnvVar : String := "POLYMARKET_LIVE_TRADING"

/-- What the locks are read from. -/
structure Locks where
  /-- The value of the variable, if it is set. -/
  env : Option String
  modes : List (InstrumentId × ExecutionMode)
  approval : SignalBase.ApprovalFile
  validationLog : Except Exc (List Record)

namespace Locks

/-- `modes.get(instrument_id, ExecutionMode.MANUAL_REVIEW)`. -/
def mode (locks : Locks) (iid : InstrumentId) : ExecutionMode :=
  (locks.modes.lookup iid).getD .manualReview

/-- `load_validated` on the files as they are. -/
def validated (py : Text) (locks : Locks) : Bool :=
  SignalBase.loadValidated py locks.approval locks.validationLog

end Locks

/-- `live_orders_allowed`, as production calls it. -/
def liveOrdersAllowed (iid : InstrumentId) (locks : Locks)
    (signalValidated : Bool) : GateDecision :=
  if locks.mode iid ≠ .auto then
    ⟨false, s!"instrument {iid} mode is {(locks.mode iid).value}, not auto"⟩
  else if locks.env ≠ some "true" then
    ⟨false, s!"{liveEnvVar} is not exactly 'true'"⟩
  else if !signalValidated then
    ⟨false, "SIGNAL_VALIDATED is False - Phase 1 has not cleared"⟩
  else ⟨true, "all gates passed"⟩

/-! ## The executor -/

/-- `_ORDER_SIDE_MAP`. -/
def Side.sdk : Side → String
  | .buy => "BUY"
  | .sell => "SELL"

/-- The arguments of the SDK's `place_order`. -/
structure SdkOrder where
  instrumentId : InstrumentId
  side : String
  quantity : Decimal
  timeInForce : String
  reduceOnly : Bool
  clientOrderId : ClientOrderId
deriving DecidableEq

def OrderRequest.sdk (order : OrderRequest) : SdkOrder where
  instrumentId := order.instrumentId
  side := order.side.sdk
  quantity := order.quantity
  timeInForce := "ioc"
  reduceOnly := order.reduceOnly
  clientOrderId := order.clientOrderId

/-- How the SDK answers: `RequestRejectedError`, any other exception, or a
placement with an order id and a status where it has them. -/
inductive Placement
  | requestRejected (message : String)
  | raised (e : Exc)
  | placed (id : Option String) (status : Option String)

/-- `_SDK_ORDER_STATUS`: no entry, or an entry that may be `None`. -/
def sdkOrderStatus : Option String → Option (Option OrderStatus)
  | some "accepted" => some (some .accepted)
  | some "open" => some (some .opened)
  | some "partial" => some (some .partialFill)
  | some "filled" => some (some .filled)
  | some "cancelled" => some (some .cancelled)
  | some "auto_cancelled" => some (some .autoCancelled)
  | some "post_only_rejected" | some "fok_unfilled" | some "ioc_no_fill"
  | some "ioc_expired" | some "stp_cancelled" | some "zero_quantity"
  | some "order_not_found" | some "reduce_only_invalid"
  | some "reduce_only_expired" | some "order_expired" | some "expired" =>
      some (some .rejected)
  | some "duplicate_order" | some "untriggered" | some "armed"
  | some "triggered" | some "parent_cancelled" | some "position_closed"
  | some "position_flipped" | some "reduce_only_invalid_at_trigger" =>
      some none
  | _ => none

namespace LiveExecutor

/-- The text of a status in a reason: `str(None)` is `None`. -/
def statusText (status : Option String) : String := status.getD "None"

/-- The acknowledgement of what the SDK answered. -/
def acknowledge (order : OrderRequest) (placement : Placement)
    (now : DateTime) : Except Exc OrderAck :=
  let ack (id : Option String) (status : AckStatus) (reason : String) :
      OrderAck := ⟨order.clientOrderId, id, status, reason, now⟩
  match placement with
  | .requestRejected message => .ok (ack none .rejected message)
  | .raised e => .error e
  | .placed id status =>
      match sdkOrderStatus status with
      | none =>
          .ok (ack id .rejected ("unknown status " ++ statusText status))
      | some (some .rejected) | some (some .cancelled)
      | some (some .autoCancelled) =>
          .ok (ack id .rejected (statusText status))
      | some _ =>
          .ok (ack id .accepted
            (if status = some "duplicate_order" then "duplicate_order" else ""))

/-- `submit`: what it hands to the SDK, if anything, and how it ends. -/
def submit (signalValidated : Bool) (locks : Locks) (order : OrderRequest)
    (placement : Placement) (now : DateTime) :
    Option SdkOrder × Except Exc OrderAck :=
  let d := liveOrdersAllowed order.instrumentId locks signalValidated
  if !d.allowed then
    (none, .error ⟨.gateClosed,
      s!"instrument {order.instrumentId}: {d.reason}"⟩)
  else (some order.sdk, acknowledge order placement now)

/-- The constructor: it raises unless there are instruments and the gate is
open for each. -/
def construct (signalValidated : Bool) (locks : Locks)
    (ids : List InstrumentId) : Except Exc Unit :=
  if ids = [] then .error ⟨.gateClosed, "no instruments to gate"⟩
  else
    match (ids.map fun iid =>
        (iid, liveOrdersAllowed iid locks signalValidated)).find?
          fun x => !x.2.allowed with
    | some (iid, d) => .error ⟨.gateClosed, s!"instrument {iid}: {d.reason}"⟩
    | none => .ok ()

end LiveExecutor

/-! ## A live process -/

/-- Something that happens in a process: the locks are changed from outside,
or an order is submitted and the SDK would answer so. -/
inductive LiveStep
  | change (locks : Locks)
  | submit (order : OrderRequest) (placement : Placement) (ts : DateTime)

structure LiveProcess where
  signalValidated : Bool
  locks : Locks
  handed : List (SdkOrder × Locks)

namespace LiveProcess

/-- A process whose import saw one state of the locks and whose executor was
constructed under another. -/
def start (py : Text) (atImport atStart : Locks) (ids : List InstrumentId) :
    Except Exc LiveProcess := do
  let signalValidated := atImport.validated py
  LiveExecutor.construct signalValidated atStart ids
  return ⟨signalValidated, atStart, []⟩

def step (p : LiveProcess) : LiveStep → LiveProcess
  | .change locks => { p with locks := locks }
  | .submit order placement ts =>
      match (LiveExecutor.submit p.signalValidated p.locks order placement
          ts).1 with
      | some sent => { p with handed := p.handed ++ [(sent, p.locks)] }
      | none => p

def run (p : LiveProcess) (steps : List LiveStep) : LiveProcess :=
  steps.foldl step p

/-- The submits of a run, each with the locks as they are at that moment. -/
def submits (locks : Locks) : List LiveStep → List (OrderRequest × Locks)
  | [] => []
  | .change locks' :: rest => submits locks' rest
  | .submit order _ _ :: rest => (order, locks) :: submits locks rest

end LiveProcess

end Polyperps
