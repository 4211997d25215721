import Polyperps.Backtest.Strategy
import Polyperps.Execution.Executor
import Polyperps.Risk.KillSwitch
import Polyperps.Risk.PortfolioExposure

/-!
# The per-instrument state machine

`InstrumentRouter` of `execution/order_router.py`, method by method. A method
is a program on the router's own fields; the tables and the executor are the
disk it writes through to. Rows are written before the submit they describe,
and `positions_local` after every state change.
-/

namespace Polyperps

open ProgramLogic Rounding

/-- `_TERMINAL_ORDER_STATUSES`. -/
def RowStatus.terminal : RowStatus → Bool
  | .update .filled | .update .cancelled | .update .autoCancelled
  | .update .rejected | .lost | .error | .shadowRefused | .timeoutAdopted =>
      true
  | _ => false

/-- `_GAVE_UP_STATUSES`: the orders the router replaced with the exchange's
size. -/
def RowStatus.gaveUp : RowStatus → Bool
  | .lost | .error | .shadowRefused | .timeoutAdopted => true
  | _ => false

/-- `PENDING_TIMEOUT_S`. -/
def pendingTimeout : ℤ := 30 * second

/-- The client order id of the `seq`-th order of an instrument in a run. -/
def clientOrderId (runId : String) (iid : InstrumentId) (seq : ℕ) :
    ClientOrderId := s!"{runId}-{iid}-{seq}"

/-- `place_exchange_stop`: a stop at the router's distance from the
exchange's entry price. -/
def placeExchangeStop {V μ : Type} (ex : Executor V) (pos : PositionView)
    (limits : RiskLimits) : Act V μ Decimal :=
  if pos.entryPrice ≤ 0 then
    Prog.raise ⟨.valueError, s!"no stop for instrument {pos.instrumentId}: "
      ++ s!"exchange entry price {Decimal.str pos.entryPrice}"⟩
  else do
    let trigger := stopPrice (decide (0 < pos.size)) pos.entryPrice limits
    call (ex.placeStop pos.instrumentId trigger)
    return trigger

structure InstrumentRouter (S : Type) where
  runId : String
  instrumentId : InstrumentId
  strategy : Strategy S
  strategyState : S
  categories : List (InstrumentId × String)
  limits : RiskLimits
  exposure : ExposureLimits
  state : State
  seq : ℕ
  size : Decimal
  entry : Option Decimal
  stopTrigger : Option Decimal
  cumulativeFunding : Decimal
  pendingCid : Option ClientOrderId
  pendingSince : Option DateTime
  pendingIntent : Option Intent
  dseq : ℕ
  lastMarginLevel : Option Level

namespace InstrumentRouter

variable {V S : Type}

/-- `__init__`: a router that has loaded nothing. -/
def fresh (runId : String) (iid : InstrumentId) (strategy : Strategy S)
    (strategyState : S) (categories : List (InstrumentId × String))
    (limits : RiskLimits) (exposure : ExposureLimits) :
    InstrumentRouter S where
  runId := runId
  instrumentId := iid
  strategy := strategy
  strategyState := strategyState
  categories := categories
  limits := limits
  exposure := exposure
  state := .flat
  seq := 0
  size := 0
  entry := none
  stopTrigger := none
  cumulativeFunding := 0
  pendingCid := none
  pendingSince := none
  pendingIntent := none
  dseq := 0
  lastMarginLevel := none

/-- The `positions_local` row the router's fields make. -/
def localRow (r : InstrumentRouter S) (updatedAt : DateTime) :
    PositionLocalRow where
  runId := r.runId
  instrumentId := r.instrumentId
  state := r.state
  size := r.size
  entryPrice := r.entry
  stopTrigger := r.stopTrigger
  cumulativeFunding := r.cumulativeFunding
  updatedAt := updatedAt

/-- `cid.rsplit("-", 1)[-1]`. -/
def tailOf (cid : ClientOrderId) : List Char :=
  (cid.toList.reverse.takeWhile (· ≠ '-')).reverse

/-- `int(tail)` where `tail.isdigit()`; an id ends in the digits of a
counter, so only the ASCII digits matter. -/
def orderNumber (cid : ClientOrderId) : Option ℕ :=
  let tail := tailOf cid
  if tail ≠ [] ∧ tail.all Char.isDigit then
    some (tail.foldl (fun n c => 10 * n + (c.toNat - '0'.toNat)) 0)
  else none

/-- The fields `load_local` sets from the instrument's row and the tables. -/
def loadLocal (row : PositionLocalRow) (db : Db) (r : InstrumentRouter S) :
    InstrumentRouter S :=
  { r with
    state := row.state
    size := row.size
    entry := row.entryPrice
    stopTrigger := row.stopTrigger
    cumulativeFunding := row.cumulativeFunding
    dseq := ((db.listDecisions r.runId r.instrumentId).map
      DecisionRow.seq).foldl max 0
    seq := (((db.listOrders r.runId).filter fun o =>
      o.instrumentId = r.instrumentId).filterMap fun o =>
        orderNumber o.clientOrderId).foldl max 0 }

variable (ex : Executor V)

/-! ## Persistence helpers -/

def persist : Act V (InstrumentRouter S) Unit := do
  let r ← Prog.mem
  let now ← clock ex
  write (Db.upsertPositionLocal (r.localRow now))

def setState (state : State) : Act V (InstrumentRouter S) Unit := do
  Prog.modifyMem fun r => { r with state }
  persist ex

def alert (level : Level) (kind : String) (detail : List (String × String)) :
    Act V (InstrumentRouter S) Unit := do
  let r ← Prog.mem
  let ts ← clock ex
  emit r.runId
    { level, kind, instrumentId := some r.instrumentId, detail, ts }

/-- The `decisions` row of the router's current number. -/
def decisionRow (r : InstrumentRouter S) (ts : DateTime)
    (target : Option Decimal) (verdicts : List (String × String))
    (intent : Option Intent) (cid : Option ClientOrderId) (note : String) :
    DecisionRow where
  runId := r.runId
  instrumentId := r.instrumentId
  seq := r.dseq
  ts := ts
  stateBefore := r.state
  target := target
  verdicts := verdicts
  intent := intent
  clientOrderId := cid
  note := note

def record (target : Option Decimal) (verdicts : List (String × String))
    (intent : Option Intent) (cid : Option ClientOrderId) (note : String) :
    Act V (InstrumentRouter S) Unit := do
  Prog.modifyMem fun r => { r with dseq := r.dseq + 1 }
  let r ← Prog.mem
  let ts ← clock ex
  insertDecision (r.decisionRow ts target verdicts intent cid note)

/-- `_record` with nothing but a target and a note. -/
def skip (target : Option Decimal) (note : String) :
    Act V (InstrumentRouter S) Unit := record ex target [] none none note

def updateOrder (cid : ClientOrderId) (skipIfTerminal : Bool)
    (changes : OrderRow → OrderRow) : Act V (InstrumentRouter S) Unit := do
  let row ← Prog.disk fun d => d.db.getOrder cid
  match row with
  | none => pure ()
  | some row =>
      if skipIfTerminal && row.status.terminal then pure ()
      else do
        let now ← clock ex
        write (Db.upsertOrder { changes row with updatedAt := now })

/-- Call the strategy's `on_flatten`. -/
def flattenStrategy : Act V (InstrumentRouter S) Unit :=
  Prog.modifyMem fun r =>
    { r with strategyState := r.strategy.flatten r.strategyState }

/-- Call the strategy's `on_recover` with the side held. -/
def recoverStrategy : Act V (InstrumentRouter S) Unit :=
  Prog.modifyMem fun r =>
    { r with
      strategyState :=
        r.strategy.recover (if 0 < r.size then 1 else -1) r.strategyState }

/-! ## Stops and adoption -/

def replaceStop : Act V (InstrumentRouter S) Unit := do
  let r ← Prog.mem
  match r.entry with
  | none => pure ()
  | some entry =>
      if r.size = 0 then pure ()
      else do
        let trigger := stopPrice (decide (0 < r.size)) entry r.limits
        Prog.catching
          (do
            call (ex.placeStop r.instrumentId trigger)
            Prog.modifyMem fun r => { r with stopTrigger := some trigger }
            persist ex
            alert ex .info "stop_placed" [("trigger", Decimal.str trigger)])
          fun e =>
            if e.kind = .shadowRefused then do
              Prog.modifyMem fun r => { r with stopTrigger := none }
              persist ex
              alert ex .warn "shadow_refused" [("trigger", Decimal.str trigger)]
            else Prog.raise e

/-- The stop an adopted position ends with. -/
def adoptStop (snapshot : AccountSnapshot) (pos : PositionView) :
    Act V (InstrumentRouter S) Unit := do
  let r ← Prog.mem
  match snapshot.stop r.instrumentId with
  | some trigger =>
      Prog.modifyMem fun r => { r with stopTrigger := some trigger }
  | none =>
      Prog.catching
        (do
          let trigger ← placeExchangeStop ex pos r.limits
          Prog.modifyMem fun r => { r with stopTrigger := some trigger })
        fun e =>
          if e.kind = .shadowRefused then do
            Prog.modifyMem fun r => { r with stopTrigger := none }
            alert ex .warn "shadow_refused" [("size", Decimal.str pos.size)]
          else Prog.raise e

/-- `_adopt`: take the exchange's size, and make sure a venue stop guards
it. The state is the caller's business. -/
def adopt (snapshot : AccountSnapshot) : Act V (InstrumentRouter S) Unit := do
  Prog.modifyMem fun r => { r with pendingCid := none, pendingSince := none }
  let r ← Prog.mem
  match (snapshot.position r.instrumentId).filter (·.size ≠ 0) with
  | none =>
      Prog.modifyMem fun r =>
        { r with
          size := 0, entry := none, stopTrigger := none
          cumulativeFunding := 0 }
  | some pos => do
      Prog.modifyMem fun r =>
        { r with
          size := pos.size, entry := some pos.entryPrice
          cumulativeFunding := pos.cumulativeFunding }
      adoptStop ex snapshot pos
  persist ex

/-- Leave the current state for what the size says, unless it is frozen. -/
def settleState : Act V (InstrumentRouter S) Unit := do
  let r ← Prog.mem
  if r.state.frozen then pure ()
  else setState ex (if r.size ≠ 0 then .opened else .flat)

def adoptAndSettle (snapshot : AccountSnapshot) :
    Act V (InstrumentRouter S) Unit := do
  adopt ex snapshot
  settleState ex
  let r ← Prog.mem
  if r.size = 0 then do
    call (ex.cancelStop r.instrumentId)
    flattenStrategy
  else recoverStrategy

def checkPending (snapshot : AccountSnapshot) :
    Act V (InstrumentRouter S) Unit := do
  let r ← Prog.mem
  let now ← clock ex
  match r.pendingSince with
  | none => pure ()
  | some since =>
      if !r.state.pending then pure ()
      else if now - since ≤ pendingTimeout then pure ()
      else do
        alert ex .warn "pending_timeout"
          [("client_order_id", r.pendingCid.getD "None"),
            ("state", r.state.value)]
        match r.pendingCid with
        | none => pure ()
        | some cid =>
            updateOrder ex cid false fun o =>
              { o with
                status := .timeoutAdopted
                reason := "pending timeout: adopted the exchange size" }
        adoptAndSettle ex snapshot

/-! ## Sending with idempotent retry -/

def halt (reason : String) : Act V (InstrumentRouter S) Unit := do
  let r ← Prog.mem
  if r.state.frozen then pure ()
  else do
    alert ex .critical "halted" [("reason", reason)]
    Prog.modifyMem fun r => { r with pendingCid := none }
    setState ex .halted

/-- `_landed`: the order rests, or the position moved in its direction. -/
def landed (req : OrderRequest) (snap : AccountSnapshot)
    (sizeBefore : Decimal) : Bool :=
  if req.clientOrderId ∈ snap.openOrders then true
  else
    let moved := snap.size req.instrumentId - sizeBefore
    match req.side with
    | .buy => decide (0 < moved)
    | .sell => decide (moved < 0)

/-- One turn of the retry loop; `otherwise` is what follows a timeout with
nothing landed. -/
def submitAttempt (attempt : ℕ) (req : OrderRequest) (sizeBefore : Decimal)
    (otherwise : Act V (InstrumentRouter S) (Option OrderAck)) :
    Act V (InstrumentRouter S) (Option OrderAck) :=
  Prog.catching
    (do
      let r ← Prog.mem
      let ack ← callSubmit ex req r.dseq
      return some ack)
    fun e =>
      if e.isTimeout then do
        let snap ← call ex.snapshot
        if landed req snap sizeBefore then do
          alert ex .warn "ack_lost"
            [("client_order_id", req.clientOrderId),
              ("attempt", toString attempt)]
          let ts ← clock ex
          return some
            { clientOrderId := req.clientOrderId, exchangeOrderId := none
              status := .accepted, reason := "adopted after timeout", ts }
        else otherwise
      else Prog.raise e

def submitWithRecovery (req : OrderRequest) (sizeBefore : Decimal) :
    Act V (InstrumentRouter S) (Option OrderAck) :=
  submitAttempt ex 1 req sizeBefore do
    alert ex .warn "retry" [("client_order_id", req.clientOrderId)]
    submitAttempt ex 2 req sizeBefore (pure none)

/-- The `orders` row `_send` writes for an intent. -/
def orderRow (r : InstrumentRouter S) (cid : ClientOrderId) (intent : Intent)
    (now : DateTime) : OrderRow where
  clientOrderId := cid
  runId := r.runId
  instrumentId := r.instrumentId
  side := intent.side
  quantity := intent.quantity
  reduceOnly := intent.reduceOnly
  status := .submitting
  exchangeOrderId := none
  filledQuantity := 0
  avgPrice := none
  submittedAt := now
  updatedAt := now
  reason := intent.reason

/-- The request `_send` submits for an intent. -/
def orderRequest (r : InstrumentRouter S) (cid : ClientOrderId)
    (intent : Intent) (now : DateTime) : OrderRequest where
  clientOrderId := cid
  instrumentId := r.instrumentId
  side := intent.side
  quantity := intent.quantity
  reduceOnly := intent.reduceOnly
  ts := now

/-- The rows and fields `_send` writes before the submit; the request. -/
def announce (intent : Intent) (target : Option Decimal)
    (verdicts : List (String × String)) :
    Act V (InstrumentRouter S) OrderRequest := do
  Prog.modifyMem fun r => { r with seq := r.seq + 1 }
  let r ← Prog.mem
  let cid := clientOrderId r.runId r.instrumentId r.seq
  record ex target verdicts (some intent) (some cid) intent.reason
  let now ← clock ex
  write (Db.upsertOrder (r.orderRow cid intent now))
  Prog.modifyMem fun r =>
    { r with
      pendingCid := some cid, pendingSince := some now
      pendingIntent := some intent }
  setState ex intent.waiting
  return r.orderRequest cid intent now

/-- `_send`'s handler for a submit that raised: freeze, then take the
exchange's size. -/
def submitFailed (cid : ClientOrderId) (e : Exc) :
    Act V (InstrumentRouter S) Unit := do
  updateOrder ex cid false fun o =>
    { o with
      status := if e.kind = .shadowRefused then .shadowRefused else .error
      reason := s!"{e.kind.name}: {e.message}" }
  alert ex .critical "submit_error"
    [("client_order_id", cid), ("error", e.kind.name)]
  halt ex s!"submit error: {e.kind.name}"
  let snap ← call ex.snapshot
  adopt ex snap

/-- What `_send` does with the answer. -/
def acknowledge (cid : ClientOrderId) (prior : State) (intent : Intent) :
    Option OrderAck → Act V (InstrumentRouter S) Unit
  | none => do
      updateOrder ex cid false fun o =>
        { o with
          status := .lost, reason := "no ack after timeout and retry" }
      halt ex "order lost after timeout and retry"
  | some ack =>
      match ack.status with
      | .rejected => do
          updateOrder ex cid false fun o =>
            { o with status := .update .rejected, reason := ack.reason }
          alert ex .warn "order_rejected"
            [("client_order_id", cid), ("reason", ack.reason)]
          Prog.modifyMem fun r => { r with pendingCid := none }
          setState ex prior
      | .accepted =>
          updateOrder ex cid true fun o =>
            { o with
              status := .update .accepted
              exchangeOrderId := ack.exchangeOrderId
              reason := if ack.reason = "" then intent.reason
                else ack.reason }

def send (intent : Intent) (target : Option Decimal)
    (verdicts : List (String × String)) :
    Act V (InstrumentRouter S) Unit := do
  let before ← Prog.mem
  let req ← announce ex intent target verdicts
  let result ← Prog.attempt (submitWithRecovery ex req before.size)
  match result with
  | .error e => submitFailed ex req.clientOrderId e
  | .ok ack => acknowledge ex req.clientOrderId before.state intent ack

/-- `_exit`: a reduce-only order for the size given. -/
def exit (mark : Decimal) (reason : String) (target : Option Decimal)
    (size : Decimal) : Act V (InstrumentRouter S) Unit := do
  let r ← Prog.mem
  send ex
    { instrumentId := r.instrumentId
      side := if 0 < size then .sell else .buy
      quantity := |size|, notional := roundHalfEven cent (|size| * mark)
      reduceOnly := true, reason }
    target []

/-- `shutdown`: flatten what is held, then freeze. `exchangeSize` is the
venue's signed position and wins over the local size. -/
def shutdown (mark : Decimal) (exchangeSize : Option Decimal) :
    Act V (InstrumentRouter S) Unit := do
  let r ← Prog.mem
  let held := exchangeSize.getD r.size
  if r.state = .liquidated ∨ (r.state = .halted ∧ held = 0) then pure ()
  else do
    if held ≠ 0 ∧ (r.state = .opened ∨ r.state = .halted ∨ r.state = .flat)
      then exit ex mark "kill_shutdown" none held
      else pure ()
    if r.state = .halted then pure ()
      else alert ex .critical "kill_switch" [("action", "shutdown")]
    setState ex .halted

/-! ## The bar cycle and the fast loop -/

/-- Ask the strategy, clamped to [-1, 1]. -/
def askTarget (history : List Bar) : Act V (InstrumentRouter S) Decimal := do
  let r ← Prog.mem
  let (target, strategyState) := r.strategy.target r.strategyState history
  Prog.modifyMem fun r => { r with strategyState }
  return clampTarget target

/-- A flat router's decision: size an entry, vet it, send it. -/
def enter (mark target : Decimal) (snapshot : AccountSnapshot)
    (kill : KillAction) (pending : List Intent) :
    Act V (InstrumentRouter S) Unit :=
  if target = 0 ∨ kill = .pause then
    skip ex (some target)
      (if kill = .pause then "kill:pause" else "flat:no_target")
  else do
    let r ← Prog.mem
    let perContract ← Prog.ofExcept (divide r.limits.notionalUsd mark)
    let intent : Intent :=
      { instrumentId := r.instrumentId
        side := if 0 < target then .buy else .sell
        quantity := roundDown quantityUnit perContract
        notional := r.limits.notionalUsd
        reduceOnly := false, reason := "strategy" }
    let entryVerdict ← Prog.ofExcept
      (vetEntry intent mark snapshot r.limits pending)
    let exposureVerdict ← Prog.ofExcept
      (vetExposure intent snapshot.positions snapshot.equity r.categories
        r.exposure pending)
    let (final, labels) ← Prog.ofExcept
      (applyGuards intent
        [("vet_entry", entryVerdict), ("vet_exposure", exposureVerdict)])
    match final with
    | none => record ex (some target) labels none none "rejected"
    | some final => send ex final (some target) labels

/-- An open router's decision: exit on zero or a flip, else hold. -/
def holdOrExit (mark target : Decimal) : Act V (InstrumentRouter S) Unit := do
  let r ← Prog.mem
  let flip := (0 < r.size ∧ target < 0) ∨ (r.size < 0 ∧ 0 < target)
  if target = 0 ∨ flip then
    exit ex mark (if target = 0 then "strategy" else "flip") (some target)
      r.size
  else skip ex (some target) "hold"

def onBar (history : List Bar) (snapshot : AccountSnapshot)
    (kill : KillAction) (pending : List Intent) :
    Act V (InstrumentRouter S) Unit := do
  let r ← Prog.mem
  if r.state.frozen || r.state.pending then
    skip ex none s!"skip:{r.state.value}"
  else
    match history.getLast? with
    | none => Prog.raise ⟨.other "IndexError", "list index out of range"⟩
    | some last =>
        match last.close with
        | none => skip ex none "skip:no_close"
        | some mark =>
            if kill = .shutdown then shutdown ex mark none
            else if !last.complete then
              if r.state = .opened then exit ex mark "data_gap" none r.size
              else skip ex none "skip:data_gap"
            else if history.length < r.strategy.warmup then
              skip ex none "skip:warmup"
            else do
              let target ← askTarget history
              if r.state = .flat then
                enter ex mark target snapshot kill pending
              else holdOrExit ex mark target

/-- The margin-ratio alert, on level transitions only. -/
def watchMargin (pos : PositionView) (mark : Decimal) :
    Act V (InstrumentRouter S) Unit :=
  match pos.liquidationPrice with
  | none => pure ()
  | some liq => do
      let distance ← Prog.ofExcept (divide |liq - mark| mark)
      let r ← Prog.mem
      let ts ← clock ex
      let a := marginAlert distance r.instrumentId ts
      match a with
      | some a =>
          if some a.level ≠ r.lastMarginLevel then emit r.runId a
          else pure ()
      | none => pure ()
      Prog.modifyMem fun r => { r with lastMarginLevel := a.map Alert.level }

def onFast (mark : Decimal) (snapshot : AccountSnapshot) :
    Act V (InstrumentRouter S) Unit := do
  let r ← Prog.mem
  if r.state ≠ .opened then pure ()
  else if snapshot.inLiquidation && decide (r.size ≠ 0) then do
    alert ex .critical "liquidation"
      [("size", Decimal.str r.size), ("mark", Decimal.str mark)]
    setState ex .liquidated
  else
    match snapshot.position r.instrumentId with
    | none => pure ()
    | some pos => do
        watchMargin ex pos mark
        let flatten ← Prog.ofExcept (checkOpen pos mark r.limits)
        if flatten then exit ex mark "liq_distance" none r.size
        else if fundingExitDue pos r.limits then
          exit ex mark "funding_cost" none r.size
        else pure ()

/-! ## Events -/

def handleOrderUpdate (ev : OrderUpdate) :
    Act V (InstrumentRouter S) Unit := do
  let r ← Prog.mem
  if r.pendingCid = some ev.clientOrderId ∧ ev.status.ends then do
    updateOrder ex ev.clientOrderId false fun o =>
      { o with status := .update ev.status }
    alert ex .warn ("order_" ++ ev.status.value)
      [("client_order_id", ev.clientOrderId)]
    Prog.modifyMem fun r => { r with pendingCid := none }
    settleState ex
  else do
    let row ← Prog.disk fun d => d.db.getOrder ev.clientOrderId
    match row with
    | none => pure ()
    | some row =>
        if row.status.gaveUp then pure ()
        else updateOrder ex ev.clientOrderId true fun o =>
          { o with status := .update ev.status }

/-- The fields `_apply_fill` leaves: average cost on an increase, the fill's
price on an opening or a flip. -/
def filled (ev : FillUpdate) (r : InstrumentRouter S) : InstrumentRouter S :=
  let delta := ev.delta
  let old := r.size
  let new := r.size + delta
  let entry :=
    if old = 0 ∨ new = 0 ∨ ¬ (0 < old ↔ 0 < new) then
      if new ≠ 0 then some ev.price else none
    else if |old| < |new| then
      some ((|old| * r.entry.getD 0 + |delta| * ev.price) / |new|)
    else r.entry
  { r with
    size := new
    entry
    cumulativeFunding := if new = 0 then 0 else r.cumulativeFunding
    lastMarginLevel := if new = 0 then none else r.lastMarginLevel }

def applyFill (ev : FillUpdate) : Act V (InstrumentRouter S) Unit := do
  Prog.modifyMem (filled ev)
  persist ex

/-- The average price over an order's fills once this one is in. -/
def averagePrice (row : OrderRow) (ev : FillUpdate) : Except Exc Decimal :=
  match row.avgPrice with
  | none => .ok ev.price
  | some avg =>
      if row.filledQuantity = 0 then .ok ev.price
      else divide (avg * row.filledQuantity + ev.price * ev.quantity)
        (row.filledQuantity + ev.quantity)

def recordFill (row : OrderRow) (ev : FillUpdate) :
    Act V (InstrumentRouter S) Unit := do
  let filledQuantity := row.filledQuantity + ev.quantity
  let avg ← Prog.ofExcept (averagePrice row ev)
  let status :=
    if row.status.terminal then row.status
    else if row.quantity ≤ filledQuantity then .update .filled
    else .update .partialFill
  updateOrder ex row.clientOrderId false fun o =>
    { o with status, filledQuantity, avgPrice := some avg }

/-- What a fill that leaves no position does. -/
def fillFlattened (ev : FillUpdate) (ours : Bool) :
    Act V (InstrumentRouter S) Unit := do
  let r ← Prog.mem
  let wasPending := r.state = .exitPending ∧
    r.pendingCid = some ev.clientOrderId
  Prog.modifyMem fun r => { r with pendingCid := none, stopTrigger := none }
  call (ex.cancelStop r.instrumentId)
  if r.state.frozen then persist ex else setState ex .flat
  flattenStrategy
  if ¬ wasPending ∧ ours = false ∧ r.state ≠ .liquidated then
    alert ex .warn "stop_fired"
      [("price", Decimal.str ev.price), ("quantity", Decimal.str ev.quantity)]
  else pure ()

/-- A fill of an order given up: read the exchange again. -/
def lateFill (row : OrderRow) (ev : FillUpdate) :
    Act V (InstrumentRouter S) Unit := do
  let r ← Prog.mem
  alert ex .warn "late_fill"
    [("client_order_id", ev.clientOrderId), ("state", r.state.value)]
  updateOrder ex ev.clientOrderId false fun o =>
    { o with filledQuantity := row.filledQuantity + ev.quantity }
  let snap ← call ex.snapshot
  adoptAndSettle ex snap

/-- What follows from the size a counted fill leaves. -/
def afterFill (sizeBefore : Decimal) (ours : Bool) (ev : FillUpdate) :
    Act V (InstrumentRouter S) Unit := do
  let r ← Prog.mem
  if r.state = .entryPending ∧ r.pendingCid = some ev.clientOrderId ∧
      r.size ≠ 0 then do
    Prog.modifyMem fun r => { r with pendingCid := none }
    setState ex .opened
    replaceStop ex
  else if r.size = 0 then fillFlattened ex ev ours
  else if r.state.frozen then do
    alert ex .warn "late_fill"
      [("client_order_id", ev.clientOrderId), ("state", r.state.value),
        ("size_after", Decimal.str r.size)]
    replaceStop ex
  else if ours ∧ r.state ≠ .flat then pure ()
  else do
    alert ex .warn "unexpected_fill"
      [("client_order_id", ev.clientOrderId), ("state", r.state.value),
        ("size_before", Decimal.str sizeBefore),
        ("size_after", Decimal.str r.size)]
    if r.state = .flat then do
      setState ex .opened
      replaceStop ex
    else pure ()

/-- `if ours: self._record_fill(row, ev)`. -/
def recordOurs (row : Option OrderRow) (ev : FillUpdate) :
    Act V (InstrumentRouter S) Unit :=
  match row with
  | none => pure ()
  | some row => recordFill ex row ev

/-- A fill added to the local size, and what follows. -/
def countFill (row : Option OrderRow) (ev : FillUpdate) :
    Act V (InstrumentRouter S) Unit := do
  let before ← Prog.mem
  applyFill ex ev
  recordOurs ex row ev
  afterFill ex before.size row.isSome ev

def handleFill (ev : FillUpdate) : Act V (InstrumentRouter S) Unit := do
  let r ← Prog.mem
  if ev.instrumentId ≠ r.instrumentId then pure ()
  else do
    let row ← Prog.disk fun d => d.db.getOrder ev.clientOrderId
    match row with
    | none => countFill ex none ev
    | some row =>
        if row.status.gaveUp ∧ r.pendingCid ≠ some ev.clientOrderId then
          lateFill ex row ev
        else countFill ex (some row) ev

/-! ## Operator and recovery entry points -/

def clearHalt : Act V (InstrumentRouter S) Unit := do
  let r ← Prog.mem
  setState ex (if r.size ≠ 0 then .opened else .flat)

def adoptPending (cid : ClientOrderId) (state : State) :
    Act V (InstrumentRouter S) Unit :=
  if state.pending then do
    let now ← clock ex
    Prog.modifyMem fun r =>
      { r with pendingCid := some cid, pendingSince := some now }
    setState ex state
  else
    Prog.raise ⟨.valueError, "adopt_pending: state must be ENTRY_PENDING or "
      ++ s!"EXIT_PENDING, got {state.value}"⟩

end InstrumentRouter

end Polyperps
