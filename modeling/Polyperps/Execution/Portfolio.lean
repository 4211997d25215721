import Polyperps.Execution.InstrumentRouter
import Polyperps.Execution.Reconciliation

/-!
# The portfolio that drives the routers

`Portfolio` of `execution/order_router.py`. Every public entry point holds
one lock for its whole length, so an operation is one program on the
portfolio's memory; the routers it runs each see their own fields.
-/

namespace Polyperps

open ProgramLogic

structure Portfolio (S : Type) where
  runId : String
  startEquity : Option Decimal
  /-- The keys of `self.routers`, in insertion order. -/
  ids : List InstrumentId
  router : InstrumentId → InstrumentRouter S
  lastPnlLevel : Option Level
  fundingSeen : InstrumentId → Option Decimal
  refusedReported : List Mismatch

namespace Portfolio

variable {V S α : Type}

def setRouter (iid : InstrumentId) (r : InstrumentRouter S)
    (pf : Portfolio S) : Portfolio S :=
  { pf with router := fun j => if j = iid then r else pf.router j }

@[simp] theorem setRouter_self {iid : InstrumentId} {r : InstrumentRouter S}
    {pf : Portfolio S} : (pf.setRouter iid r).router iid = r := by
  simp [setRouter]

theorem setRouter_of_ne {iid j : InstrumentId} {r : InstrumentRouter S}
    {pf : Portfolio S} (h : j ≠ iid) :
    (pf.setRouter iid r).router j = pf.router j := by
  simp [setRouter, h]

@[simp] theorem setRouter_setRouter {iid : InstrumentId}
    {r r' : InstrumentRouter S} {pf : Portfolio S} :
    (pf.setRouter iid r).setRouter iid r' = pf.setRouter iid r' := by
  simp only [setRouter, Portfolio.mk.injEq, true_and, and_true]
  funext j
  split <;> rfl

@[simp] theorem setRouter_ids {iid : InstrumentId} {r : InstrumentRouter S}
    {pf : Portfolio S} : (pf.setRouter iid r).ids = pf.ids := rfl

@[simp] theorem setRouter_runId {iid : InstrumentId} {r : InstrumentRouter S}
    {pf : Portfolio S} : (pf.setRouter iid r).runId = pf.runId := rfl

/-- Run a router's method. -/
def onRouter (iid : InstrumentId) (m : Act V (InstrumentRouter S) α) :
    Act V (Portfolio S) α :=
  Prog.focus (fun pf => pf.router iid) (setRouter iid) m

/-- `for router in self.routers.values()`. -/
def forRouters (m : InstrumentId → Act V (Portfolio S) Unit) :
    Act V (Portfolio S) Unit := do
  let pf ← Prog.mem
  Prog.forEach pf.ids m

variable (ex : Executor V)

/-- `funding_drift`: what the venue charged since the last bar against the
bar's rate. -/
def checkFunding (histories : List (InstrumentId × List Bar))
    (snapshot : AccountSnapshot) : Act V (Portfolio S) Unit :=
  Prog.forEach histories fun (iid, history) => do
    let pf ← Prog.mem
    let rate := history.getLast?.bind Bar.fundingRate
    match (snapshot.position iid).filter (·.size ≠ 0), rate with
    | some pos, some rate => do
        Prog.modifyMem fun pf =>
          { pf with
            fundingSeen := fun j =>
              if j = iid then some pos.cumulativeFunding
              else pf.fundingSeen j }
        match pf.fundingSeen iid with
        | none => pure ()
        | some prev =>
            if pos.notional = 0 then pure ()
            else
              match fundingDriftAlert
                  ((prev - pos.cumulativeFunding) / pos.notional)
                  (rate * (if 0 < pos.size then 1 else -1)) iid
                  snapshot.ts with
              | none => pure ()
              | some a => emit pf.runId a
    | _, _ =>
        Prog.modifyMem fun pf =>
          { pf with
            fundingSeen := fun j =>
              if j = iid then none else pf.fundingSeen j }

/-- The price a shutdown flattens an instrument at. -/
def shutdownMark (history : Option (List Bar)) (pos : Option PositionView)
    (entry : Option Decimal) : Decimal :=
  match history.bind (fun h => h.getLast?.bind Bar.close) with
  | some close => close
  | none =>
      match pos.filter (·.size ≠ 0) with
      | some pos => pos.notional / |pos.size|
      | none => entry.getD 0

/-- `_shutdown`: flatten and halt every router. -/
def shutdown (snapshot : AccountSnapshot)
    (histories : List (InstrumentId × List Bar)) :
    Act V (Portfolio S) Unit := do
  let pf ← Prog.mem
  if pf.ids.any fun iid => !(pf.router iid).state.frozen then
    emit pf.runId
      { level := .critical
        kind := if lossLimit (some snapshot.equity) pf.startEquity = .shutdown
          then "loss_limit" else "divergence"
        instrumentId := none
        detail := [("equity", Decimal.str snapshot.equity),
          ("start_equity", decimalText pf.startEquity)]
        ts := snapshot.ts }
    else pure ()
  forRouters fun iid => do
    let pf ← Prog.mem
    let pos := snapshot.position iid
    let mark := shutdownMark (histories.lookup iid) pos (pf.router iid).entry
    onRouter iid
      (InstrumentRouter.shutdown ex mark
        (some ((pos.map PositionView.size).getD 0)))

/-- The entry orders of the other routers in flight. -/
def pendingEntries (pf : Portfolio S) (iid : InstrumentId) : List Intent :=
  (pf.ids.filter fun j =>
    j ≠ iid ∧ (pf.router j).state = .entryPending).filterMap fun j =>
      (pf.router j).pendingIntent

def onBar (histories : List (InstrumentId × List Bar)) (kill : KillAction) :
    Act V (Portfolio S) Unit := do
  let snapshot ← call ex.snapshot
  if kill = .shutdown then shutdown ex snapshot histories
  else do
    checkFunding histories snapshot
    Prog.forEach histories fun (iid, history) => do
      let pf ← Prog.mem
      if iid ∈ pf.ids ∧ history ≠ [] then
        onRouter iid
          (InstrumentRouter.onBar ex history snapshot kill
            (pf.pendingEntries iid))
      else pure ()

/-- The drawdown alert, on level transitions only. -/
def watchPnl (snapshot : AccountSnapshot) : Act V (Portfolio S) Unit := do
  let pf ← Prog.mem
  match pf.startEquity with
  | none => pure ()
  | some start => do
      let a := pnlAlert snapshot.equity start snapshot.ts
      match a with
      | some a =>
          if some a.level ≠ pf.lastPnlLevel then emit pf.runId a
          else pure ()
      | none => pure ()
      Prog.modifyMem fun pf => { pf with lastPnlLevel := a.map Alert.level }

def onFast (marks : List (InstrumentId × Decimal)) :
    Act V (Portfolio S) AccountSnapshot := do
  let snapshot ← call ex.snapshot
  forRouters fun iid =>
    onRouter iid (InstrumentRouter.checkPending ex snapshot)
  Prog.forEach marks fun (iid, mark) => do
    let pf ← Prog.mem
    if iid ∈ pf.ids then
      onRouter iid (InstrumentRouter.onFast ex mark snapshot)
    else pure ()
  watchPnl snapshot
  return snapshot

/-! ## Reconciliation -/

/-- The alert of a reconcile response. -/
def mismatchAlert (m : Mismatch) (level : Level) (kind : String)
    (extra : List (String × String)) : Act V (Portfolio S) Unit := do
  let pf ← Prog.mem
  let ts ← clock ex
  emit pf.runId
    { level, kind, instrumentId := m.instrumentId
      detail := [("local", m.localText), ("remote", m.remoteText)] ++ extra
      ts }

/-- The response to a missing stop. -/
def guardPosition (m : Mismatch) (iid : InstrumentId)
    (snapshot : AccountSnapshot) : Act V (Portfolio S) Unit := do
  let pf ← Prog.mem
  match snapshot.position iid with
  | none => Prog.raise ⟨.other "AttributeError", "entry_price"⟩
  | some pos => do
      let trigger ← placeExchangeStop ex pos
        (if iid ∈ pf.ids then (pf.router iid).limits else limitsDefault)
      if iid ∈ pf.ids then
        onRouter iid do
          Prog.modifyMem fun r => { r with stopTrigger := some trigger }
          InstrumentRouter.persist ex
        else pure ()
      mismatchAlert ex m .warn "stop_missing" [("trigger", Decimal.str trigger)]
      let ts ← clock ex
      emit pf.runId
        { level := .info, kind := "stop_placed", instrumentId := some iid
          detail := [("trigger", Decimal.str trigger)], ts }

/-- The response to one mismatch. -/
def respond (m : Mismatch) (snapshot : AccountSnapshot) :
    Act V (Portfolio S) Unit := do
  let pf ← Prog.mem
  match m.kind, m.instrumentId with
  | .size, some iid =>
      if iid ∈ pf.ids then
        onRouter iid (InstrumentRouter.halt ex
          (s!"reconcile: size mismatch local={m.localText} " ++
            s!"remote={m.remoteText}"))
      else mismatchAlert ex m .critical "unknown_position" []
  | .unknownOrder, _ => do
      call (ex.cancel m.remoteText)
      mismatchAlert ex m .warn "unknown_order" []
  | .missingStop, some iid => guardPosition ex m iid snapshot
  | .stopWithoutPosition, some iid =>
      -- Shadow's cancel_stop is a no-op, so the source refuses by hand
      if ex.name = "shadow" then
        Prog.raise ⟨.shadowRefused, "cancel_stop"⟩
      else do
        call (ex.cancelStop iid)
        mismatchAlert ex m .info "stop_orphan_cancelled" []
  | _, _ => mismatchAlert ex m .warn "stop_drift" []

/-- `_reconcile`: diff, and answer each mismatch; a refusal in shadow mode is
reported once per persisting mismatch. -/
def reconcile : Act V (Portfolio S) (List Mismatch) := do
  let snapshot ← call ex.snapshot
  let pf ← Prog.mem
  let rows ← Prog.disk fun d => d.db.getPositionsLocal pf.runId
  let known ← Prog.disk fun d =>
    ((d.db.listOrders pf.runId).filter fun o => !o.status.terminal).map
      OrderRow.clientOrderId
  let mismatches := diff rows snapshot pf.runId known
  Prog.forEach mismatches fun m =>
    Prog.catching (respond ex m snapshot) fun e => do
      let pf ← Prog.mem
      if e.kind ≠ .shadowRefused then Prog.raise e
      else if m ∈ pf.refusedReported then pure ()
      else do
        Prog.modifyMem fun pf =>
          { pf with refusedReported := m :: pf.refusedReported }
        mismatchAlert ex m .warn "shadow_refused"
          (if m.kind = .stopWithoutPosition then [("action", "cancel_stop")]
            else [])
  Prog.modifyMem fun pf =>
    { pf with refusedReported := pf.refusedReported.filter (· ∈ mismatches) }
  return mismatches

def dispatch (ev : Event) : Act V (Portfolio S) Unit := do
  match ev with
  | .reconcileNow => do
      let _ ← reconcile ex
      pure ()
  | .fill ev => do
      let pf ← Prog.mem
      if ev.instrumentId ∈ pf.ids then
        onRouter ev.instrumentId (InstrumentRouter.handleFill ex ev)
      else pure ()
  | .order ev =>
      forRouters fun iid =>
        onRouter iid (InstrumentRouter.handleOrderUpdate ex ev)

def reconcileNow : Act V (Portfolio S) (List Mismatch) := reconcile ex

/-- The operations the lock serialises. -/
inductive Op
  | onBar (histories : List (InstrumentId × List Bar)) (kill : KillAction)
  | onFast (marks : List (InstrumentId × Decimal))
  | dispatch (ev : Event)
  | reconcileNow

/-- Run one operation. -/
def perform : Op → Act V (Portfolio S) Unit
  | .onBar histories kill => onBar ex histories kill
  | .onFast marks => do
      let _ ← onFast ex marks
      pure ()
  | .dispatch ev => dispatch ex ev
  | .reconcileNow => do
      let _ ← reconcileNow ex
      pure ()

end Portfolio

end Polyperps
