import Polyperps.Execution.Portfolio

/-!
# Recovery: the exchange is the truth

`execution/state_recovery.py`. `recover` runs once, before any strategy, on
routers that have loaded nothing: it adopts the venue's positions, guards
them, marks the orders that were in flight, and cancels what other runs left
resting.
-/

namespace Polyperps

open ProgramLogic

/-- The statuses of an order that was in flight: `submitting`, `accepted`. -/
def RowStatus.inFlight : RowStatus → Bool
  | .submitting | .update .accepted => true
  | _ => false

/-- `RecoveryReport`, with the instrument being worked on for the alert of a
failure. -/
structure RecoveryReport where
  adopted : List ClientOrderId
  abandoned : List ClientOrderId
  cancelled : List ClientOrderId
  stopsReplaced : List InstrumentId
  unknownPositions : List InstrumentId
  adoptedUntracked : List InstrumentId
  states : List (InstrumentId × String)
  currentIid : Option InstrumentId

def RecoveryReport.empty : RecoveryReport := ⟨[], [], [], [], [], [], [], none⟩

/-- What `recover` works on: the portfolio's routers and its own report. -/
structure Recovery (S : Type) where
  pf : Portfolio S
  rep : RecoveryReport

namespace Recovery

variable {V S α : Type} (ex : Executor V)

def onRouter (iid : InstrumentId) (m : Act V (InstrumentRouter S) α) :
    Act V (Recovery S) α :=
  Prog.focus (fun c => c.pf.router iid)
    (fun r c => { c with pf := c.pf.setRouter iid r }) m

def report (f : RecoveryReport → RecoveryReport) : Act V (Recovery S) Unit :=
  Prog.modifyMem fun c => { c with rep := f c.rep }

def alert (level : Level) (kind : String) (iid : Option InstrumentId)
    (detail : List (String × String)) : Act V (Recovery S) Unit := do
  let c ← Prog.mem
  let ts ← clock ex
  emit c.pf.runId { level, kind, instrumentId := iid, detail, ts }

/-- The alert and the finding of a position no row accounts for. -/
def reportUntracked (iid : InstrumentId) (pos : PositionView) :
    Act V (Recovery S) Unit := do
  report fun rep =>
    { rep with adoptedUntracked := rep.adoptedUntracked ++ [iid] }
  alert ex .warn "adopted_untracked" (some iid)
    [("instrument_id", toString iid), ("size", Decimal.str pos.size),
      ("entry", Decimal.str pos.entryPrice)]

/-- The finding and the alert of a stop recovery placed. -/
def reportStop (iid : InstrumentId) (trigger : Decimal) :
    Act V (Recovery S) Unit := do
  report fun rep => { rep with stopsReplaced := rep.stopsReplaced ++ [iid] }
  alert ex .info "stop_placed" (some iid) [("trigger", Decimal.str trigger)]

/-- Whether a row is `HALTED` or `LIQUIDATED`; no row is not. -/
def frozenRow (row : Option PositionLocalRow) : Bool :=
  (row.map fun r => r.state.frozen).getD false

/-- `router.load_local(row)`, where there is a row. -/
def loadRow (row : Option PositionLocalRow) (iid : InstrumentId) :
    Act V (Recovery S) Unit :=
  match row with
  | none => pure ()
  | some row => do
      let tables ← Prog.disk fun d => d.db
      onRouter iid (Prog.modifyMem (InstrumentRouter.loadLocal row tables))

/-- The stop a recovered position ends with. -/
def takeStop (snap : AccountSnapshot) (iid : InstrumentId)
    (pos : PositionView) : Act V (Recovery S) Unit :=
  match snap.stop iid with
  | some trigger =>
      onRouter iid (Prog.modifyMem fun r =>
        { r with stopTrigger := some trigger })
  | none => do
      let c ← Prog.mem
      let trigger ← placeExchangeStop ex pos (c.pf.router iid).limits
      onRouter iid (Prog.modifyMem fun r =>
        { r with stopTrigger := some trigger })
      reportStop ex iid trigger

/-- A nonzero position of the venue becomes the router's. -/
def takePosition (snap : AccountSnapshot) (row : Option PositionLocalRow)
    (iid : InstrumentId) (pos : PositionView) : Act V (Recovery S) Unit := do
  if !frozenRow row && (row.map PositionLocalRow.state).getD .flat = .flat then
    reportUntracked ex iid pos
    else pure ()
  onRouter iid (Prog.modifyMem fun r =>
    { r with
      size := pos.size, entry := some pos.entryPrice
      cumulativeFunding := pos.cumulativeFunding
      state := if frozenRow row then r.state else .opened })
  takeStop ex snap iid pos

/-- No position on the venue: none of the router's. -/
def takeFlat (row : Option PositionLocalRow) (iid : InstrumentId) :
    Act V (Recovery S) Unit :=
  onRouter iid (Prog.modifyMem fun r =>
    { r with
      size := 0, entry := none, stopTrigger := none
      state := if frozenRow row then r.state else .flat })

/-- The venue's nonzero position of an instrument. -/
def held (snap : AccountSnapshot) (iid : InstrumentId) :
    Option PositionView := (snap.position iid).filter (·.size ≠ 0)

/-- What the router becomes before its row is written. -/
def takeVenue (snap : AccountSnapshot) (row : Option PositionLocalRow)
    (iid : InstrumentId) : Act V (Recovery S) Unit :=
  match held snap iid with
  | some pos => takePosition ex snap row iid pos
  | none => takeFlat row iid

/-- One turn of the router loop: load the row, take the venue's position,
guard it, persist. -/
def recoverRouter (snap : AccountSnapshot) (rows : List PositionLocalRow)
    (iid : InstrumentId) : Act V (Recovery S) Unit := do
  report fun rep => { rep with currentIid := some iid }
  let row := rows.find? fun r => r.instrumentId = iid
  loadRow row iid
  takeVenue ex snap row iid
  onRouter iid (InstrumentRouter.persist ex)
  let c ← Prog.mem
  report fun rep =>
    { rep with
      states := rep.states ++ [(iid, (c.pf.router iid).state.value)] }

/-- One turn of the unknown-position loop. -/
def guardUnknown (snap : AccountSnapshot) (pos : PositionView) :
    Act V (Recovery S) Unit := do
  let c ← Prog.mem
  if pos.size = 0 ∨ pos.instrumentId ∈ c.pf.ids then pure ()
  else do
    report fun rep =>
      { rep with
        currentIid := some pos.instrumentId
        unknownPositions := rep.unknownPositions ++ [pos.instrumentId] }
    alert ex .critical "unknown_position" (some pos.instrumentId)
      [("size", Decimal.str pos.size)]
    match snap.stop pos.instrumentId with
    | some _ => pure ()
    | none => do
        let trigger ← placeExchangeStop ex pos limitsDefault
        reportStop ex pos.instrumentId trigger

/-- Give a resting order back to its router, if its row was waiting. -/
def restorePending (rows : List PositionLocalRow) (o : OrderRow) :
    Act V (Recovery S) Unit := do
  let c ← Prog.mem
  match rows.find? fun r => r.instrumentId = o.instrumentId with
  | none => pure ()
  | some row =>
      if o.instrumentId ∈ c.pf.ids ∧ row.state.pending then
        onRouter o.instrumentId
          (InstrumentRouter.adoptPending ex o.clientOrderId row.state)
      else pure ()

/-- One turn of the order loop: an order that was in flight still rests, and
goes back to its router, or is abandoned. -/
def classifyOrder (snap : AccountSnapshot) (rows : List PositionLocalRow)
    (o : OrderRow) : Act V (Recovery S) Unit :=
  if o.status.inFlight then do
    report fun rep => { rep with currentIid := some o.instrumentId }
    if o.clientOrderId ∈ snap.openOrders then do
      restorePending ex rows o
      let now ← clock ex
      write (Db.upsertOrder { o with status := .adopted, updatedAt := now })
      report fun rep => { rep with adopted := rep.adopted ++ [o.clientOrderId] }
    else do
      let now ← clock ex
      write (Db.upsertOrder { o with status := .abandoned, updatedAt := now })
      report fun rep =>
        { rep with abandoned := rep.abandoned ++ [o.clientOrderId] }
  else pure ()

/-- One turn of the cancel loop. -/
def cancelForeign (oid : ClientOrderId) : Act V (Recovery S) Unit := do
  let c ← Prog.mem
  if ownedBy c.pf.runId oid then pure ()
  else do
    call (ex.cancel oid)
    report fun rep => { rep with cancelled := rep.cancelled ++ [oid] }

/-- The body of `recover`'s `try`. -/
def adoptAll (snap : AccountSnapshot) : Act V (Recovery S) Unit := do
  let c ← Prog.mem
  let rows ← Prog.disk fun d => d.db.getPositionsLocal c.pf.runId
  Prog.forEach c.pf.ids (recoverRouter ex snap rows)
  report fun rep => { rep with currentIid := none }
  Prog.forEach snap.positions (guardUnknown ex snap)
  report fun rep => { rep with currentIid := none }
  let orders ← Prog.disk fun d => d.db.listOrders c.pf.runId
  Prog.forEach orders (classifyOrder ex snap rows)
  report fun rep => { rep with currentIid := none }
  Prog.forEach snap.openOrders (cancelForeign ex)
  Prog.modifyMem fun c =>
    { c with
      rep := { c.rep with
        states := c.pf.ids.map fun iid =>
          (iid, (c.pf.router iid).state.value) } }

/-- `db.insert_recovery` of the report. -/
def recordFindings (failed : Option String) : Act V (Recovery S) Unit := do
  let c ← Prog.mem
  let ts ← clock ex
  write (Db.insertRecovery
    { runId := c.pf.runId, ts
      adopted := c.rep.adopted, abandoned := c.rep.abandoned
      cancelled := c.rep.cancelled, stopsReplaced := c.rep.stopsReplaced
      unknownPositions := c.rep.unknownPositions
      adoptedUntracked := c.rep.adoptedUntracked
      states := c.rep.states, failed })

/-- `recover`'s handler: record the failure, then halt. -/
def failed (e : Exc) : Act V (Recovery S) Unit := do
  let text := s!"{e.kind.name}: {e.message}"
  recordFindings ex (some text)
  let c ← Prog.mem
  alert ex .critical "recovery_failed" c.rep.currentIid
    [("error", e.kind.name)]
  Prog.raise ⟨.recoveryHalt, "recovery failed: " ++ text⟩

end Recovery

/-- `recover`. -/
def recover {V S : Type} (ex : Executor V) : Act V (Recovery S) Unit := do
  let snap ← Prog.catching (call ex.snapshot) fun e =>
    Prog.raise ⟨.recoveryHalt,
      s!"executor snapshot unavailable: {e.kind.name}"⟩
  Prog.catching (Recovery.adoptAll ex snap) (Recovery.failed ex)
  Recovery.recordFindings ex none
  let c ← Prog.mem
  Recovery.alert ex .info "recovery" none
    [("states", toString (c.rep.states.map Prod.snd)),
      ("abandoned", toString c.rep.abandoned.length)]

end Polyperps
