import Polyperps.Storage.Db

/-!
# Local rows against the executor's view

`execution/reconciliation.py`: a pure diff of the persisted rows and an
account snapshot. The responses are `Portfolio.reconcile`'s.
-/

namespace Polyperps

inductive MismatchKind
  | size
  | unknownOrder
  | missingStop
  | stopWithoutPosition
  | stopDrift
deriving DecidableEq, Repr

structure Mismatch where
  kind : MismatchKind
  instrumentId : Option InstrumentId
  localText : String
  remoteText : String
deriving DecidableEq

/-- `str(x)` of an optional decimal. -/
def decimalText : Option Decimal → String
  | none => "None"
  | some x => Decimal.str x

/-- `oid.startswith(f"{run_id}-")`. -/
def ownedBy (runId : String) (cid : ClientOrderId) : Bool :=
  (runId ++ "-").toList.isPrefixOf cid.toList

/-- `{p.instrument_id: p for p in remote.positions}.get(iid)`: a later view
of an instrument replaces an earlier one. -/
def remotePosition (remote : AccountSnapshot) (iid : InstrumentId) :
    Option PositionView :=
  remote.positions.reverse.find? fun p => p.instrumentId = iid

/-- The mismatches of one instrument: a missing stop whatever the local row
says, then size and stop drift unless an order is in flight. -/
def diffInstrument (lrow : Option PositionLocalRow) (remote : AccountSnapshot)
    (tolerance : Decimal) (iid : InstrumentId) : List Mismatch :=
  let rsize := ((remotePosition remote iid).map PositionView.size).getD 0
  let missing : List Mismatch :=
    if rsize ≠ 0 ∧ remote.stop iid = none then
      [{ kind := .missingStop, instrumentId := some iid
         localText := decimalText (lrow.bind PositionLocalRow.stopTrigger)
         remoteText := "none" }]
    else []
  if (lrow.map fun l => l.state.pending) = some true then missing
  else
    let lsize := (lrow.map PositionLocalRow.size).getD 0
    if lsize ≠ rsize then
      missing ++
        [{ kind := .size, instrumentId := some iid
           localText := Decimal.str lsize, remoteText := Decimal.str rsize }]
    else
      match lrow, remote.stop iid with
      | some l, some rstop =>
          match l.stopTrigger with
          | some lstop =>
              if rsize ≠ 0 ∧ l.state = .opened ∧ lstop ≠ 0 ∧
                  tolerance < |rstop - lstop| / lstop then
                missing ++
                  [{ kind := .stopDrift, instrumentId := some iid
                     localText := Decimal.str lstop
                     remoteText := Decimal.str rstop }]
              else missing
          | none => missing
      | _, _ => missing

def diff (rows : List PositionLocalRow) (remote : AccountSnapshot)
    (runId : String) (knownOrders : List ClientOrderId)
    (stopDriftTolerance : Decimal := 5 / 100) : List Mismatch :=
  let iids := ((rows.map PositionLocalRow.instrumentId ++
    remote.positions.map PositionView.instrumentId).dedup).insertionSort
      (· ≤ ·)
  (iids.flatMap fun iid =>
    diffInstrument (rows.find? fun r => r.instrumentId = iid) remote
      stopDriftTolerance iid)
  ++ ((remote.stops.filter fun st =>
      ((remotePosition remote st.1).map PositionView.size).getD 0 = 0).map
    fun st =>
      { kind := .stopWithoutPosition, instrumentId := some st.1
        localText := "none", remoteText := Decimal.str st.2 })
  ++ ((remote.openOrders.filter fun oid =>
      !ownedBy runId oid || decide (oid ∉ knownOrders)).map fun oid =>
      { kind := .unknownOrder, instrumentId := none
        localText := "none", remoteText := oid })

end Polyperps
