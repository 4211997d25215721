import Polyperps.Lib.Table
import Polyperps.Monitor.Alerts

/-!
# The tables the trader writes

The Phase 2 tables of `storage/db.py`, as keyed lists in insertion order, and
the statements the router, reconciliation and recovery run on them. Each
write is committed on its own.
-/

namespace Polyperps

open KeyedTable

structure RecoveryRow where
  runId : String
  ts : DateTime
  adopted : List ClientOrderId
  abandoned : List ClientOrderId
  cancelled : List ClientOrderId
  stopsReplaced : List InstrumentId
  unknownPositions : List InstrumentId
  adoptedUntracked : List InstrumentId
  states : List (InstrumentId × String)
  failed : Option String
deriving DecidableEq

structure Db where
  decisions : List DecisionRow
  orders : List OrderRow
  positionsLocal : List PositionLocalRow
  /-- The alerts emitted; the table has those of them it took. -/
  alerts : List (String × Alert)
  recovery : List RecoveryRow
deriving DecidableEq

/-- The tables just created. -/
def Db.empty : Db := ⟨[], [], [], [], []⟩

/-- The primary key of `decisions`. -/
def DecisionRow.key (r : DecisionRow) : String × InstrumentId × ℕ :=
  (r.runId, r.instrumentId, r.seq)

/-- The primary key of `positions_local`. -/
def PositionLocalRow.key (r : PositionLocalRow) : String × InstrumentId :=
  (r.runId, r.instrumentId)

/-- What `ON CONFLICT DO UPDATE` keeps of an order row: everything but the
columns the statement names. -/
def OrderRow.updateWith (old new : OrderRow) : OrderRow :=
  { old with
    status := new.status
    exchangeOrderId := new.exchangeOrderId
    filledQuantity := new.filledQuantity
    avgPrice := new.avgPrice
    updatedAt := new.updatedAt
    reason := new.reason }

namespace Db

/-- A plain `INSERT`: a second row with the same primary key is refused. -/
def insertDecision (row : DecisionRow) (db : Db) : Except Exc Unit × Db :=
  if db.decisions.any fun r => r.key = row.key then
    (.error ⟨.integrityError, "UNIQUE constraint failed"⟩, db)
  else (.ok (), { db with decisions := db.decisions ++ [row] })

/-- Ordered by `seq`. -/
def listDecisions (runId : String) (iid : InstrumentId) (db : Db) :
    List DecisionRow :=
  (db.decisions.filter fun r => r.runId = runId ∧ r.instrumentId = iid)
    |>.insertionSort fun a b => a.seq ≤ b.seq

def upsertOrder (o : OrderRow) (db : Db) : Db :=
  { db with
    orders := upsert OrderRow.clientOrderId OrderRow.updateWith o db.orders }

def getOrder (cid : ClientOrderId) (db : Db) : Option OrderRow :=
  lookup OrderRow.clientOrderId cid db.orders

/-- Ordered by `submitted_at`, insertion order among equals. -/
def listOrders (runId : String) (db : Db) : List OrderRow :=
  (db.orders.filter fun o => o.runId = runId)
    |>.insertionSort fun a b => a.submittedAt ≤ b.submittedAt

/-- The update names every column outside the key. -/
def upsertPositionLocal (p : PositionLocalRow) (db : Db) : Db :=
  { db with
    positionsLocal :=
      upsert PositionLocalRow.key (fun _ new => new) p db.positionsLocal }

/-- The rows of a run, one per instrument. -/
def getPositionsLocal (runId : String) (db : Db) : List PositionLocalRow :=
  db.positionsLocal.filter fun p => p.runId = runId

/-- `get_positions_local(conn, run_id).get(iid)`. -/
def positionLocal (runId : String) (iid : InstrumentId) (db : Db) :
    Option PositionLocalRow :=
  lookup PositionLocalRow.key (runId, iid) db.positionsLocal

def insertAlert (runId : String) (a : Alert) (db : Db) : Db :=
  { db with alerts := db.alerts ++ [(runId, a)] }

def insertRecovery (r : RecoveryRow) (db : Db) : Db :=
  { db with recovery := db.recovery ++ [r] }

/-! What each statement leaves alone, and what it makes findable. -/

section Frame

variable {db : Db} {runId : String} {iid : InstrumentId} {cid : ClientOrderId}
  {o : OrderRow} {p : PositionLocalRow} {a : Alert} {r : RecoveryRow}

@[simp] theorem positionLocal_upsertOrder :
    (db.upsertOrder o).positionLocal runId iid = db.positionLocal runId iid :=
  rfl

@[simp] theorem positionLocal_insertAlert :
    (db.insertAlert runId a).positionLocal runId iid =
      db.positionLocal runId iid := rfl

@[simp] theorem positionLocal_insertRecovery :
    (db.insertRecovery r).positionLocal runId iid =
      db.positionLocal runId iid := rfl

@[simp] theorem getOrder_upsertPositionLocal :
    (db.upsertPositionLocal p).getOrder cid = db.getOrder cid := rfl

@[simp] theorem getOrder_insertAlert :
    (db.insertAlert runId a).getOrder cid = db.getOrder cid := rfl

@[simp] theorem getOrder_insertRecovery :
    (db.insertRecovery r).getOrder cid = db.getOrder cid := rfl

theorem positionLocal_upsertPositionLocal_self :
    (db.upsertPositionLocal p).positionLocal p.runId p.instrumentId =
      some p := by
  have h := @lookup_upsert_self _ _ _ PositionLocalRow.key
    (fun _ new => new) p db.positionsLocal (fun _ _ => rfl)
  have helim : ∀ x : Option PositionLocalRow, (x.elim p fun _ => p) = p := by
    intro x; cases x <;> rfl
  rw [helim] at h
  exact h

theorem positionLocal_upsertPositionLocal_ne
    (h : (runId, iid) ≠ (p.runId, p.instrumentId)) :
    (db.upsertPositionLocal p).positionLocal runId iid =
      db.positionLocal runId iid :=
  lookup_upsert_ne (fun _ _ => rfl) h

theorem getOrder_upsertOrder_ne (h : cid ≠ o.clientOrderId) :
    (db.upsertOrder o).getOrder cid = db.getOrder cid :=
  lookup_upsert_ne (fun _ hk => hk) h

theorem getOrder_upsertOrder_self (db : Db) (o : OrderRow) :
    (db.upsertOrder o).getOrder o.clientOrderId =
      some ((db.getOrder o.clientOrderId).elim o (·.updateWith o)) :=
  lookup_upsert_self (fun _ hk => hk)

theorem getOrder_cid (h : db.getOrder cid = some o) : o.clientOrderId = cid :=
  (lookup_mem h).2

end Frame

end Db

end Polyperps
