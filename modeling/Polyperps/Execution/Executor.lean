import Polyperps.Lib.Prog
import Polyperps.Storage.Db

/-!
# The executor, and what outlives the process

`Executor` is the surface of `execution/executor.py` the router talks to, over
whatever state `V` the venue and the world around it have. A call may answer,
raise, and change that state in any way, so every pattern of outcomes is some
executor; the clock is read from the same state, because time passes outside
the process too.

`Durable` is what a process stop leaves behind: the tables, and the venue. It
also keeps a record the code does not keep, of every order handed to
`submit` and every decision row the table refused, which is how a statement
about submits is made.
-/

namespace Polyperps

open ProgramLogic

structure Executor (V : Type) where
  name : String
  submit : OrderRequest → V → Except Exc OrderAck × V
  cancel : ClientOrderId → V → Except Exc Unit × V
  placeStop : InstrumentId → Decimal → V → Except Exc Unit × V
  cancelStop : InstrumentId → V → Except Exc Unit × V
  snapshot : V → Except Exc AccountSnapshot × V
  clock : V → DateTime

/-- One call of `executor.submit`: the request, the `seq` of the decision row
written for it, and the tables at that moment. -/
structure Submission where
  request : OrderRequest
  decision : ℕ
  tables : Db

structure Durable (V : Type) where
  db : Db
  venue : V
  submitted : List Submission
  refusedDecisions : List DecisionRow

/-- A program of the process, with `μ` for the memory it works on. -/
abbrev Act (V μ α : Type) : Type := Prog Exc (World (Durable V) μ) α

variable {V μ α : Type}

/-- One committed SQL write. -/
def write (f : Db → Db) : Act V μ Unit :=
  Prog.commit fun d => (.ok (), { d with db := f d.db })

/-- One await on the executor. -/
def call (f : V → Except Exc α × V) : Act V μ α :=
  Prog.commit fun d => ((f d.venue).1, { d with venue := (f d.venue).2 })

/-- The await on `executor.submit`, entered in the record of submits. -/
def callSubmit (ex : Executor V) (req : OrderRequest) (decision : ℕ) :
    Act V μ OrderAck :=
  Prog.commit fun d =>
    ((ex.submit req d.venue).1,
      { d with
        venue := (ex.submit req d.venue).2
        submitted := d.submitted ++ [⟨req, decision, d.db⟩] })

/-- `db.insert_decision`. -/
def insertDecision (row : DecisionRow) : Act V μ Unit :=
  Prog.commit fun d =>
    match d.db.insertDecision row with
    | (.ok (), db) => (.ok (), { d with db })
    | (.error e, db) =>
        (.error e,
          { d with db, refusedDecisions := d.refusedDecisions ++ [row] })

/-- `self.clock()`. -/
def clock (ex : Executor V) : Act V μ DateTime :=
  Prog.disk fun d => ex.clock d.venue

/-- `alerter.emit`: the alert is entered in `alerts`, the record of those that
were handed to the sinks. No sink can raise into the caller: where the insert
of an alert fails, the source goes on without a row of it in the table. -/
def emit (runId : String) (a : Alert) : Act V μ Unit :=
  write (Db.insertAlert runId a)

section Rules

open Prog

variable {w : World (Durable V) μ} {ex : Executor V}

/-- The world after a committed write. -/
def wrote (w : World (Durable V) μ) (db : Db) : World (Durable V) μ :=
  { w with disk := { w.disk with db }, past := w.past ++ [w.disk] }

@[simp] theorem wrote_mem {db : Db} : (wrote w db).mem = w.mem := rfl

@[simp] theorem wrote_db {db : Db} : (wrote w db).disk.db = db := rfl

@[simp] theorem wrote_venue {db : Db} :
    (wrote w db).disk.venue = w.disk.venue := rfl

@[simp] theorem wrote_submitted {db : Db} :
    (wrote w db).disk.submitted = w.disk.submitted := rfl

@[simp] theorem wp_write {f : Db → Db} {Q : Unit → World (Durable V) μ → Prop}
    {E : Exc → World (Durable V) μ → Prop} :
    wp (write f : Act V μ Unit) Q E w = Q () (wrote w (f w.disk.db)) :=
  rfl

@[simp] theorem wp_emit {runId : String} {a : Alert}
    {Q : Unit → World (Durable V) μ → Prop}
    {E : Exc → World (Durable V) μ → Prop} :
    wp (emit runId a : Act V μ Unit) Q E w =
      Q () (wrote w (w.disk.db.insertAlert runId a)) := rfl

@[simp] theorem wp_clock {Q : DateTime → World (Durable V) μ → Prop}
    {E : Exc → World (Durable V) μ → Prop} :
    wp (clock ex : Act V μ DateTime) Q E w = Q (ex.clock w.disk.venue) w := rfl

/-- The world after an await that moved the venue to `v`. -/
def called (w : World (Durable V) μ) (v : V) : World (Durable V) μ :=
  { w with disk := { w.disk with venue := v }, past := w.past ++ [w.disk] }

@[simp] theorem called_mem {v : V} : (called w v).mem = w.mem := rfl

@[simp] theorem called_db {v : V} : (called w v).disk.db = w.disk.db := rfl

@[simp] theorem called_venue {v : V} : (called w v).disk.venue = v := rfl

@[simp] theorem called_submitted {v : V} :
    (called w v).disk.submitted = w.disk.submitted := rfl

theorem wp_call {f : V → Except Exc α × V}
    {Q : α → World (Durable V) μ → Prop}
    {E : Exc → World (Durable V) μ → Prop} :
    wp (call f : Act V μ α) Q E w =
      match f w.disk.venue with
      | (.ok a, v) => Q a (called w v)
      | (.error e, v) => E e (called w v) := by
  simp only [call, wp_commit, called]
  cases f w.disk.venue with
  | mk r v => cases r <;> rfl

/-- The world after a submit: the venue moved to `v`, the call recorded. -/
def sent (w : World (Durable V) μ) (req : OrderRequest)
    (decision : ℕ) (v : V) : World (Durable V) μ :=
  { w with
    disk :=
      { w.disk with
        venue := v
        submitted := w.disk.submitted ++ [⟨req, decision, w.disk.db⟩] }
    past := w.past ++ [w.disk] }

@[simp] theorem sent_mem {req : OrderRequest} {n : ℕ} {v : V} :
    (sent w req n v).mem = w.mem := rfl

@[simp] theorem sent_db {req : OrderRequest} {n : ℕ} {v : V} :
    (sent w req n v).disk.db = w.disk.db := rfl

@[simp] theorem sent_venue {req : OrderRequest} {n : ℕ} {v : V} :
    (sent w req n v).disk.venue = v := rfl

theorem wp_callSubmit {req : OrderRequest} {decision : ℕ}
    {Q : OrderAck → World (Durable V) μ → Prop}
    {E : Exc → World (Durable V) μ → Prop} :
    wp (callSubmit ex req decision : Act V μ OrderAck) Q E w =
      match ex.submit req w.disk.venue with
      | (.ok a, v) => Q a (sent w req decision v)
      | (.error e, v) => E e (sent w req decision v) := by
  simp only [callSubmit, wp_commit, sent]
  cases ex.submit req w.disk.venue with
  | mk r v => cases r <;> rfl

end Rules

end Polyperps
