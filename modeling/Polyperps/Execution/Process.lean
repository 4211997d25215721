import Polyperps.Execution.StateRecovery

/-!
# Processes over one database

What `scripts/run_trader.py` does with the pieces, as a step relation. A
process starts with `recover` on routers that have loaded nothing, then runs
operations under the portfolio's lock; an operator may clear a halt. It may be
stopped at any point, and all it leaves is the disk of that moment: between
two writes, or with the answer to a call on its way. Between steps the venue
moves as it likes, and the strategies, which only the operations ask, may
come to any state.
-/

namespace Polyperps

open ProgramLogic

/-- What outlives the process, and the process, if one runs. -/
structure Site (V S : Type) where
  disk : Durable V
  process : Option (Portfolio S)

/-- What `recover` is handed by a process that has just started. -/
structure Started {S : Type} (runId : String) (c : Recovery S) : Prop where
  pfRunId : c.pf.runId = runId
  /-- The keys of a dictionary. -/
  ids : c.pf.ids.Nodup
  router : ∀ iid, ∃ strategy strategyState categories limits exposure,
    c.pf.router iid = InstrumentRouter.fresh runId iid strategy strategyState
      categories limits exposure
  report : c.rep = .empty

inductive Happening (V S : Type)
  /-- A process starts, and `recover` runs to its end. -/
  | start (c : Recovery S)
  /-- A process starts, and is stopped inside `recover`. -/
  | startCut (c : Recovery S)
  /-- An operation runs to its end, returning or raising. -/
  | perform (op : Portfolio.Op)
  /-- The process is stopped inside an operation. -/
  | cut (op : Portfolio.Op)
  | clearHalt (iid : InstrumentId)
  /-- The process is stopped between two operations. -/
  | stop
  | venue (v : V)
  | strategies (states : InstrumentId → S)

namespace Site

variable {V S : Type} (ex : Executor V)

/-- `recover` in a process just started. -/
def recovering (d : Durable V) (c : Recovery S) :
    Except Exc Unit × World (Durable V) (Recovery S) :=
  recover ex { mem := c, disk := d, past := [] }

/-- The portfolio of a process whose `recover` returned. -/
def recovered (d : Durable V) (c : Recovery S) : Option (Portfolio S) :=
  match (recovering ex d c).1 with
  | .ok _ => some (recovering ex d c).2.mem.pf
  | .error _ => none

/-- An operation of a running process, returning or raising. -/
def operating (d : Durable V) (pf : Portfolio S) (op : Portfolio.Op) :
    World (Durable V) (Portfolio S) :=
  (Portfolio.perform ex op { mem := pf, disk := d, past := [] }).2

/-- The operator's `clear_halt`. -/
def clearing (d : Durable V) (pf : Portfolio S) (iid : InstrumentId) :
    World (Durable V) (Portfolio S) :=
  (Portfolio.onRouter iid (InstrumentRouter.clearHalt ex)
    { mem := pf, disk := d, past := [] }).2

/-- One happening, with the disks passed through, the last of them the one
the site is left with. -/
inductive Step (runId : String) :
    Site V S → Happening V S → List (Durable V) → Site V S → Prop
  | start {d : Durable V} {c : Recovery S} (h : Started runId c) :
      Step runId ⟨d, none⟩ (.start c) (recovering ex d c).2.moments
        ⟨(recovering ex d c).2.disk, recovered ex d c⟩
  | startCut {d d' : Durable V} {c : Recovery S} {ms : List (Durable V)}
      (h : Started runId c)
      (hcut : ms ++ [d'] <+: (recovering ex d c).2.moments) :
      Step runId ⟨d, none⟩ (.startCut c) (ms ++ [d']) ⟨d', none⟩
  | perform {d : Durable V} {pf : Portfolio S} {op : Portfolio.Op} :
      Step runId ⟨d, some pf⟩ (.perform op) (operating ex d pf op).moments
        ⟨(operating ex d pf op).disk, some (operating ex d pf op).mem⟩
  | cut {d d' : Durable V} {pf : Portfolio S} {op : Portfolio.Op}
      {ms : List (Durable V)}
      (hcut : ms ++ [d'] <+: (operating ex d pf op).moments) :
      Step runId ⟨d, some pf⟩ (.cut op) (ms ++ [d']) ⟨d', none⟩
  | clearHalt {d : Durable V} {pf : Portfolio S} {iid : InstrumentId}
      (hid : iid ∈ pf.ids) :
      Step runId ⟨d, some pf⟩ (.clearHalt iid) (clearing ex d pf iid).moments
        ⟨(clearing ex d pf iid).disk, some (clearing ex d pf iid).mem⟩
  | stop {d : Durable V} {pf : Portfolio S} :
      Step runId ⟨d, some pf⟩ .stop [d] ⟨d, none⟩
  | venue {s : Site V S} (v : V) :
      Step runId s (.venue v) [{ s.disk with venue := v }]
        { s with disk := { s.disk with venue := v } }
  | strategies {d : Durable V} {pf : Portfolio S} (states : InstrumentId → S) :
      Step runId ⟨d, some pf⟩ (.strategies states) [d]
        ⟨d, some
          { pf with
            router := fun iid =>
              { pf.router iid with strategyState := states iid } }⟩

/-- A run whose every step `may` allows, with the disks passed through since
its start. -/
inductive Run (runId : String) (may : Site V S → Happening V S → Prop)
    (s₀ : Site V S) : List (Durable V) → Site V S → Prop
  | here : Run runId may s₀ [s₀.disk] s₀
  | next {ds ms : List (Durable V)} {s s' : Site V S} {h : Happening V S}
      (hrun : Run runId may s₀ ds s) (hmay : may s h)
      (hstep : Step ex runId s h ms s') : Run runId may s₀ (ds ++ ms) s'

/-- Any happening at all. -/
def anything : Site V S → Happening V S → Prop := fun _ _ => True

end Site

end Polyperps
