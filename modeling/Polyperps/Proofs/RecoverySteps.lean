import Polyperps.Execution.Process
import Polyperps.Proofs.Operations

/-!
# What recovery does, turn by turn

The four loops of `recover`, one turn each, for any executor. A turn of the
router loop leaves the router `taken` describes and writes its row last, in
one commit; everything before that commit leaves the tables alone. The turns
of the unknown positions and of the foreign orders touch no table. A turn of
the order loop restores a pending order and relabels one row.
-/

namespace Polyperps

open ProgramLogic Recovery

variable {V S α : Type} {ex : Executor V}

/-- Two disks with the same tables but for the alerts, and the same submits:
what a call on the venue or an alert leaves alone. -/
structure SameTables (d d' : Durable V) : Prop where
  decisions : d'.db.decisions = d.db.decisions
  orders : d'.db.orders = d.db.orders
  positions : d'.db.positionsLocal = d.db.positionsLocal
  submitted : d'.submitted = d.submitted
  refused : d'.refusedDecisions = d.refusedDecisions

instance : Std.Refl (SameTables (V := V)) := ⟨fun _ => ⟨rfl, rfl, rfl, rfl, rfl⟩⟩

instance : IsTrans (Durable V) SameTables :=
  ⟨fun _ _ _ h h' => ⟨h'.1.trans h.1, h'.2.trans h.2, h'.3.trans h.3,
    h'.4.trans h.4, h'.5.trans h.5⟩⟩

section Taken

variable {S : Type}

/-- The router once its row is loaded. -/
def loaded (row : Option PositionLocalRow) (tables : Db)
    (r : InstrumentRouter S) : InstrumentRouter S :=
  row.elim r fun row => InstrumentRouter.loadLocal row tables r

/-- The stop recovery puts on the venue for a router's position. -/
def stopDue (snap : AccountSnapshot) (iid : InstrumentId)
    (limits : RiskLimits) : Option Decimal :=
  (held snap iid).bind fun pos =>
    if snap.stop iid = none then
      some (stopPrice (decide (0 < pos.size)) pos.entryPrice limits)
    else none

/-- A loaded router once it took the venue's position. -/
def takenFrom (snap : AccountSnapshot) (row : Option PositionLocalRow)
    (iid : InstrumentId) (l : InstrumentRouter S) : InstrumentRouter S :=
  match held snap iid with
  | some pos =>
      { l with
        size := pos.size, entry := some pos.entryPrice
        cumulativeFunding := pos.cumulativeFunding
        state := if frozenRow row then l.state else .opened
        stopTrigger := some ((snap.stop iid).getD
          (stopPrice (decide (0 < pos.size)) pos.entryPrice l.limits)) }
  | none =>
      { l with
        size := 0, entry := none, stopTrigger := none
        state := if frozenRow row then l.state else .flat }

/-- The router at the end of its turn. -/
def taken (snap : AccountSnapshot) (row : Option PositionLocalRow)
    (tables : Db) (iid : InstrumentId) (r : InstrumentRouter S) :
    InstrumentRouter S := takenFrom snap row iid (loaded row tables r)

/-- Why a turn may raise: there is no price to put a stop at, or the venue
did not take it. -/
def Unguarded (ex : Executor V) (snap : AccountSnapshot) (iid : InstrumentId)
    (v : V) : Prop :=
  ∃ pos, held snap iid = some pos ∧ snap.stop iid = none ∧
    (pos.entryPrice ≤ 0 ∨ ∃ trigger e, (ex.placeStop iid trigger v).1 = .error e)

section Fields

variable (snap : AccountSnapshot) (row : Option PositionLocalRow) (tables : Db)
  (iid : InstrumentId) (r : InstrumentRouter S)

/-- A turn changes no name, no limit and no pending order. -/
theorem taken_same :
    let r' := taken snap row tables iid r
    r'.runId = r.runId ∧ r'.instrumentId = r.instrumentId ∧
      r'.limits = r.limits ∧ r'.pendingCid = r.pendingCid := by
  unfold taken takenFrom loaded
  cases row <;> cases held snap iid <;> exact ⟨rfl, rfl, rfl, rfl⟩

/-- A frozen row's state is kept, any other follows the venue's size. -/
theorem taken_state :
    (taken snap row tables iid r).state =
      if frozenRow row then (row.map PositionLocalRow.state).getD r.state
      else if (held snap iid).isSome then .opened else .flat := by
  unfold taken takenFrom loaded
  cases row <;> cases held snap iid <;> rfl

end Fields

/-- The venue after the stop, if one was due. -/
def guarded (ex : Executor V) (iid : InstrumentId) (due : Option Decimal)
    (v : V) : V :=
  due.elim v fun trigger => (ex.placeStop iid trigger v).2

end Taken

/-- A part of recovery that touches no table, no router and not the venue. -/
structure Calm (w w' : World (Durable V) (Recovery S)) : Prop where
  along : World.Along SameTables w w'
  pf : w'.mem.pf = w.mem.pf
  venue : w'.disk.venue = w.disk.venue

theorem Calm.trans {w w' w'' : World (Durable V) (Recovery S)}
    (h : Calm w w') (h' : Calm w' w'') : Calm w w'' :=
  ⟨trans_of _ h.1 h'.1, h'.2.trans h.2, h'.3.trans h.3⟩

variable {w : World (Durable V) (Recovery S)} {iid : InstrumentId}
  {snap : AccountSnapshot} {row : Option PositionLocalRow}

theorem report_calm {f : RecoveryReport → RecoveryReport} :
    Prog.wp (report f : Act V (Recovery S) Unit) (fun _ w' => Calm w w')
      (fun _ _ => False) w :=
  ⟨.memory _, rfl, rfl⟩

theorem alert_calm {level : Level} {kind : String} {i : Option InstrumentId}
    {detail : List (String × String)} :
    Prog.wp (Recovery.alert ex level kind i detail) (fun _ w' => Calm w w')
      (fun _ _ => False) w :=
  ⟨.commit _ _ ⟨rfl, rfl, rfl, rfl, rfl⟩, rfl, rfl⟩

theorem reportUntracked_calm {pos : PositionView} :
    Prog.wp (reportUntracked ex iid pos) (fun _ w' => Calm w w')
      (fun _ _ => False) w :=
  ⟨trans_of _ (.memory _) (.commit _ _ ⟨rfl, rfl, rfl, rfl, rfl⟩), rfl, rfl⟩

theorem reportStop_calm {trigger : Decimal} :
    Prog.wp (reportStop ex iid trigger) (fun _ w' => Calm w w')
      (fun _ _ => False) w :=
  ⟨trans_of _ (.memory _) (.commit _ _ ⟨rfl, rfl, rfl, rfl, rfl⟩), rfl, rfl⟩

/-- A stop is placed at the router's distance, or the call raises. -/
theorem placeStop_spec {μ : Type} (w : World (Durable V) μ)
    (pos : PositionView) (limits : RiskLimits) :
    let trigger := stopPrice (decide (0 < pos.size)) pos.entryPrice limits
    Prog.wp (placeExchangeStop ex pos limits)
      (fun t w' => t = trigger ∧ 0 < pos.entryPrice ∧
        w' = called w (ex.placeStop pos.instrumentId trigger w.disk.venue).2)
      (fun _ w' => World.Along SameTables w w' ∧ w'.mem = w.mem ∧
        (pos.entryPrice ≤ 0 ∨ ∃ t e,
          (ex.placeStop pos.instrumentId t w.disk.venue).1 = .error e)) w := by
  intro trigger
  unfold placeExchangeStop
  rw [Prog.wp_ite]
  split
  · next h => exact ⟨refl_of _ w, rfl, Or.inl h⟩
  · next h =>
    rw [Prog.wp_bind]
    rcases call_cases (ex.placeStop pos.instrumentId trigger) w with
      ⟨a, ha, hc⟩ | ⟨e, hc⟩
    · rw [Prog.wp_of_ok hc]
      exact ⟨rfl, not_le.mp h, rfl⟩
    · rw [Prog.wp_of_error hc]
      refine ⟨.commit _ _ ⟨rfl, rfl, rfl, rfl, rfl⟩, rfl,
        Or.inr ⟨trigger, e, ?_⟩⟩
      exact congrArg Prod.fst hc

theorem held_instrument {pos : PositionView} (h : held snap iid = some pos) :
    pos.instrumentId = iid ∧ pos.size ≠ 0 := by
  rw [held, Option.filter_eq_some_iff, AccountSnapshot.position] at h
  exact ⟨by simpa using List.find?_some h.1, by simpa using h.2⟩

/-- The stop of a recovered position: the venue's, or one placed now. -/
theorem takeStop_spec {pos : PositionView}
    (hpos : held snap iid = some pos) :
    Prog.wp (takeStop ex snap iid pos)
      (fun _ w' => World.Along SameTables w w' ∧
        w'.mem.pf = w.mem.pf.setRouter iid
          { w.mem.pf.router iid with
            stopTrigger := some ((snap.stop iid).getD
              (stopPrice (decide (0 < pos.size)) pos.entryPrice
                (w.mem.pf.router iid).limits)) } ∧
        w'.disk.venue = guarded ex iid
          (stopDue snap iid (w.mem.pf.router iid).limits) w.disk.venue)
      (fun _ w' => World.Along SameTables w w' ∧
        Unguarded ex snap iid w.disk.venue) w := by
  have hid := (held_instrument hpos).1
  unfold takeStop
  cases hstop : snap.stop iid with
  | some trigger =>
      refine ⟨.memory _, rfl, ?_⟩
      simp [stopDue, hpos, hstop, guarded]
  | none =>
      dsimp only
      rw [Prog.wp_bind, Prog.wp_mem, Prog.wp_bind]
      refine Prog.wp_mono (placeStop_spec w pos _) (fun t w' h => ?_)
        (fun e w' h => ?_)
      · obtain ⟨rfl, -, rfl⟩ := h
        rw [Prog.wp_bind, Recovery.onRouter, Prog.wp_focus, Prog.wp_modifyMem]
        refine Prog.wp_mono reportStop_calm (fun _ w' h => ?_)
          (fun _ _ hf => hf.elim)
        refine ⟨?_, h.pf.trans rfl, h.venue.trans ?_⟩
        · exact trans_of _ (.commit _ _ ⟨rfl, rfl, rfl, rfl, rfl⟩) h.along
        · simp [stopDue, hpos, hstop, guarded, hid]
      · exact ⟨h.1, pos, hpos, hstop, by rw [← hid]; exact h.2.2⟩

/-- A router's position, taken from the venue and guarded. -/
theorem takeVenue_spec :
    Prog.wp (takeVenue ex snap row iid)
      (fun _ w' => World.Along SameTables w w' ∧
        w'.mem.pf = w.mem.pf.setRouter iid
          (takenFrom snap row iid (w.mem.pf.router iid)) ∧
        w'.disk.venue = guarded ex iid
          (stopDue snap iid (w.mem.pf.router iid).limits) w.disk.venue)
      (fun _ w' => World.Along SameTables w w' ∧
        Unguarded ex snap iid w.disk.venue) w := by
  unfold takeVenue
  split
  · next pos hpos =>
    -- the finding, which changes nothing below, then the fields and the stop
    have hrest : ∀ w₁ : World (Durable V) (Recovery S), Calm w w₁ →
        Prog.wp (Recovery.onRouter iid (Prog.modifyMem fun r =>
            { r with
              size := pos.size, entry := some pos.entryPrice
              cumulativeFunding := pos.cumulativeFunding
              state := if frozenRow row then r.state else .opened }) >>=
            fun _ => takeStop ex snap iid pos)
          (fun _ w' => World.Along SameTables w w' ∧
            w'.mem.pf = w.mem.pf.setRouter iid
              (takenFrom snap row iid (w.mem.pf.router iid)) ∧
            w'.disk.venue = guarded ex iid
              (stopDue snap iid (w.mem.pf.router iid).limits) w.disk.venue)
          (fun _ w' => World.Along SameTables w w' ∧
            Unguarded ex snap iid w.disk.venue) w₁ := by
      intro w₁ h₁
      rw [Prog.wp_bind, Recovery.onRouter, Prog.wp_focus, Prog.wp_modifyMem]
      refine Prog.wp_mono (takeStop_spec hpos)
        (fun _ w' h => ?_) (fun _ w' h => ?_)
      · refine ⟨trans_of _ h₁.along (trans_of _ (.memory _) h.1), ?_, ?_⟩
        · rw [h.2.1]
          simp only [Portfolio.setRouter_self, Portfolio.setRouter_setRouter,
            h₁.pf, takenFrom, hpos]
        · rw [h.2.2]
          simp only [Portfolio.setRouter_self, h₁.pf, h₁.venue]
      · refine ⟨trans_of _ h₁.along (trans_of _ (.memory _) h.1), ?_⟩
        rw [← h₁.venue]
        exact h.2
    unfold takePosition
    dsimp only
    split
    · rw [Prog.wp_bind]
      exact Prog.wp_mono reportUntracked_calm (fun _ w₁ h₁ => hrest w₁ h₁)
        (fun _ _ hf => hf.elim)
    · exact hrest w ⟨refl_of _ w, rfl, rfl⟩
  · next hpos =>
    unfold takeFlat Recovery.onRouter
    rw [Prog.wp_focus, Prog.wp_modifyMem]
    refine ⟨.memory _, ?_, ?_⟩
    · simp only [takenFrom, hpos]
    · simp only [stopDue, hpos, guarded]
      rfl

/-- The world a turn of the router loop leaves: the row of the router, as
`taken` has it, written over the tables it started with. -/
structure Turned (ex : Executor V) (snap : AccountSnapshot)
    (row : Option PositionLocalRow) (iid : InstrumentId)
    (w w' : World (Durable V) (Recovery S)) : Prop where
  pf : w'.mem.pf = w.mem.pf.setRouter iid
    (taken snap row w.disk.db iid (w.mem.pf.router iid))
  venue : w'.disk.venue = guarded ex iid
    (stopDue snap iid (w.mem.pf.router iid).limits) w.disk.venue
  written : ∃ (w₁ : World (Durable V) (Recovery S)) (now : DateTime),
    World.Along SameTables w w₁ ∧
      w'.disk = { w₁.disk with
        db := w₁.disk.db.upsertPositionLocal
          ((taken snap row w.disk.db iid
            (w.mem.pf.router iid)).localRow now) } ∧
      w'.past = w₁.past ++ [w₁.disk]

theorem loaded_limits (row : Option PositionLocalRow) (tables : Db)
    (r : InstrumentRouter S) : (loaded row tables r).limits = r.limits := by
  cases row <;> rfl

theorem loadRow_eq (row : Option PositionLocalRow) (iid : InstrumentId)
    (w : World (Durable V) (Recovery S)) :
    loadRow row iid w = (.ok (), { w with
      mem := { w.mem with
        pf := w.mem.pf.setRouter iid
          (loaded row w.disk.db (w.mem.pf.router iid)) } }) := by
  cases row with
  | some row => rfl
  | none =>
      have hself : w.mem.pf.setRouter iid (w.mem.pf.router iid) = w.mem.pf := by
        unfold Portfolio.setRouter
        congr
        funext j
        split
        · next h => rw [h]
        · rfl
      show (Except.ok (), w) = _
      simp only [loaded, Option.elim, hself]

theorem recoverRouter_spec {rows : List PositionLocalRow} :
    Prog.wp (recoverRouter ex snap rows iid)
      (fun _ w' => Turned ex snap
        (rows.find? fun r => r.instrumentId = iid) iid w w')
      (fun _ w' => World.Along SameTables w w' ∧
        Unguarded ex snap iid w.disk.venue) w := by
  unfold recoverRouter
  rw [Prog.wp_bind, report, Prog.wp_modifyMem]
  dsimp only
  generalize (rows.find? fun r => decide (r.instrumentId = iid)) = row
  rw [Prog.wp_bind, Prog.wp_of_ok (loadRow_eq row iid _), Prog.wp_bind]
  refine Prog.wp_mono takeVenue_spec (fun _ w₂ h₂ => ?_) (fun _ w₂ h₂ => ?_)
  · simp only [Portfolio.setRouter_self, Portfolio.setRouter_setRouter,
      loaded_limits] at h₂
    rw [Prog.wp_bind, Recovery.onRouter, Prog.wp_focus, wp_persist,
      Prog.wp_bind, Prog.wp_mem, report, Prog.wp_modifyMem]
    have hr : w₂.mem.pf.router iid =
        taken snap row w.disk.db iid (w.mem.pf.router iid) := by
      rw [h₂.2.1, Portfolio.setRouter_self]
      rfl
    refine ⟨?_, h₂.2.2, w₂, ex.clock w₂.disk.venue, ?_, ?_, rfl⟩
    · show (w₂.mem.pf.setRouter iid (w₂.mem.pf.router iid)) = _
      rw [hr, h₂.2.1, Portfolio.setRouter_setRouter]
    · exact trans_of _ (.memory _) h₂.1
    · rw [← hr]
      rfl
  · exact ⟨trans_of _ (.memory _) h₂.1, h₂.2⟩

/-! ## The other turns -/

/-- The venue after the stop of an unknown position. -/
def unknownDue (snap : AccountSnapshot) (ids : List InstrumentId)
    (pos : PositionView) : Option Decimal :=
  if pos.size = 0 ∨ pos.instrumentId ∈ ids then none
  else if snap.stop pos.instrumentId = none then
    some (stopPrice (decide (0 < pos.size)) pos.entryPrice limitsDefault)
  else none

theorem guardUnknown_spec {pos : PositionView} :
    Prog.wp (guardUnknown ex snap pos)
      (fun _ w' => World.Along SameTables w w' ∧ w'.mem.pf = w.mem.pf ∧
        w'.disk.venue = guarded ex pos.instrumentId
          (unknownDue snap w.mem.pf.ids pos) w.disk.venue)
      (fun _ w' => World.Along SameTables w w' ∧ pos.size ≠ 0 ∧
        snap.stop pos.instrumentId = none ∧
        (pos.entryPrice ≤ 0 ∨ ∃ t e,
          (ex.placeStop pos.instrumentId t w.disk.venue).1 = .error e)) w := by
  unfold guardUnknown
  rw [Prog.wp_bind, Prog.wp_mem, Prog.wp_ite]
  split
  · next h =>
    refine ⟨refl_of _ w, rfl, ?_⟩
    simp only [unknownDue, if_pos h]
    rfl
  · next h =>
    rw [Prog.wp_bind]
    refine Prog.wp_mono report_calm (fun _ w₁ h₁ => ?_) (fun _ _ hf => hf.elim)
    rw [Prog.wp_bind]
    refine Prog.wp_mono alert_calm (fun _ w₂ h₂ => ?_) (fun _ _ hf => hf.elim)
    have hc := h₁.trans h₂
    cases hstop : snap.stop pos.instrumentId with
    | some trigger =>
        refine ⟨hc.along, hc.pf, ?_⟩
        simp only [unknownDue, if_neg h, hstop, guarded]
        exact hc.venue
    | none =>
        dsimp only
        rw [Prog.wp_bind]
        refine Prog.wp_mono (placeStop_spec w₂ pos _) (fun t w₃ h₃ => ?_)
          (fun e w₃ h₃ => ?_)
        · obtain ⟨rfl, -, rfl⟩ := h₃
          refine Prog.wp_mono reportStop_calm (fun _ w₄ h₄ => ?_)
            (fun _ _ hf => hf.elim)
          refine ⟨trans_of _ hc.along (trans_of _ (.commit _ _
            ⟨rfl, rfl, rfl, rfl, rfl⟩) h₄.along), h₄.pf.trans hc.pf,
            h₄.venue.trans ?_⟩
          simp [unknownDue, if_neg h, hstop, guarded, hc.venue]
        · refine ⟨trans_of _ hc.along h₃.1, fun h0 => h (Or.inl h0), rfl, ?_⟩
          rw [← hc.venue]
          exact h₃.2.2

theorem cancelForeign_spec {oid : ClientOrderId} :
    Prog.wp (cancelForeign ex oid)
      (fun _ w' => World.Along SameTables w w' ∧ w'.mem.pf = w.mem.pf ∧
        w'.disk.venue = if ownedBy w.mem.pf.runId oid then w.disk.venue
          else (ex.cancel oid w.disk.venue).2)
      (fun _ w' => World.Along SameTables w w' ∧
        ∃ e, (ex.cancel oid w.disk.venue).1 = .error e) w := by
  unfold cancelForeign
  rw [Prog.wp_bind, Prog.wp_mem, Prog.wp_ite]
  split
  · next h => exact ⟨refl_of _ w, rfl, rfl⟩
  · next h =>
    rw [Prog.wp_bind]
    rcases call_cases (ex.cancel oid) w with ⟨a, ha, hc⟩ | ⟨e, hc⟩
    · rw [Prog.wp_of_ok hc]
      refine Prog.wp_mono report_calm (fun _ w₁ h₁ => ?_)
        (fun _ _ hf => hf.elim)
      exact ⟨trans_of _ (.commit _ _ ⟨rfl, rfl, rfl, rfl, rfl⟩) h₁.along,
        h₁.pf, h₁.venue⟩
    · rw [Prog.wp_of_error hc]
      exact ⟨.commit _ _ ⟨rfl, rfl, rfl, rfl, rfl⟩, e, congrArg Prod.fst hc⟩

/-- The state a resting order's router goes back to. -/
def restoredState (rows : List PositionLocalRow) (ids : List InstrumentId)
    (o : OrderRow) : Option State :=
  if o.instrumentId ∈ ids then
    ((rows.find? fun r => r.instrumentId = o.instrumentId).map
      PositionLocalRow.state).filter State.pending
  else none

/-- A router waiting for an order again. -/
def awaiting (r : InstrumentRouter S) (cid : ClientOrderId) (now : DateTime)
    (st : State) : InstrumentRouter S :=
  { r with pendingCid := some cid, pendingSince := some now, state := st }

/-- The world a turn of the order loop leaves. -/
inductive Classified (ex : Executor V) (snap : AccountSnapshot)
    (rows : List PositionLocalRow) (o : OrderRow)
    (w : World (Durable V) (Recovery S)) : World (Durable V) (Recovery S) → Prop
  | done (h : o.status.inFlight = false) : Classified ex snap rows o w w
  | relabelled (rep : RecoveryReport) (status : RowStatus)
      (h : o.status.inFlight = true)
      (hstatus : status =
        if o.clientOrderId ∈ snap.openOrders then .adopted else .abandoned)
      (hno : o.clientOrderId ∈ snap.openOrders →
        restoredState rows w.mem.pf.ids o = none) :
      Classified ex snap rows o w
        (wrote { w with mem := { w.mem with rep } }
          (w.disk.db.upsertOrder
            { o with status, updatedAt := ex.clock w.disk.venue }))
  | restored (rep : RecoveryReport) (st : State) (r : InstrumentRouter S)
      (db : Db) (h : o.status.inFlight = true)
      (hrests : o.clientOrderId ∈ snap.openOrders)
      (hst : restoredState rows w.mem.pf.ids o = some st)
      (hr : r = awaiting (w.mem.pf.router o.instrumentId) o.clientOrderId
        (ex.clock w.disk.venue) st)
      (hdb : db = w.disk.db.upsertPositionLocal
        (r.localRow (ex.clock w.disk.venue))) :
      Classified ex snap rows o w
        (wrote (wrote
          { w with mem := { pf := w.mem.pf.setRouter o.instrumentId r, rep } }
            db)
          (db.upsertOrder
            { o with status := .adopted, updatedAt := ex.clock w.disk.venue }))

theorem classifyOrder_spec (ex : Executor V) (snap : AccountSnapshot)
    (rows : List PositionLocalRow) (o : OrderRow)
    (w : World (Durable V) (Recovery S)) :
    Prog.wp (classifyOrder ex snap rows o)
      (fun _ w' => Classified ex snap rows o w w') (fun _ _ => False) w := by
  unfold classifyOrder
  rw [Prog.wp_ite]
  split
  swap
  · next h => exact .done (by simpa using h)
  next h =>
  rw [Prog.wp_bind, report, Prog.wp_modifyMem, Prog.wp_ite]
  split
  swap
  · next hrests =>
    exact .relabelled _ _ h (by rw [if_neg hrests]) fun hr => absurd hr hrests
  next hrests =>
  rw [Prog.wp_bind, restorePending, Prog.wp_bind, Prog.wp_mem]
  cases hrow : rows.find? fun r => decide (r.instrumentId = o.instrumentId) with
  | none =>
      refine .relabelled _ _ h (by rw [if_pos hrests]) fun _ => ?_
      simp [restoredState, hrow]
  | some row =>
      dsimp only
      rw [Prog.wp_ite]
      split
      · next hp =>
        have hst : restoredState rows w.mem.pf.ids o = some row.state := by
          rw [restoredState, if_pos hp.1, hrow, Option.map_some, Option.filter,
            if_pos hp.2]
        rw [Recovery.onRouter, Prog.wp_focus, InstrumentRouter.adoptPending,
          if_pos hp.2]
        exact .restored _ row.state _ _ h hrests hst rfl rfl
      · next hp =>
        refine .relabelled _ _ h (by rw [if_pos hrests]) fun _ => ?_
        rw [restoredState]
        split
        · next hid =>
          rw [hrow, Option.map_some, Option.filter, if_neg]
          exact fun hpend => hp ⟨hid, hpend⟩
        · rfl

/-! ## The loops together -/

/-- How far recovery has come: what each loop still has to visit. -/
inductive Stage
  | routers (rest : List InstrumentId)
  | unknown (rest : List PositionView)
  | orders (rest : List OrderRow)
  | foreign (rest : List ClientOrderId)

/-- The routers that have not had their turn. -/
def Stage.todo : Stage → List InstrumentId
  | .routers rest => rest
  | _ => []

/-- The world a turn of the unknown-position loop leaves. -/
structure Guarded (ex : Executor V) (snap : AccountSnapshot)
    (pos : PositionView) (w w' : World (Durable V) (Recovery S)) : Prop where
  along : World.Along SameTables w w'
  pf : w'.mem.pf = w.mem.pf
  venue : w'.disk.venue = guarded ex pos.instrumentId
    (unknownDue snap w.mem.pf.ids pos) w.disk.venue

/-- The world a turn of the cancel loop leaves. -/
structure Cancelled (ex : Executor V) (oid : ClientOrderId)
    (w w' : World (Durable V) (Recovery S)) : Prop where
  along : World.Along SameTables w w'
  pf : w'.mem.pf = w.mem.pf
  venue : w'.disk.venue = if ownedBy w.mem.pf.runId oid then w.disk.venue
    else (ex.cancel oid w.disk.venue).2

/-- `I` holds at every stage of a recovery that found `rows`, and `E` where
one of its calls raised. -/
structure Recovers (ex : Executor V) (snap : AccountSnapshot)
    (rows : List PositionLocalRow) (runId : String)
    (I : Stage → World (Durable V) (Recovery S) → Prop)
    (E : World (Durable V) (Recovery S) → Prop) : Prop where
  calm : ∀ {st w w'}, I st w → Calm w w' → I st w'
  turn : ∀ {j rest w w'}, I (.routers (j :: rest)) w →
    Turned ex snap (rows.find? fun r => r.instrumentId = j) j w w' →
    I (.routers rest) w'
  unknown : ∀ {w}, I (.routers []) w → I (.unknown snap.positions) w
  guard : ∀ {pos rest w w'}, I (.unknown (pos :: rest)) w →
    Guarded ex snap pos w w' → I (.unknown rest) w'
  orders : ∀ {w}, I (.unknown []) w →
    I (.orders (w.disk.db.listOrders runId)) w
  classify : ∀ {o rest w w'}, I (.orders (o :: rest)) w →
    Classified ex snap rows o w w' → I (.orders rest) w'
  foreign : ∀ {w}, I (.orders []) w → I (.foreign snap.openOrders) w
  cancel : ∀ {oid rest w w'}, I (.foreign (oid :: rest)) w →
    Cancelled ex oid w w' → I (.foreign rest) w'
  turnRaised : ∀ {j rest w w'}, I (.routers (j :: rest)) w →
    World.Along SameTables w w' → Unguarded ex snap j w.disk.venue → E w'
  guardRaised : ∀ {pos rest w w'}, I (.unknown (pos :: rest)) w →
    World.Along SameTables w w' → pos.size ≠ 0 →
    snap.stop pos.instrumentId = none →
    (pos.entryPrice ≤ 0 ∨ ∃ t e,
      (ex.placeStop pos.instrumentId t w.disk.venue).1 = .error e) → E w'
  cancelRaised : ∀ {oid rest w w'}, I (.foreign (oid :: rest)) w →
    World.Along SameTables w w' →
    (∃ e, (ex.cancel oid w.disk.venue).1 = .error e) → E w'
  raised : ∀ {w w'}, E w → Calm w w' → E w'

section Loops

variable {I : Stage → World (Durable V) (Recovery S) → Prop}
  {E : World (Durable V) (Recovery S) → Prop}

/-- A write of the report alone. -/
theorem calm_report {c : Recovery S} (h : c.pf = w.mem.pf) :
    Calm w { w with mem := c } := ⟨.memory _, h, rfl⟩

theorem adoptAll_rule {ids : List InstrumentId} {runId : String}
    (hids : ids = w.mem.pf.ids) (hrun : runId = w.mem.pf.runId)
    (h : Recovers ex snap (w.disk.db.getPositionsLocal runId) runId I E)
    (hw : I (.routers ids) w) :
    Prog.wp (Recovery.adoptAll ex snap) (fun _ w' => I (.foreign []) w')
      (fun _ w' => E w') w := by
  subst hids hrun
  unfold Recovery.adoptAll
  rw [Prog.wp_bind, Prog.wp_mem, Prog.wp_bind, Prog.wp_disk, Prog.wp_bind]
  refine Prog.wp_mono (Prog.wp_forEach (fun rest w₁ => I (.routers rest) w₁)
    (fun j rest w₁ hi => ?_) hw) (fun _ w₁ h₁ => ?_) (fun _ _ he => he)
  · exact Prog.wp_mono recoverRouter_spec (fun _ w₂ h₂ => h.turn hi h₂)
      (fun _ w₂ h₂ => h.turnRaised hi h₂.1 h₂.2)
  rw [Prog.wp_bind, Recovery.report, Prog.wp_modifyMem, Prog.wp_bind]
  refine Prog.wp_mono (Prog.wp_forEach (fun rest w₁ => I (.unknown rest) w₁)
    (fun pos rest w₁ hi => ?_) (h.calm (h.unknown h₁) (calm_report rfl)))
    (fun _ w₂ h₂ => ?_) (fun _ _ he => he)
  · refine Prog.wp_mono guardUnknown_spec (fun _ w₂ h₂ => ?_)
      (fun _ w₂ h₂ => ?_)
    · exact h.guard hi ⟨h₂.1, h₂.2.1, h₂.2.2⟩
    · exact h.guardRaised hi h₂.1 h₂.2.1 h₂.2.2.1 h₂.2.2.2
  rw [Prog.wp_bind, Prog.wp_modifyMem, Prog.wp_bind, Prog.wp_disk, Prog.wp_bind]
  refine Prog.wp_mono (Prog.wp_forEach (fun rest w₁ => I (.orders rest) w₁)
    (fun o rest w₁ hi => ?_)
    (h.orders (h.calm h₂ (calm_report rfl))))
    (fun _ w₃ h₃ => ?_) (fun _ _ he => he)
  · exact Prog.wp_mono (classifyOrder_spec ex snap _ o w₁)
      (fun _ w₂ h₂ => h.classify hi h₂) (fun _ _ hf => hf.elim)
  rw [Prog.wp_bind, Prog.wp_modifyMem, Prog.wp_bind]
  refine Prog.wp_mono (Prog.wp_forEach (fun rest w₁ => I (.foreign rest) w₁)
    (fun oid rest w₁ hi => ?_) (h.calm (h.foreign h₃) (calm_report rfl)))
    (fun _ w₄ h₄ => ?_) (fun _ _ he => he)
  · refine Prog.wp_mono cancelForeign_spec (fun _ w₂ h₂ => ?_)
      (fun _ w₂ h₂ => ?_)
    · exact h.cancel hi ⟨h₂.1, h₂.2.1, h₂.2.2⟩
    · exact h.cancelRaised hi h₂.1 h₂.2
  · rw [Prog.wp_modifyMem]
    exact h.calm h₄ (calm_report rfl)

theorem recordFindings_calm {failed : Option String} :
    Prog.wp (Recovery.recordFindings ex failed) (fun _ w' => Calm w w')
      (fun _ _ => False) w :=
  ⟨.commit _ _ ⟨rfl, rfl, rfl, rfl, rfl⟩, rfl, rfl⟩

/-- The rule of `recover`: an invariant of the four loops, from the snapshot
that was taken to the routers it returns. -/
theorem recover_rule {runId : String} {ids : List InstrumentId}
    {rows : List PositionLocalRow} (hids : ids = w.mem.pf.ids)
    (hrun : runId = w.mem.pf.runId)
    (hrows : rows = w.disk.db.getPositionsLocal runId)
    (hunavailable : ∀ e, (ex.snapshot w.disk.venue).1 = .error e →
      E (called w (ex.snapshot w.disk.venue).2))
    (h : ∀ snap, (ex.snapshot w.disk.venue).1 = .ok snap →
      I (.routers ids) (called w (ex.snapshot w.disk.venue).2) ∧
        Recovers ex snap rows runId I E) :
    Prog.wp (recover ex) (fun _ w' => I (.foreign []) w')
      (fun _ w' => E w') w := by
  subst hids hrun hrows
  unfold recover
  rw [Prog.wp_bind, Prog.wp_catching]
  rcases call_cases ex.snapshot w with ⟨snap, hsnap, hc⟩ | ⟨e, hc⟩
  swap
  · rw [Prog.wp_of_error hc, Prog.wp_raise]
    exact hunavailable e (congrArg Prod.fst hc)
  obtain ⟨hw, hr⟩ := h snap hsnap
  rw [Prog.wp_of_ok hc, Prog.wp_bind, Prog.wp_catching]
  have hall : Prog.wp (Recovery.adoptAll ex snap)
      (fun _ w' => I (.foreign []) w') (fun _ w' => E w')
      (called w (ex.snapshot w.disk.venue).2) :=
    adoptAll_rule (w := called w (ex.snapshot w.disk.venue).2) rfl rfl hr hw
  refine Prog.wp_mono hall (fun _ w₁ h₁ => ?_) (fun e w₁ h₁ => ?_)
  · rw [Prog.wp_bind]
    refine Prog.wp_mono recordFindings_calm (fun _ w₂ h₂ => ?_)
      (fun _ _ hf => hf.elim)
    rw [Prog.wp_bind, Prog.wp_mem]
    exact Prog.wp_mono alert_calm
      (fun _ w₃ h₃ => hr.calm (hr.calm h₁ h₂) h₃) (fun _ _ hf => hf.elim)
  · unfold Recovery.failed
    rw [Prog.wp_bind]
    refine Prog.wp_mono recordFindings_calm (fun _ w₂ h₂ => ?_)
      (fun _ _ hf => hf.elim)
    rw [Prog.wp_bind, Prog.wp_mem, Prog.wp_bind]
    refine Prog.wp_mono alert_calm (fun _ w₃ h₃ => ?_) (fun _ _ hf => hf.elim)
    rw [Prog.wp_raise]
    exact hr.raised (hr.raised h₁ h₂) h₃

end Loops

end Polyperps
