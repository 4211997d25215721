import Polyperps.Execution.Portfolio

/-!
# What a router method can do

Every method of the router is a chain of a few kinds of change: to fields no
rule below reads, to the state, to a row, or a call on the executor. `Change`
lists the kinds with their guards, and this file shows once, method by method,
that nothing else happens. What is said of a run is then a case analysis
over `Change`, not over the methods.

Two guards carry the weight. `g` says which state may follow which, so a chain
guarded by `firm` cannot leave a frozen state, and one guarded by `idle`
changes none. `Ready` says that an order handed to the venue is the one the
router has just announced.
-/

namespace Polyperps

open ProgramLogic InstrumentRouter

variable {V S α : Type} {ex : Executor V}

/-- The columns of an order row that no statement updates. -/
structure SameOrder (o o' : OrderRow) : Prop where
  cid : o'.clientOrderId = o.clientOrderId
  runId : o'.runId = o.runId
  instrumentId : o'.instrumentId = o.instrumentId
  side : o'.side = o.side
  quantity : o'.quantity = o.quantity
  reduceOnly : o'.reduceOnly = o.reduceOnly
  submittedAt : o'.submittedAt = o.submittedAt

/-- The fields of a router that only a state change or an announced order
may move. A pending order may be forgotten, not made up. -/
structure SameDuty (r r' : InstrumentRouter S) : Prop where
  runId : r'.runId = r.runId
  instrumentId : r'.instrumentId = r.instrumentId
  state : r'.state = r.state
  seq : r'.seq = r.seq
  dseq : r'.dseq = r.dseq
  pending : r'.pendingCid = none ∨
    (r'.pendingCid = r.pendingCid ∧ r'.pendingSince = r.pendingSince ∧
      r'.pendingIntent = r.pendingIntent)

/-- An update of other fields. -/
theorem SameDuty.kept {r r' : InstrumentRouter S}
    (h : (r'.runId, r'.instrumentId, r'.state, r'.seq, r'.dseq, r'.pendingCid,
        r'.pendingSince, r'.pendingIntent) =
      (r.runId, r.instrumentId, r.state, r.seq, r.dseq, r.pendingCid,
        r.pendingSince, r.pendingIntent)) : SameDuty r r' := by
  simp only [Prod.mk.injEq] at h
  obtain ⟨h1, h2, h3, h4, h5, h6, h7, h8⟩ := h
  exact ⟨h1, h2, h3, h4, h5, Or.inr ⟨h6, h7, h8⟩⟩

/-- An update of other fields that forgets the pending order. -/
theorem SameDuty.forgot {r r' : InstrumentRouter S}
    (h : (r'.runId, r'.instrumentId, r'.state, r'.seq, r'.dseq) =
      (r.runId, r.instrumentId, r.state, r.seq, r.dseq))
    (hp : r'.pendingCid = none) : SameDuty r r' := by
  simp only [Prod.mk.injEq] at h
  obtain ⟨h1, h2, h3, h4, h5⟩ := h
  exact ⟨h1, h2, h3, h4, h5, Or.inl hp⟩

/-- The request is the router's pending order, with a decision row written for
it under the current number. -/
structure Ready (req : OrderRequest)
    (w : World (Durable V) (InstrumentRouter S)) : Prop where
  cid : w.mem.pendingCid = some req.clientOrderId
  since : w.mem.pendingSince = some req.ts
  instrument : req.instrumentId = w.mem.instrumentId
  intent : ∃ i, w.mem.pendingIntent = some i ∧ req.side = i.side ∧
    req.quantity = i.quantity ∧ req.reduceOnly = i.reduceOnly
  pending : w.mem.state =
    if req.reduceOnly then .exitPending else .entryPending
  decision : ∃ x ∈ w.disk.db.decisions,
    x.key = (w.mem.runId, w.mem.instrumentId, w.mem.dseq) ∧
      x.clientOrderId = some req.clientOrderId

/-- Enter a state and write it to the row. -/
def entered (w : World (Durable V) (InstrumentRouter S)) (st : State)
    (now : DateTime) : World (Durable V) (InstrumentRouter S) :=
  wrote { w with mem := { w.mem with state := st } }
    (w.disk.db.upsertPositionLocal
      (InstrumentRouter.localRow { w.mem with state := st } now))

inductive Change (ex : Executor V) (g : State → State → Prop) :
    World (Durable V) (InstrumentRouter S) →
      World (Durable V) (InstrumentRouter S) → Prop
  | memory {w} (r' : InstrumentRouter S) (h : SameDuty w.mem r') :
      Change ex g w { w with mem := r' }
  | persist {w} (now : DateTime) :
      Change ex g w
        (wrote w (w.disk.db.upsertPositionLocal (w.mem.localRow now)))
  | enter {w} (st : State) (now : DateTime) (h : g w.mem.state st) :
      Change ex g w (entered w st now)
  | alert {w} (a : Alert) :
      Change ex g w (wrote w (w.disk.db.insertAlert w.mem.runId a))
  | note {w} (target : Option Decimal) (verdicts : List (String × String))
      (text : String) :
      Change ex g w (record ex target verdicts none none text w).2
  | order {w} (o o' : OrderRow)
      (h : w.disk.db.getOrder o.clientOrderId = some o) (h' : SameOrder o o') :
      Change ex g w (wrote w (w.disk.db.upsertOrder o'))
  | venue {w} (v : V) : Change ex g w (called w v)
  | announce {w} (intent : Intent) (target : Option Decimal)
      (verdicts : List (String × String))
      (h : g w.mem.state intent.waiting) :
      Change ex g w (announce ex intent target verdicts w).2
  | submit {w} (req : OrderRequest) (v : V) (h : Ready req w) :
      Change ex g w (sent w req w.mem.dseq v)

def Moves (ex : Executor V) (g : State → State → Prop) :
    World (Durable V) (InstrumentRouter S) →
      World (Durable V) (InstrumentRouter S) → Prop :=
  Relation.ReflTransGen (Change ex g)

/-- No state change, no new order. -/
def idle : State → State → Prop := fun _ _ => False

/-- A frozen state stays. -/
def firm : State → State → Prop := fun st st' => st.frozen = true → st' = st

/-- A frozen state stays, and only a halt is entered. -/
def halting : State → State → Prop := fun st st' =>
  firm st st' ∧ st' = .halted

/-- Only the states of a shutdown are entered, a frozen one left or not. -/
def ending : State → State → Prop := fun _ st' =>
  st' = .halted ∨ st' = .exitPending

/-- A frozen state stays, and liquidation is not entered. -/
def closing : State → State → Prop := fun st st' =>
  firm st st' ∧ st' ≠ .liquidated

instance {g : State → State → Prop} : Std.Refl (Moves (S := S) ex g) :=
  inferInstanceAs (Std.Refl (Relation.ReflTransGen _))

instance {g : State → State → Prop} : IsTrans _ (Moves (S := S) ex g) :=
  inferInstanceAs (IsTrans _ (Relation.ReflTransGen _))

variable {g g' : State → State → Prop}
  {w w' : World (Durable V) (InstrumentRouter S)}

theorem Change.mono (hg : ∀ st st', g st st' → g' st st') (h : Change ex g w w') :
    Change ex g' w w' := by
  cases h with
  | memory r' h => exact .memory r' h
  | persist now => exact .persist now
  | enter st now h => exact .enter st now (hg _ _ h)
  | alert a => exact .alert a
  | note target verdicts text => exact .note target verdicts text
  | order o o' h h' => exact .order o o' h h'
  | venue v => exact .venue v
  | announce intent target verdicts h =>
      exact .announce intent target verdicts (hg _ _ h)
  | submit req v h => exact .submit req v h

theorem Moves.mono (hg : ∀ st st', g st st' → g' st st') (h : Moves ex g w w') :
    Moves ex g' w w' :=
  Relation.ReflTransGen.mono (fun _ _ => Change.mono hg) _ _ h

theorem Moves.one (h : Change ex g w w') : Moves ex g w w' := .single h

/-- A chain that is `idle` is one under every guard. -/
theorem Moves.of_idle (h : Moves ex idle w w') : Moves ex g w w' :=
  h.mono fun _ _ => False.elim

/-! ## The outcome of the primitive steps -/

section Primitives

theorem state_record (ex : Executor V) (target : Option Decimal)
    (verdicts : List (String × String)) (intent : Option Intent)
    (cid : Option ClientOrderId) (text : String) :
    (record ex target verdicts intent cid text w).2.mem =
      { w.mem with dseq := w.mem.dseq + 1 } := by
  simp only [record, bind, Prog.modifyMem, Prog.mem, clock, Prog.disk,
    insertDecision, Prog.commit]

theorem Change.state_idle (h : Change ex idle w w') :
    w'.mem.state = w.mem.state := by
  cases h with
  | memory r' h => exact h.state
  | persist now => rfl
  | enter st now h => exact h.elim
  | alert a => rfl
  | note target verdicts text => rw [state_record]
  | order o o' h h' => rfl
  | venue v => rfl
  | announce intent target verdicts h => exact h.elim
  | submit req v h => rfl

theorem Moves.state_idle (h : Moves ex idle w w') :
    w'.mem.state = w.mem.state := by
  induction h with
  | refl => rfl
  | tail _ hc ih => rw [hc.state_idle, ih]

theorem memory_moves {f : InstrumentRouter S → InstrumentRouter S}
    (h : SameDuty w.mem (f w.mem)) :
    (Prog.modifyMem f : Act V _ Unit).Steps (Moves ex g) w :=
  Moves.one (.memory (f w.mem) h)

theorem persist_moves : (persist ex).Steps (Moves ex g) w :=
  Moves.one (.persist _)

theorem setState_moves {st : State} (h : g w.mem.state st) :
    (setState ex st).Steps (Moves ex g) w :=
  Moves.one (.enter st _ h)

theorem alert_moves {level : Level} {kind : String}
    {detail : List (String × String)} :
    (alert ex level kind detail).Steps (Moves ex g) w :=
  Moves.one (.alert _)

theorem emit_moves {a : Alert} :
    (emit w.mem.runId a : Act V _ Unit).Steps (Moves ex g) w :=
  Moves.one (.alert a)

theorem record_moves {target : Option Decimal}
    {verdicts : List (String × String)} {text : String} :
    (record ex target verdicts none none text).Steps (Moves ex g) w :=
  Moves.one (.note target verdicts text)

theorem call_moves {f : V → Except Exc α × V} :
    (call f : Act V _ α).Steps (Moves ex g) w := Moves.one (.venue _)

theorem updateOrder_moves {cid : ClientOrderId} {skip : Bool}
    {changes : OrderRow → OrderRow} (h : ∀ o, SameOrder o (changes o)) :
    (updateOrder ex cid skip changes).Steps (Moves ex g) w := by
  unfold updateOrder
  refine Prog.Steps.disk_bind ?_
  split
  · exact Prog.Steps.pure
  · next row hrow =>
    split
    · exact Prog.Steps.pure
    · refine Prog.Steps.disk_bind ?_
      have hkey := Db.getOrder_cid hrow
      refine Moves.one (.order row _ (by rw [hkey]; exact hrow) ?_)
      exact ⟨(h row).cid, (h row).runId, (h row).instrumentId, (h row).side,
        (h row).quantity, (h row).reduceOnly, (h row).submittedAt⟩

/-- The tables after an update of the order row of an id. -/
def updatedDb (ex : Executor V) (cid : ClientOrderId) (skipIfTerminal : Bool)
    (changes : OrderRow → OrderRow) (d : Durable V) : Option Db :=
  ((d.db.getOrder cid).filter fun row =>
      !(skipIfTerminal && row.status.terminal)).map fun row =>
    d.db.upsertOrder { changes row with updatedAt := ex.clock d.venue }

/-- An update of an order row returns, and is one write at most. -/
theorem updateOrder_eq (ex : Executor V) (cid : ClientOrderId) (skip : Bool)
    (changes : OrderRow → OrderRow)
    (w : World (Durable V) (InstrumentRouter S)) :
    updateOrder ex cid skip changes w =
      (.ok (), ((updatedDb ex cid skip changes w.disk).map (wrote w)).getD w) := by
  rw [updateOrder, Prog.disk_bind_apply, updatedDb]
  cases w.disk.db.getOrder cid with
  | none => rfl
  | some row =>
      dsimp only
      rw [Prog.ite_apply, Option.filter]
      generalize (skip && row.status.terminal) = b
      cases b <;> rfl

section Rules

variable {Q : Unit → World (Durable V) (InstrumentRouter S) → Prop}
  {E : Exc → World (Durable V) (InstrumentRouter S) → Prop}

@[simp] theorem wp_persist :
    Prog.wp (persist ex) Q E w =
      Q () (wrote w (w.disk.db.upsertPositionLocal
        (w.mem.localRow (ex.clock w.disk.venue)))) := rfl

@[simp] theorem wp_setState {st : State} :
    Prog.wp (setState ex st) Q E w =
      Q () (entered w st (ex.clock w.disk.venue)) := rfl

@[simp] theorem wp_alert {level : Level} {kind : String}
    {detail : List (String × String)} :
    Prog.wp (alert ex level kind detail) Q E w =
      Q () (wrote w (w.disk.db.insertAlert w.mem.runId
        { level, kind, instrumentId := some w.mem.instrumentId, detail
          ts := ex.clock w.disk.venue })) := rfl

@[simp] theorem wp_updateOrder {cid : ClientOrderId} {skip : Bool}
    {changes : OrderRow → OrderRow} :
    Prog.wp (updateOrder ex cid skip changes) Q E w =
      Q () (((updatedDb ex cid skip changes w.disk).map (wrote w)).getD w) :=
  Prog.wp_of_ok (updateOrder_eq ex cid skip changes w)

@[simp] theorem updated_mem {cid : ClientOrderId} {skip : Bool}
    {changes : OrderRow → OrderRow} {d : Durable V} :
    (((updatedDb ex cid skip changes d).map (wrote w)).getD w).mem =
      w.mem := by
  cases updatedDb ex cid skip changes d <;> rfl

theorem updateOrder_mem {cid : ClientOrderId} {skip : Bool}
    {changes : OrderRow → OrderRow} :
    (updateOrder ex cid skip changes w).2.mem = w.mem := by
  rw [updateOrder_eq, updated_mem]

@[simp] theorem updated_venue {cid : ClientOrderId} {skip : Bool}
    {changes : OrderRow → OrderRow} {d : Durable V} :
    (((updatedDb ex cid skip changes d).map (wrote w)).getD w).disk.venue =
      w.disk.venue := by
  cases updatedDb ex cid skip changes d <;> rfl

@[simp] theorem updated_submitted {cid : ClientOrderId} {skip : Bool}
    {changes : OrderRow → OrderRow} {d : Durable V} :
    (((updatedDb ex cid skip changes d).map (wrote w)).getD w).disk.submitted =
      w.disk.submitted := by
  cases updatedDb ex cid skip changes d <;> rfl

/-- The row an update leaves of its order. -/
def updatedRow (skipIfTerminal : Bool) (changes : OrderRow → OrderRow)
    (now : DateTime) (row : OrderRow) : OrderRow :=
  if skipIfTerminal && row.status.terminal then row
  else row.updateWith { changes row with updatedAt := now }

theorem updated_getOrder {cid : ClientOrderId} {skip : Bool}
    {changes : OrderRow → OrderRow}
    (hc : ∀ o, (changes o).clientOrderId = o.clientOrderId) :
    (((updatedDb ex cid skip changes w.disk).map
        (wrote w)).getD w).disk.db.getOrder cid =
      (w.disk.db.getOrder cid).map
        (updatedRow skip changes (ex.clock w.disk.venue)) := by
  unfold updatedDb
  cases hrow : w.disk.db.getOrder cid with
  | none => exact hrow
  | some row =>
      have hcid := Db.getOrder_cid hrow
      rw [Option.filter, Option.map_some, updatedRow]
      cases hskip : skip && row.status.terminal with
      | true => exact hrow
      | false =>
          have h := Db.getOrder_upsertOrder_self w.disk.db
            ({ changes row with updatedAt := ex.clock w.disk.venue })
          rw [show ({ changes row with updatedAt := ex.clock w.disk.venue } :
            OrderRow).clientOrderId = cid from (hc row).trans hcid, hrow] at h
          exact h

theorem updated_getOrder_ne {cid cid' : ClientOrderId} {skip : Bool}
    {changes : OrderRow → OrderRow}
    (hc : ∀ o, (changes o).clientOrderId = o.clientOrderId)
    (hne : cid' ≠ cid) :
    (((updatedDb ex cid skip changes w.disk).map
        (wrote w)).getD w).disk.db.getOrder cid' =
      w.disk.db.getOrder cid' := by
  unfold updatedDb
  cases hrow : w.disk.db.getOrder cid with
  | none => rfl
  | some row =>
      rw [Option.filter]
      split
      · refine Db.getOrder_upsertOrder_ne ?_
        show cid' ≠ (changes row).clientOrderId
        rw [hc, Db.getOrder_cid hrow]
        exact hne
      · rfl

@[simp] theorem entered_state {st : State} {now : DateTime} :
    (entered w st now).mem.state = st := rfl

@[simp] theorem entered_venue {st : State} {now : DateTime} :
    (entered w st now).disk.venue = w.disk.venue := rfl

@[simp] theorem entered_submitted {st : State} {now : DateTime} :
    (entered w st now).disk.submitted = w.disk.submitted := rfl

@[simp] theorem entered_getOrder {st : State} {now : DateTime}
    {cid : ClientOrderId} :
    (entered w st now).disk.db.getOrder cid = w.disk.db.getOrder cid := rfl

end Rules

/-- An update that names only columns the statement may update. -/
theorem SameOrder.of_eq {o o' : OrderRow}
    (h : o' = { o with
      status := o'.status, exchangeOrderId := o'.exchangeOrderId,
      filledQuantity := o'.filledQuantity, avgPrice := o'.avgPrice,
      updatedAt := o'.updatedAt, reason := o'.reason }) : SameOrder o o' := by
  rw [h]
  exact ⟨rfl, rfl, rfl, rfl, rfl, rfl, rfl⟩

end Primitives

/-! ## The methods -/

/-- Reading the clock is a read of the disk. -/
theorem clock_bind {R : World (Durable V) (InstrumentRouter S) →
      World (Durable V) (InstrumentRouter S) → Prop}
    {f : DateTime → Act V (InstrumentRouter S) α}
    (h : (f (ex.clock w.disk.venue)).Steps R w) :
    (clock ex >>= f).Steps R w := h

theorem replaceStop_moves :
    (replaceStop ex).Steps (Moves (S := S) ex g) w := by
  unfold replaceStop
  refine Prog.Steps.mem_bind ?_
  split
  · exact Prog.Steps.pure
  split
  · exact Prog.Steps.pure
  refine Prog.Steps.catching ?_ fun e => ?_
  · refine Prog.Steps.bind call_moves fun _ => ?_
    refine Prog.Steps.bind (memory_moves (.kept rfl)) fun _ => ?_
    exact Prog.Steps.bind persist_moves fun _ => alert_moves
  · split
    · refine Prog.Steps.bind (memory_moves (.kept rfl)) fun _ => ?_
      exact Prog.Steps.bind persist_moves fun _ => alert_moves
    · exact Prog.Steps.raise

theorem placeExchangeStop_moves {pos : PositionView} {limits : RiskLimits} :
    (placeExchangeStop ex pos limits).Steps (Moves (S := S) ex g) w := by
  unfold placeExchangeStop
  split
  · exact Prog.Steps.raise
  · exact Prog.Steps.bind call_moves fun _ => Prog.Steps.pure

theorem adoptStop_moves {snapshot : AccountSnapshot} {pos : PositionView} :
    (adoptStop ex snapshot pos).Steps (Moves (S := S) ex g) w := by
  unfold adoptStop
  refine Prog.Steps.mem_bind ?_
  split
  · exact memory_moves (.kept rfl)
  · refine Prog.Steps.catching ?_ fun e => ?_
    · exact Prog.Steps.bind placeExchangeStop_moves
        fun _ => memory_moves (.kept rfl)
    · split
      · exact Prog.Steps.bind (memory_moves (.kept rfl)) fun _ => alert_moves
      · exact Prog.Steps.raise

theorem adopt_moves {snapshot : AccountSnapshot} :
    (adopt ex snapshot).Steps (Moves (S := S) ex g) w := by
  unfold adopt
  refine Prog.Steps.bind (memory_moves (.forgot rfl rfl)) fun _ => ?_
  refine Prog.Steps.mem_bind ?_
  dsimp only
  split
  · exact Prog.Steps.bind (memory_moves (.kept rfl)) fun _ => persist_moves
  · refine Prog.Steps.bind (memory_moves (.kept rfl)) fun _ => ?_
    exact Prog.Steps.bind adoptStop_moves fun _ => persist_moves

/-- Leaving the current state for another is firm when it is not frozen. -/
theorem firm_of_active {st st' : State} (h : ¬ st.frozen = true) :
    firm st st' := fun hf => absurd hf h

theorem settleState_moves :
    (settleState ex).Steps (Moves (S := S) ex firm) w := by
  unfold settleState
  refine Prog.Steps.mem_bind ?_
  split
  · exact Prog.Steps.pure
  · next h => exact setState_moves (firm_of_active h)

theorem flattenStrategy_moves :
    (flattenStrategy : Act V (InstrumentRouter S) Unit).Steps
      (Moves ex g) w := memory_moves (.kept rfl)

theorem recoverStrategy_moves :
    (recoverStrategy : Act V (InstrumentRouter S) Unit).Steps
      (Moves ex g) w := memory_moves (.kept rfl)

theorem adoptAndSettle_moves {snapshot : AccountSnapshot} :
    (adoptAndSettle ex snapshot).Steps (Moves (S := S) ex firm) w := by
  unfold adoptAndSettle
  refine Prog.Steps.bind adopt_moves fun _ => ?_
  refine Prog.Steps.bind settleState_moves fun _ => ?_
  refine Prog.Steps.mem_bind ?_
  split
  · exact Prog.Steps.bind call_moves fun _ => flattenStrategy_moves
  · exact recoverStrategy_moves

theorem checkPending_moves {snapshot : AccountSnapshot} :
    (checkPending ex snapshot).Steps (Moves (S := S) ex firm) w := by
  unfold checkPending
  refine Prog.Steps.mem_bind (clock_bind ?_)
  split
  · exact Prog.Steps.pure
  split
  · exact Prog.Steps.pure
  split
  · exact Prog.Steps.pure
  refine Prog.Steps.bind alert_moves fun _ => ?_
  dsimp only
  split
  · exact adoptAndSettle_moves
  · refine Prog.Steps.bind (updateOrder_moves fun _ => .of_eq rfl) fun _ => ?_
    exact adoptAndSettle_moves

theorem halt_moves {reason : String} :
    (halt ex reason).Steps (Moves (S := S) ex halting) w := by
  unfold halt
  refine Prog.Steps.mem_bind ?_
  split
  · exact Prog.Steps.pure
  · next h =>
    refine Prog.Steps.bind alert_moves fun _ => ?_
    refine Prog.Steps.bind (memory_moves (.forgot rfl rfl)) fun _ => ?_
    exact setState_moves ⟨firm_of_active h, rfl⟩

theorem closing_le_firm {st st' : State} (h : closing st st') : firm st st' :=
  h.1

theorem halting_le_closing {st st' : State} (h : halting st st') :
    closing st st' := ⟨h.1, by rw [h.2]; nofun⟩

/-! ### Sending -/

/-- Calls on the venue and alerts leave the announced order as it is. -/
theorem Ready.called {req : OrderRequest} (h : Ready req w) (v : V) :
    Ready req (called w v) := ⟨h.1, h.2, h.3, h.4, h.5, h.6⟩

theorem Ready.sent {req : OrderRequest} (h : Ready req w)
    (req' : OrderRequest) (n : ℕ) (v : V) : Ready req (sent w req' n v) := ⟨h.1, h.2, h.3, h.4, h.5, h.6⟩

theorem Ready.alert {req : OrderRequest} (h : Ready req w) (level : Level)
    (kind : String) (detail : List (String × String)) :
    Ready req (alert ex level kind detail w).2 := ⟨h.1, h.2, h.3, h.4, h.5, h.6⟩

/-- An attempt to submit the announced order, whatever the venue answers. -/
theorem submitAttempt_moves {attempt : ℕ} {req : OrderRequest}
    {sizeBefore : Decimal}
    {otherwise : Act V (InstrumentRouter S) (Option OrderAck)}
    (hr : Ready req w)
    (ho : ∀ w', Ready req w' → otherwise.Steps (Moves ex g) w') :
    (submitAttempt ex attempt req sizeBefore otherwise).Steps
      (Moves ex g) w := by
  unfold submitAttempt
  -- whatever it answered, the call left the world `sent` describes
  have hsent : ((Prog.mem >>= fun r : InstrumentRouter S =>
      callSubmit ex req r.dseq >>= fun ack =>
        (pure (some ack) : Act V (InstrumentRouter S) (Option OrderAck)))
      w).2 = sent w req w.mem.dseq (ex.submit req w.disk.venue).2 :=
    Prog.bind_pure_snd
  refine Prog.Steps.catching ?_ fun e => ?_
  · unfold Prog.Steps
    rw [hsent]
    exact Moves.one (.submit req _ hr)
  rw [hsent]
  have hr' := hr.sent req w.mem.dseq (ex.submit req w.disk.venue).2
  split
  · refine Prog.Steps.bind call_moves fun snap => ?_
    split
    · refine Prog.Steps.bind alert_moves fun _ => ?_
      exact clock_bind Prog.Steps.pure
    · exact ho _ (hr'.called _)
  · exact Prog.Steps.raise

theorem submitWithRecovery_moves {req : OrderRequest} {sizeBefore : Decimal}
    (hr : Ready req w) :
    (submitWithRecovery ex req sizeBefore).Steps (Moves ex g) w := by
  refine submitAttempt_moves hr fun w' hr' => ?_
  refine Prog.Steps.bind alert_moves fun _ => ?_
  exact submitAttempt_moves (hr'.alert _ _ _) fun _ _ => Prog.Steps.pure

/-! What announcing an order leaves, write by write. -/

/-- The counters of the next order. -/
def numbered (r : InstrumentRouter S) : InstrumentRouter S :=
  { r with seq := r.seq + 1, dseq := r.dseq + 1 }

/-- The id of the next order. -/
def nextCid (r : InstrumentRouter S) : ClientOrderId :=
  clientOrderId r.runId r.instrumentId (r.seq + 1)

/-- The decision row of an order being announced. -/
def intentRow (ex : Executor V) (intent : Intent) (target : Option Decimal)
    (verdicts : List (String × String))
    (w : World (Durable V) (InstrumentRouter S)) : DecisionRow :=
  (numbered w.mem).decisionRow (ex.clock w.disk.venue) target verdicts
    (some intent) (some (nextCid w.mem)) intent.reason

/-- The router with the order pending. -/
def waiting (r : InstrumentRouter S) (intent : Intent) (now : DateTime) :
    InstrumentRouter S :=
  { numbered r with
    pendingCid := some (nextCid r), pendingSince := some now
    pendingIntent := some intent, state := intent.waiting }

/-- The tables with the decision row, then the order row, then the position
row. -/
def decidedDb (db : Db) (row : DecisionRow) : Db :=
  { db with decisions := db.decisions ++ [row] }

def announcedDb (ex : Executor V) (intent : Intent) (target : Option Decimal)
    (verdicts : List (String × String))
    (w : World (Durable V) (InstrumentRouter S)) : Db :=
  ((decidedDb w.disk.db (intentRow ex intent target verdicts w)).upsertOrder
    (w.mem.orderRow (nextCid w.mem) intent (ex.clock w.disk.venue)))

def announcedWorld (ex : Executor V) (intent : Intent)
    (target : Option Decimal) (verdicts : List (String × String))
    (w : World (Durable V) (InstrumentRouter S)) :
    World (Durable V) (InstrumentRouter S) :=
  wrote (wrote (wrote { w with mem := waiting w.mem intent (ex.clock w.disk.venue) }
    (decidedDb w.disk.db (intentRow ex intent target verdicts w)))
    (announcedDb ex intent target verdicts w))
    ((announcedDb ex intent target verdicts w).upsertPositionLocal
      ((waiting w.mem intent (ex.clock w.disk.venue)).localRow
        (ex.clock w.disk.venue)))

/-- The world a refused decision row leaves. -/
def refusedWorld (w : World (Durable V) (InstrumentRouter S))
    (r : InstrumentRouter S) (row : DecisionRow) :
    World (Durable V) (InstrumentRouter S) :=
  { mem := r
    disk := { w.disk with
      refusedDecisions := w.disk.refusedDecisions ++ [row] }
    past := w.past ++ [w.disk] }

/-- A decision row is taken, or refused for a row with the same key. -/
theorem record_cases (ex : Executor V) (target : Option Decimal)
    (verdicts : List (String × String)) (intent : Option Intent)
    (cid : Option ClientOrderId) (text : String)
    (w : World (Durable V) (InstrumentRouter S)) :
    let r := { w.mem with dseq := w.mem.dseq + 1 }
    let row := r.decisionRow (ex.clock w.disk.venue) target verdicts intent
      cid text
    (record ex target verdicts intent cid text w).2 =
        wrote { w with mem := r } (decidedDb w.disk.db row) ∨
      (record ex target verdicts intent cid text w).2 =
          refusedWorld w r row ∧
        ∃ x ∈ w.disk.db.decisions, x.key = row.key := by
  intro r row
  by_cases hc : w.disk.db.decisions.any fun x => x.key = row.key
  · right
    constructor
    · simp only [record, bind, Prog.modifyMem, Prog.mem, clock,
        Prog.disk, insertDecision, Prog.commit, Db.insertDecision]
      erw [if_pos hc]
      rfl
    · simpa using hc
  · left
    simp only [record, bind, Prog.modifyMem, Prog.mem, clock,
        Prog.disk, insertDecision, Prog.commit, Db.insertDecision]
    erw [if_neg hc]
    rfl

/-- Announcing an order takes its decision row or is refused by the table. -/
theorem announce_cases (ex : Executor V) (intent : Intent)
    (target : Option Decimal) (verdicts : List (String × String))
    (w : World (Durable V) (InstrumentRouter S)) :
    (announce ex intent target verdicts w =
      (.ok (w.mem.orderRequest (nextCid w.mem) intent
        (ex.clock w.disk.venue)), announcedWorld ex intent target verdicts w)) ∨
    (announce ex intent target verdicts w =
      (.error ⟨.integrityError, "UNIQUE constraint failed"⟩,
        refusedWorld w (numbered w.mem)
          (intentRow ex intent target verdicts w)) ∧
      ∃ x ∈ w.disk.db.decisions,
        x.key = (intentRow ex intent target verdicts w).key) := by
  by_cases hc : w.disk.db.decisions.any fun r =>
      r.key = (intentRow ex intent target verdicts w).key
  · right
    constructor
    · simp only [announce, bind, Prog.modifyMem, Prog.mem, record, clock,
        Prog.disk, insertDecision, Prog.commit, Db.insertDecision]
      erw [if_pos hc]
      rfl
    · simpa using hc
  · left
    simp only [announce, bind, Prog.modifyMem, Prog.mem, record, clock,
        Prog.disk, insertDecision, Prog.commit, Db.insertDecision]
    erw [if_neg hc]
    rfl

/-- The three commits of an announced order, one by one. -/
theorem announcedWorld_along {R : Durable V → Durable V → Prop}
    {intent : Intent} {target : Option Decimal}
    {verdicts : List (String × String)}
    {w : World (Durable V) (InstrumentRouter S)} {decided announced : Durable V}
    (hd : decided = { w.disk with
      db := decidedDb w.disk.db (intentRow ex intent target verdicts w) })
    (ha : announced = { w.disk with
      db := announcedDb ex intent target verdicts w })
    (h₁ : R w.disk decided) (h₂ : R decided announced)
    (h₃ : R announced (announcedWorld ex intent target verdicts w).disk) :
    World.Along R w (announcedWorld ex intent target verdicts w) := by
  subst hd ha
  exact trans_of _ (.commit w.mem _ h₁)
    (trans_of _ (.commit w.mem _ h₂) (.commit _ _ h₃))

/-- The request announced is ready to be sent. -/
theorem announcedWorld_ready (ex : Executor V) (intent : Intent)
    (target : Option Decimal) (verdicts : List (String × String))
    (w : World (Durable V) (InstrumentRouter S)) :
    Ready (w.mem.orderRequest (nextCid w.mem) intent (ex.clock w.disk.venue))
      (announcedWorld ex intent target verdicts w) where
  cid := rfl
  since := rfl
  instrument := rfl
  intent := ⟨intent, rfl, rfl, rfl, rfl⟩
  pending := rfl
  decision := ⟨intentRow ex intent target verdicts w,
    by simp [announcedWorld, announcedDb, decidedDb, Db.upsertOrder,
      Db.upsertPositionLocal], rfl, rfl⟩

theorem submitFailed_moves {cid : ClientOrderId} {e : Exc} :
    (submitFailed ex cid e).Steps (Moves (S := S) ex halting) w := by
  unfold submitFailed
  refine Prog.Steps.bind (updateOrder_moves fun _ => .of_eq rfl) fun _ => ?_
  refine Prog.Steps.bind alert_moves fun _ => ?_
  refine Prog.Steps.bind halt_moves fun _ => ?_
  exact Prog.Steps.bind call_moves fun _ => adopt_moves

/-- What follows the answer, where `g` lets the pending state be left for the
state before the order, and for a halt. -/
theorem acknowledge_moves {cid : ClientOrderId} {prior : State}
    {intent : Intent} {ack : Option OrderAck}
    (hprior : g w.mem.state prior)
    (hhalt : ∀ st st', halting st st' → g st st') :
    (acknowledge ex cid prior intent ack).Steps (Moves (S := S) ex g) w := by
  unfold acknowledge
  split
  · refine Prog.Steps.bind (updateOrder_moves fun _ => .of_eq rfl) fun _ => ?_
    exact halt_moves.mono fun _ h => h.mono hhalt
  · next ack =>
    split
    · refine Prog.Steps.bind (updateOrder_moves fun _ => .of_eq rfl)
        fun _ => ?_
      refine Prog.Steps.bind alert_moves fun _ => ?_
      refine Prog.Steps.bind (memory_moves (.forgot rfl rfl)) fun _ => ?_
      refine setState_moves ?_
      show g (updateOrder ex cid false _ w).2.mem.state prior
      rw [updateOrder_mem]
      exact hprior
    · exact updateOrder_moves fun _ => .of_eq rfl

/-- Sending an order, where `g` lets the router wait for it, fall back to the
state before it, and halt. -/
theorem send_moves {intent : Intent} {target : Option Decimal}
    {verdicts : List (String × String)}
    (hwait : g w.mem.state intent.waiting)
    (hprior : g intent.waiting w.mem.state)
    (hhalt : ∀ st st', halting st st' → g st st') :
    (send ex intent target verdicts).Steps (Moves (S := S) ex g) w := by
  unfold send
  refine Prog.Steps.mem_bind ?_
  have hann : (announce ex intent target verdicts).Steps
      (Moves (S := S) ex g) w := Moves.one (.announce intent target verdicts hwait)
  rcases announce_cases ex intent target verdicts w with hok | ⟨herr, -⟩
  · have hready := announcedWorld_ready ex intent target verdicts w
    refine Prog.Steps.bind_ok hok hann ?_
    have hsub : (submitWithRecovery ex (w.mem.orderRequest (nextCid w.mem)
        intent (ex.clock w.disk.venue)) w.mem.size).Steps
        (Moves ex idle) (announcedWorld ex intent target verdicts w) :=
      submitWithRecovery_moves hready
    have hstate : (submitWithRecovery ex (w.mem.orderRequest (nextCid w.mem)
        intent (ex.clock w.disk.venue)) w.mem.size
        (announcedWorld ex intent target verdicts w)).2.mem.state =
        intent.waiting := Moves.state_idle hsub
    refine Prog.Steps.bind (hsub.attempt.mono fun _ h => h.of_idle)
      fun result => ?_
    split
    · exact submitFailed_moves.mono fun _ h => h.mono hhalt
    · refine acknowledge_moves ?_ hhalt
      show g (submitWithRecovery ex _ _ _).2.mem.state _
      rw [hstate]
      exact hprior
  · exact Prog.Steps.bind_error herr hann

/-- An order sent while the router is not frozen leaves no state for good but
its own. -/
theorem send_firm {intent : Intent} {target : Option Decimal}
    {verdicts : List (String × String)} (h : ¬ w.mem.state.frozen = true) :
    (send ex intent target verdicts).Steps (Moves (S := S) ex closing) w := by
  have hw : intent.waiting ≠ .liquidated ∧ ¬ intent.waiting.frozen = true := by
    unfold Intent.waiting
    split <;> exact ⟨nofun, nofun⟩
  refine send_moves ⟨firm_of_active h, hw.1⟩
    ⟨firm_of_active hw.2, fun hl => h ?_⟩ fun _ _ => halting_le_closing
  rw [hl]
  rfl

theorem exit_firm {mark : Decimal} {reason : String}
    {target : Option Decimal} {size : Decimal}
    (h : ¬ w.mem.state.frozen = true) :
    (exit ex mark reason target size).Steps (Moves (S := S) ex closing) w :=
  Prog.Steps.mem_bind (send_firm h)

theorem Change.follows (h : Change ex g w w') :
    w'.mem.state = w.mem.state ∨ g w.mem.state w'.mem.state := by
  cases h with
  | memory r' h => exact Or.inl h.state
  | persist now => exact Or.inl rfl
  | enter st now h => exact Or.inr h
  | alert a => exact Or.inl rfl
  | note target verdicts text => rw [state_record]; exact Or.inl rfl
  | order o o' h h' => exact Or.inl rfl
  | venue v => exact Or.inl rfl
  | announce intent target verdicts h =>
      rcases announce_cases ex intent target verdicts w with hok | ⟨herr, -⟩
      · rw [hok]; exact Or.inr h
      · rw [herr]; exact Or.inl rfl
  | submit req v h => exact Or.inl rfl

theorem closing_ne_liquidated (h : Moves ex closing w w')
    (hw : w.mem.state ≠ .liquidated) : w'.mem.state ≠ .liquidated := by
  induction h with
  | refl => exact hw
  | tail _ hc ih =>
      rcases hc.follows with heq | hg
      · rw [heq]; exact ih
      · exact hg.2

/-- Shutting down a router that is not frozen. -/
theorem shutdown_closing {mark : Decimal} {exchangeSize : Option Decimal}
    (h : ¬ w.mem.state.frozen = true) :
    (shutdown ex mark exchangeSize).Steps (Moves (S := S) ex closing) w := by
  unfold shutdown
  refine Prog.Steps.mem_bind ?_
  dsimp only
  split
  · exact Prog.Steps.pure
  -- the state after the exit is whatever it is, but no liquidation
  have hhalt : ∀ w₁ : World (Durable V) (InstrumentRouter S),
      w₁.mem.state ≠ .liquidated →
      (setState ex .halted).Steps (Moves (S := S) ex closing) w₁ := by
    intro w₁ hw₁
    refine setState_moves ⟨fun hf => ?_, nofun⟩
    revert hw₁ hf
    cases w₁.mem.state <;> simp [State.frozen]
  have hstart : w.mem.state ≠ .liquidated := fun hl => h (by rw [hl]; rfl)
  have hrest : ∀ w₁ : World (Durable V) (InstrumentRouter S),
      w₁.mem.state ≠ .liquidated →
      (alert ex .critical "kill_switch" [("action", "shutdown")] >>=
        fun _ => setState ex .halted).Steps (Moves (S := S) ex closing) w₁ :=
    fun w₁ hw₁ => Prog.Steps.bind alert_moves fun _ => hhalt _ hw₁
  split
  · have hexit : (exit ex mark "kill_shutdown" none
        (exchangeSize.getD w.mem.size)).Steps (Moves ex closing) w :=
      exit_firm h
    refine Prog.Steps.bind hexit fun _ => ?_
    have hl := closing_ne_liquidated hexit hstart
    split
    · exact hhalt _ hl
    · exact hrest _ hl
  · split
    · exact hhalt _ hstart
    · exact hrest _ hstart

/-- Shutting down a halted router: out of the halt into a reduce-only exit,
and back. -/
theorem shutdown_ending (ex : Executor V) (mark : Decimal)
    (exchangeSize : Option Decimal) (h : w.mem.state = .halted) :
    (shutdown ex mark exchangeSize).Steps (Moves (S := S) ex ending) w := by
  unfold shutdown
  refine Prog.Steps.mem_bind ?_
  dsimp only
  split
  · exact Prog.Steps.pure
  have hhalt : ∀ w₁ : World (Durable V) (InstrumentRouter S),
      (setState ex .halted).Steps (Moves (S := S) ex ending) w₁ :=
    fun _ => setState_moves (Or.inl rfl)
  split
  · refine Prog.Steps.bind ?_ fun _ => hhalt _
    refine Prog.Steps.mem_bind ?_
    exact send_moves (Or.inr rfl) (Or.inl h) fun _ _ hh => Or.inl hh.2
  · exact hhalt _

/-! ### The bar cycle and the fast loop -/

theorem askTarget_moves {history : List Bar} :
    (askTarget history : Act V (InstrumentRouter S) Decimal).Steps
      (Moves ex g) w := by
  unfold askTarget
  refine Prog.Steps.mem_bind ?_
  exact Prog.Steps.bind (memory_moves (.kept rfl)) fun _ => Prog.Steps.pure

theorem enter_moves {mark target : Decimal} {snapshot : AccountSnapshot}
    {kill : KillAction} {pending : List Intent}
    (h : ¬ w.mem.state.frozen = true) :
    (enter ex mark target snapshot kill pending).Steps
      (Moves (S := S) ex closing) w := by
  unfold enter
  split
  · exact record_moves
  refine Prog.Steps.mem_bind ?_
  refine Prog.Steps.bind Prog.Steps.ofExcept fun perContract => ?_
  refine Prog.Steps.bind Prog.Steps.ofExcept fun entryVerdict => ?_
  refine Prog.Steps.bind Prog.Steps.ofExcept fun exposureVerdict => ?_
  refine Prog.Steps.bind Prog.Steps.ofExcept fun merged => ?_
  split
  split
  · exact record_moves
  · exact send_firm h

theorem holdOrExit_moves {mark target : Decimal}
    (h : ¬ w.mem.state.frozen = true) :
    (holdOrExit ex mark target).Steps (Moves (S := S) ex closing) w := by
  unfold holdOrExit
  refine Prog.Steps.mem_bind ?_
  dsimp only
  split
  · exact exit_firm h
  · exact record_moves

theorem onBar_moves {history : List Bar} {snapshot : AccountSnapshot}
    {kill : KillAction} {pending : List Intent} :
    (onBar ex history snapshot kill pending).Steps
      (Moves (S := S) ex closing) w := by
  unfold onBar
  refine Prog.Steps.mem_bind ?_
  split
  · exact record_moves
  next hst =>
  have h : ¬ w.mem.state.frozen = true := fun hf => hst (by simp [hf])
  split
  · exact Prog.Steps.raise
  split
  · exact record_moves
  split
  · exact shutdown_closing h
  split
  · split
    · exact exit_firm h
    · exact record_moves
  split
  · exact record_moves
  refine Prog.Steps.bind askTarget_moves fun target => ?_
  split
  · exact enter_moves h
  · exact holdOrExit_moves h

theorem watchMargin_moves {pos : PositionView} {mark : Decimal} :
    (watchMargin ex pos mark).Steps (Moves (S := S) ex g) w := by
  unfold watchMargin
  split
  · exact Prog.Steps.pure
  refine Prog.Steps.bind Prog.Steps.ofExcept fun distance => ?_
  refine Prog.Steps.mem_bind (clock_bind ?_)
  dsimp only
  split
  · split
    · exact Prog.Steps.bind emit_moves fun _ => memory_moves (.kept rfl)
    · exact memory_moves (.kept rfl)
  · exact memory_moves (.kept rfl)

theorem onFast_moves {mark : Decimal} {snapshot : AccountSnapshot} :
    (onFast ex mark snapshot).Steps (Moves (S := S) ex firm) w := by
  unfold onFast
  refine Prog.Steps.mem_bind ?_
  split
  · exact Prog.Steps.pure
  next hst =>
  have h : ¬ w.mem.state.frozen = true := by
    rw [not_not.mp hst]
    nofun
  split
  · exact Prog.Steps.bind alert_moves
      fun _ => setState_moves (firm_of_active h)
  split
  · exact Prog.Steps.pure
  next pos _ =>
  have hm : (watchMargin ex pos mark).Steps (Moves ex idle) w :=
    watchMargin_moves
  refine Prog.Steps.bind (hm.mono fun _ h => h.of_idle) fun _ => ?_
  refine Prog.Steps.bind Prog.Steps.ofExcept fun flatten => ?_
  have h' : ¬ (watchMargin ex pos mark w).2.mem.state.frozen = true := by
    rw [Moves.state_idle hm]
    exact h
  split
  · exact (exit_firm h').mono fun _ h => h.mono fun _ _ => closing_le_firm
  split
  · exact (exit_firm h').mono fun _ h => h.mono fun _ _ => closing_le_firm
  · exact Prog.Steps.pure

/-! ### Events -/

theorem handleOrderUpdate_moves {ev : OrderUpdate} :
    (handleOrderUpdate ex ev).Steps (Moves (S := S) ex firm) w := by
  unfold handleOrderUpdate
  refine Prog.Steps.mem_bind ?_
  split
  · refine Prog.Steps.bind (updateOrder_moves fun _ => .of_eq rfl) fun _ => ?_
    refine Prog.Steps.bind alert_moves fun _ => ?_
    exact Prog.Steps.bind (memory_moves (.forgot rfl rfl))
      fun _ => settleState_moves
  refine Prog.Steps.disk_bind ?_
  split
  · exact Prog.Steps.pure
  split
  · exact Prog.Steps.pure
  · exact updateOrder_moves fun _ => .of_eq rfl

theorem applyFill_moves {ev : FillUpdate} :
    (applyFill ex ev).Steps (Moves (S := S) ex g) w :=
  Prog.Steps.bind (memory_moves (.kept rfl)) fun _ => persist_moves

theorem recordFill_moves {row : OrderRow} {ev : FillUpdate} :
    (recordFill ex row ev).Steps (Moves (S := S) ex g) w :=
  Prog.Steps.bind Prog.Steps.ofExcept
    fun _ => updateOrder_moves fun _ => .of_eq rfl

theorem fillFlattened_moves {ev : FillUpdate} {ours : Bool} :
    (fillFlattened ex ev ours).Steps (Moves (S := S) ex firm) w := by
  unfold fillFlattened
  refine Prog.Steps.mem_bind ?_
  refine Prog.Steps.bind (memory_moves (.forgot rfl rfl)) fun _ => ?_
  refine Prog.Steps.bind call_moves fun _ => ?_
  have htail : ∀ (c : Prop) [Decidable c]
      (w₁ : World (Durable V) (InstrumentRouter S)),
      (flattenStrategy >>= fun _ => if c then
        alert ex .warn "stop_fired"
          [("price", Decimal.str ev.price),
            ("quantity", Decimal.str ev.quantity)]
        else pure ()).Steps (Moves (S := S) ex firm) w₁ := by
    intro c _ w₁
    refine Prog.Steps.bind flattenStrategy_moves fun _ => ?_
    split
    · exact alert_moves
    · exact Prog.Steps.pure
  dsimp only
  split
  · exact Prog.Steps.bind persist_moves fun _ => htail _ _
  · next h =>
    exact Prog.Steps.bind (setState_moves (firm_of_active h))
      fun _ => htail _ _

theorem lateFill_moves {row : OrderRow} {ev : FillUpdate} :
    (lateFill ex row ev).Steps (Moves (S := S) ex firm) w := by
  unfold lateFill
  refine Prog.Steps.mem_bind ?_
  refine Prog.Steps.bind alert_moves fun _ => ?_
  refine Prog.Steps.bind (updateOrder_moves fun _ => .of_eq rfl) fun _ => ?_
  exact Prog.Steps.bind call_moves fun _ => adoptAndSettle_moves

theorem afterFill_moves {sizeBefore : Decimal} {ours : Bool}
    {ev : FillUpdate} :
    (afterFill ex sizeBefore ours ev).Steps (Moves (S := S) ex firm) w := by
  unfold afterFill
  refine Prog.Steps.mem_bind ?_
  split
  · next h =>
    refine Prog.Steps.bind (memory_moves (.forgot rfl rfl)) fun _ => ?_
    refine Prog.Steps.bind (setState_moves (firm_of_active ?_))
      fun _ => replaceStop_moves
    show ¬ w.mem.state.frozen = true
    rw [h.1]
    nofun
  split
  · exact fillFlattened_moves
  split
  · exact Prog.Steps.bind alert_moves fun _ => replaceStop_moves
  split
  · exact Prog.Steps.pure
  refine Prog.Steps.bind alert_moves fun _ => ?_
  split
  · next h =>
    refine Prog.Steps.bind (setState_moves (firm_of_active ?_))
      fun _ => replaceStop_moves
    show ¬ w.mem.state.frozen = true
    rw [h]
    nofun
  · exact Prog.Steps.pure

theorem countFill_moves {row : Option OrderRow} {ev : FillUpdate} :
    (countFill ex row ev).Steps (Moves (S := S) ex firm) w := by
  unfold countFill
  refine Prog.Steps.mem_bind ?_
  refine Prog.Steps.bind applyFill_moves fun _ => ?_
  refine Prog.Steps.bind ?_ fun _ => afterFill_moves
  unfold recordOurs
  split
  · exact Prog.Steps.pure
  · exact recordFill_moves

theorem handleFill_moves {ev : FillUpdate} :
    (handleFill ex ev).Steps (Moves (S := S) ex firm) w := by
  unfold handleFill
  refine Prog.Steps.mem_bind ?_
  split
  · exact Prog.Steps.pure
  refine Prog.Steps.disk_bind ?_
  split
  · exact countFill_moves
  split
  · exact lateFill_moves
  · exact countFill_moves

end Polyperps
