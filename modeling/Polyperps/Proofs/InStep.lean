import Polyperps.Proofs.Coherent

/-!
# Memory and database in step

A router's row is written by two helpers, `_persist` and `_set_state`, and
every method that moves a persisted field ends with one of them, or with
neither after the last move. So a method that returns leaves the row as the
fields are, and most of them do so whatever they started from. One that raises
may stop between the two: the process ends with it, and recovery starts over
from the venue.
-/

namespace Polyperps

open ProgramLogic InstrumentRouter

variable {V S α : Type} {ex : Executor V}

/-- The row of the router's instrument holds its fields. -/
def InStep (w : World (Durable V) (InstrumentRouter S)) : Prop :=
  ∃ ts, w.disk.db.positionLocal w.mem.runId w.mem.instrumentId =
    some (w.mem.localRow ts)

/-- A method that returns leaves the row in step. -/
abbrev Stepping (m : Act V (InstrumentRouter S) α)
    (w : World (Durable V) (InstrumentRouter S)) : Prop :=
  Prog.wp m (fun _ w' => InStep w') (fun _ _ => True) w

variable {w w' : World (Durable V) (InstrumentRouter S)}
  {snap : AccountSnapshot}

/-! ## What the steps of a method do to it -/

section Steps

/-- What moves no persisted field and writes no row. -/
theorem InStep.same (h : InStep w)
    (hmem : (w'.mem.runId, w'.mem.instrumentId, w'.mem.state, w'.mem.size,
        w'.mem.entry, w'.mem.stopTrigger, w'.mem.cumulativeFunding) =
      (w.mem.runId, w.mem.instrumentId, w.mem.state, w.mem.size, w.mem.entry,
        w.mem.stopTrigger, w.mem.cumulativeFunding))
    (hdisk : w'.disk.db.positionsLocal = w.disk.db.positionsLocal) :
    InStep w' := by
  simp only [Prod.mk.injEq] at hmem
  obtain ⟨h1, h2, h3, h4, h5, h6, h7⟩ := hmem
  obtain ⟨ts, hts⟩ := h
  refine ⟨ts, ?_⟩
  rw [Db.positionLocal, hdisk, h1, h2, ← Db.positionLocal, hts]
  simp only [localRow, h1, h2, h3, h4, h5, h6, h7]

theorem inStep_persisted {now : DateTime} :
    InStep (wrote w (w.disk.db.upsertPositionLocal (w.mem.localRow now))) :=
  ⟨now, Db.positionLocal_upsertPositionLocal_self (p := w.mem.localRow now)⟩

theorem inStep_entered {st : State} {now : DateTime} :
    InStep (entered w st now) :=
  ⟨now, Db.positionLocal_upsertPositionLocal_self
    (p := InstrumentRouter.localRow { w.mem with state := st } now)⟩

theorem InStep.alerted (h : InStep w) {runId : String} {a : Alert} :
    InStep (wrote w (w.disk.db.insertAlert runId a)) := h.same rfl rfl

theorem InStep.awaited (h : InStep w) {v : V} : InStep (called w v) :=
  h.same rfl rfl

theorem InStep.updated (h : InStep w) {cid : ClientOrderId} {skip : Bool}
    {changes : OrderRow → OrderRow} :
    InStep (((updatedDb ex cid skip changes w.disk).map (wrote w)).getD w) := by
  refine h.same (by rw [updated_mem]) ?_
  unfold updatedDb
  cases (w.disk.db.getOrder cid).filter _ <;> rfl

end Steps

/-! ## The methods -/

section Methods

theorem record_steps (h : InStep w) {target : Option Decimal}
    {verdicts : List (String × String)} {intent : Option Intent}
    {cid : Option ClientOrderId} {text : String} :
    Stepping (record ex target verdicts intent cid text) w := by
  have hstate : InStep (record ex target verdicts intent cid text w).2 := by
    refine h.same (by rw [state_record]) ?_
    rcases record_cases ex target verdicts intent cid text w with heq | ⟨heq, -⟩
    · rw [heq]; rfl
    · rw [heq]; rfl
  exact Prog.wp_mono (Prog.wp_state.mpr hstate) (fun _ _ h => h)
    fun _ _ _ => trivial

/-- A stop placed, or refused in shadow, is written down. -/
theorem replaceStop_steps (h : InStep w) : Stepping (replaceStop ex) w := by
  unfold Stepping replaceStop
  rw [Prog.wp_bind, Prog.wp_mem]
  split
  · exact h
  rw [Prog.wp_ite]
  split
  · exact h
  rw [Prog.wp_catching, Prog.wp_bind, wp_call]
  split
  · simp only [Prog.wp_bind, Prog.wp_modifyMem, wp_persist, wp_alert]
    exact inStep_persisted.alerted
  · rw [Prog.wp_ite]
    split
    · simp only [Prog.wp_bind, Prog.wp_modifyMem, wp_persist, wp_alert]
      exact inStep_persisted.alerted
    · trivial

/-- An adoption that returns has written the row, whatever it was. -/
theorem adopt_steps : Stepping (adopt ex snap) w := by
  have hpersist : ∀ w₁ : World (Durable V) (InstrumentRouter S),
      Stepping (persist ex) w₁ := fun _ => inStep_persisted
  unfold Stepping adopt
  rw [Prog.wp_bind, Prog.wp_modifyMem, Prog.wp_bind, Prog.wp_mem]
  dsimp only
  split
  · rw [Prog.wp_bind, Prog.wp_modifyMem]
    exact hpersist _
  · rw [Prog.wp_bind, Prog.wp_modifyMem, Prog.wp_bind]
    exact Prog.wp_mono (Prog.wp_state.mpr trivial)
      (fun _ w₁ (_ : True) => hpersist w₁) fun _ _ (_ : True) => trivial

theorem settleState_steps (h : InStep w) : Stepping (settleState ex) w := by
  unfold Stepping settleState
  rw [Prog.wp_bind, Prog.wp_mem, Prog.wp_ite]
  split
  · exact h
  · exact inStep_entered

theorem adoptAndSettle_steps : Stepping (adoptAndSettle ex snap) w := by
  unfold Stepping adoptAndSettle
  rw [Prog.wp_bind]
  refine Prog.wp_mono adopt_steps (fun _ w₁ h₁ => ?_) fun _ _ h => h
  rw [Prog.wp_bind]
  refine Prog.wp_mono (settleState_steps h₁) (fun _ w₂ h₂ => ?_)
    fun _ _ h => h
  rw [Prog.wp_bind, Prog.wp_mem, Prog.wp_ite]
  split
  · rw [Prog.wp_bind, wp_call]
    split
    · exact h₂.same rfl rfl
    · trivial
  · exact h₂.same rfl rfl

theorem checkPending_steps (h : InStep w) :
    Stepping (checkPending ex snap) w := by
  unfold Stepping checkPending
  rw [Prog.wp_bind, Prog.wp_mem, Prog.wp_bind, wp_clock]
  split
  · exact h
  rw [Prog.wp_ite]
  split
  · exact h
  rw [Prog.wp_ite]
  split
  · exact h
  rw [Prog.wp_bind, wp_alert]
  dsimp only
  split
  · exact adoptAndSettle_steps
  · rw [Prog.wp_bind, wp_updateOrder]
    exact adoptAndSettle_steps

theorem halt_steps {reason : String} (h : InStep w) :
    Prog.wp (halt ex reason) (fun _ w' => InStep w') (fun _ _ => False) w := by
  unfold halt
  rw [Prog.wp_bind, Prog.wp_mem, Prog.wp_ite]
  split
  · exact h
  · simp only [Prog.wp_bind, wp_alert, Prog.wp_modifyMem, wp_setState]
    exact inStep_entered

/-! ### Sending -/

theorem announce_steps {intent : Intent} {target : Option Decimal}
    {verdicts : List (String × String)} :
    Stepping (announce ex intent target verdicts) w := by
  rcases announce_cases ex intent target verdicts w with hok | ⟨herr, -⟩
  · unfold Stepping
    rw [Prog.wp_of_ok hok]
    exact ⟨_, Db.positionLocal_upsertPositionLocal_self
      (p := (waiting w.mem intent (ex.clock w.disk.venue)).localRow
        (ex.clock w.disk.venue))⟩
  · unfold Stepping
    rw [Prog.wp_of_error herr]
    trivial

/-- Submitting leaves the fields and the rows alone, also when it raises. -/
theorem submitAttempt_steps {attempt : ℕ} {req : OrderRequest}
    {sizeBefore : Decimal}
    {otherwise : Act V (InstrumentRouter S) (Option OrderAck)} (h : InStep w)
    (hother : ∀ w', InStep w' → Prog.wp otherwise (fun _ w' => InStep w')
      (fun _ w' => InStep w') w') :
    Prog.wp (submitAttempt ex attempt req sizeBefore otherwise)
      (fun _ w' => InStep w') (fun _ w' => InStep w') w := by
  have hsent : ∀ v, InStep (sent w req w.mem.dseq v) := fun v =>
    h.same rfl rfl
  unfold submitAttempt
  rw [Prog.wp_catching, Prog.wp_bind, Prog.wp_mem, Prog.wp_bind,
    wp_callSubmit]
  split
  · exact hsent _
  next e v _ =>
  rw [Prog.wp_ite]
  split
  · rw [Prog.wp_bind, wp_call]
    split
    · rw [Prog.wp_ite]
      split
      · simp only [Prog.wp_bind, wp_alert, wp_clock, Prog.wp_pure]
        exact (hsent v).awaited.alerted
      · exact hother _ (hsent v).awaited
    · exact (hsent v).awaited
  · exact hsent _

theorem submitWithRecovery_steps {req : OrderRequest} {sizeBefore : Decimal}
    (h : InStep w) :
    Prog.wp (submitWithRecovery ex req sizeBefore)
      (fun _ w' => InStep w') (fun _ w' => InStep w') w := by
  refine submitAttempt_steps h fun w' h' => ?_
  rw [Prog.wp_bind, wp_alert]
  exact submitAttempt_steps h'.alerted fun w' h' => h'

theorem submitFailed_steps {cid : ClientOrderId} {e : Exc} (h : InStep w) :
    Stepping (submitFailed ex cid e) w := by
  unfold Stepping submitFailed
  rw [Prog.wp_bind, wp_updateOrder, Prog.wp_bind, wp_alert, Prog.wp_bind]
  refine Prog.wp_mono (halt_steps h.updated.alerted) (fun _ w₁ _ => ?_)
    fun _ _ hf => hf.elim
  rw [Prog.wp_bind, wp_call]
  split
  · exact adopt_steps
  · trivial

theorem acknowledge_steps {cid : ClientOrderId} {prior : State}
    {intent : Intent} {ack : Option OrderAck} (h : InStep w) :
    Stepping (acknowledge ex cid prior intent ack) w := by
  unfold Stepping acknowledge
  split
  · rw [Prog.wp_bind, wp_updateOrder]
    exact Prog.wp_mono (halt_steps h.updated) (fun _ _ h => h)
      fun _ _ hf => hf.elim
  split
  · simp only [Prog.wp_bind, wp_updateOrder, wp_alert, Prog.wp_modifyMem,
      wp_setState]
    exact inStep_entered
  · rw [wp_updateOrder]
    exact h.updated

theorem send_steps {intent : Intent} {target : Option Decimal}
    {verdicts : List (String × String)} :
    Stepping (send ex intent target verdicts) w := by
  unfold Stepping send
  rw [Prog.wp_bind, Prog.wp_mem, Prog.wp_bind]
  refine Prog.wp_mono announce_steps (fun req w₁ h₁ => ?_) fun _ _ h => h
  rw [Prog.wp_bind, Prog.wp_attempt]
  refine Prog.wp_mono (submitWithRecovery_steps h₁) (fun ack w₂ h₂ => ?_)
    fun e w₂ h₂ => ?_
  · exact acknowledge_steps h₂
  · exact submitFailed_steps h₂

theorem exit_steps {mark size : Decimal} {reason : String}
    {target : Option Decimal} :
    Stepping (exit ex mark reason target size) w := by
  unfold Stepping exit
  rw [Prog.wp_bind, Prog.wp_mem]
  exact send_steps

theorem shutdown_steps {mark : Decimal} {exchangeSize : Option Decimal}
    (h : InStep w) : Stepping (shutdown ex mark exchangeSize) w := by
  have hrest : ∀ w₁ : World (Durable V) (InstrumentRouter S),
      Stepping (do
        if w.mem.state = .halted then pure ()
          else alert ex .critical "kill_switch" [("action", "shutdown")]
        setState ex .halted) w₁ := by
    intro w₁
    unfold Stepping
    rw [Prog.wp_ite]
    split
    · exact inStep_entered
    · rw [Prog.wp_bind, wp_alert, wp_setState]
      exact inStep_entered
  unfold Stepping shutdown
  rw [Prog.wp_bind, Prog.wp_mem]
  dsimp only
  rw [Prog.wp_ite]
  split
  · exact h
  rw [Prog.wp_ite]
  split
  · rw [Prog.wp_bind]
    exact Prog.wp_mono exit_steps (fun _ w₁ _ => hrest w₁) fun _ _ h => h
  · exact hrest w

/-! ### The bar cycle and the fast loop -/

theorem enter_steps {mark target : Decimal} {snapshot : AccountSnapshot}
    {kill : KillAction} {pending : List Intent} (h : InStep w) :
    Stepping (enter ex mark target snapshot kill pending) w := by
  unfold Stepping enter
  rw [Prog.wp_ite]
  split
  · exact record_steps h
  rw [Prog.wp_bind, Prog.wp_mem, Prog.wp_bind]
  cases divide w.mem.limits.notionalUsd mark with
  | error e => trivial
  | ok perContract =>
    rw [Prog.wp_ofExcept_ok]
    dsimp only
    rw [Prog.wp_bind]
    cases vetEntry _ mark snapshot w.mem.limits pending with
    | error e => trivial
    | ok entryVerdict =>
      rw [Prog.wp_ofExcept_ok, Prog.wp_bind]
      cases vetExposure _ _ _ _ _ pending with
      | error e => trivial
      | ok exposureVerdict =>
        rw [Prog.wp_ofExcept_ok, Prog.wp_bind]
        cases applyGuards _ _ with
        | error e => trivial
        | ok merged =>
          rw [Prog.wp_ofExcept_ok]
          obtain ⟨final, labels⟩ := merged
          cases final with
          | none => exact record_steps h
          | some final => exact send_steps

theorem holdOrExit_steps {mark target : Decimal} (h : InStep w) :
    Stepping (holdOrExit ex mark target) w := by
  unfold Stepping holdOrExit
  rw [Prog.wp_bind, Prog.wp_mem]
  dsimp only
  rw [Prog.wp_ite]
  split
  · exact exit_steps
  · exact record_steps h

theorem onBar_steps {history : List Bar} {snapshot : AccountSnapshot}
    {kill : KillAction} {pending : List Intent} (h : InStep w) :
    Stepping (onBar ex history snapshot kill pending) w := by
  unfold Stepping onBar
  rw [Prog.wp_bind, Prog.wp_mem, Prog.wp_ite]
  split
  · exact record_steps h
  split
  · trivial
  split
  · exact record_steps h
  rw [Prog.wp_ite]
  split
  · exact shutdown_steps h
  rw [Prog.wp_ite]
  split
  · rw [Prog.wp_ite]
    split
    · exact exit_steps
    · exact record_steps h
  rw [Prog.wp_ite]
  split
  · exact record_steps h
  rw [Prog.wp_bind, askTarget, Prog.wp_bind, Prog.wp_mem, Prog.wp_bind,
    Prog.wp_modifyMem, Prog.wp_pure, Prog.wp_ite]
  have h₁ : InStep { w with mem := { w.mem with strategyState :=
      (w.mem.strategy.target w.mem.strategyState history).2 } } :=
    h.same rfl rfl
  split
  · exact enter_steps h₁
  · exact holdOrExit_steps h₁

theorem watchMargin_steps {pos : PositionView} {mark : Decimal}
    (h : InStep w) : Stepping (watchMargin ex pos mark) w := by
  unfold Stepping watchMargin
  split
  · exact h
  rw [Prog.wp_bind]
  cases divide _ mark with
  | error e => trivial
  | ok distance =>
    rw [Prog.wp_ofExcept_ok, Prog.wp_bind, Prog.wp_mem, Prog.wp_bind, wp_clock]
    dsimp only
    split
    · rw [Prog.wp_ite]
      split
      · rw [Prog.wp_bind, wp_emit, Prog.wp_modifyMem]
        exact h.same rfl rfl
      · rw [Prog.wp_modifyMem]
        exact h.same rfl rfl
    · rw [Prog.wp_modifyMem]
      exact h.same rfl rfl

theorem onFast_steps {mark : Decimal} {snapshot : AccountSnapshot}
    (h : InStep w) : Stepping (onFast ex mark snapshot) w := by
  unfold Stepping onFast
  rw [Prog.wp_bind, Prog.wp_mem, Prog.wp_ite]
  split
  · exact h
  rw [Prog.wp_ite]
  split
  · rw [Prog.wp_bind, wp_alert, wp_setState]
    exact inStep_entered
  split
  · exact h
  rw [Prog.wp_bind]
  refine Prog.wp_mono (watchMargin_steps h) (fun _ w₁ h₁ => ?_)
    fun _ _ h => h
  rw [Prog.wp_bind]
  cases checkOpen _ mark w.mem.limits with
  | error e => trivial
  | ok flatten =>
    rw [Prog.wp_ofExcept_ok, Prog.wp_ite]
    split
    · exact exit_steps
    rw [Prog.wp_ite]
    split
    · exact exit_steps
    · exact h₁

/-! ### Events -/

theorem handleOrderUpdate_steps {ev : OrderUpdate} (h : InStep w) :
    Stepping (handleOrderUpdate ex ev) w := by
  unfold Stepping handleOrderUpdate
  rw [Prog.wp_bind, Prog.wp_mem, Prog.wp_ite]
  split
  · simp only [Prog.wp_bind, wp_updateOrder, wp_alert, Prog.wp_modifyMem]
    refine settleState_steps ?_
    exact InStep.same (InStep.alerted (InStep.updated h)) rfl rfl
  rw [Prog.wp_bind, Prog.wp_disk]
  split
  · exact h
  rw [Prog.wp_ite]
  split
  · exact h
  · rw [wp_updateOrder]
    exact h.updated

theorem recordOurs_steps {row : Option OrderRow} {ev : FillUpdate}
    (h : InStep w) : Stepping (recordOurs ex row ev) w := by
  unfold Stepping recordOurs
  split
  · exact h
  next o =>
  rw [recordFill, Prog.wp_bind]
  cases averagePrice o ev with
  | error e => trivial
  | ok avg =>
    rw [Prog.wp_ofExcept_ok, wp_updateOrder]
    exact h.updated

theorem fillFlattened_steps {ev : FillUpdate} {ours : Bool} :
    Stepping (fillFlattened ex ev ours) w := by
  have htail : ∀ w₁ : World (Durable V) (InstrumentRouter S), InStep w₁ →
      Stepping (flattenStrategy >>= fun _ =>
        if ¬ (w.mem.state = .exitPending ∧
            w.mem.pendingCid = some ev.clientOrderId) ∧ ours = false ∧
            w.mem.state ≠ .liquidated then
          alert ex .warn "stop_fired" [("price", Decimal.str ev.price),
            ("quantity", Decimal.str ev.quantity)]
        else pure ()) w₁ := by
    intro w₁ h₁
    unfold Stepping flattenStrategy
    rw [Prog.wp_bind, Prog.wp_modifyMem, Prog.wp_ite]
    split
    · refine InStep.alerted ?_
      exact h₁.same rfl rfl
    · exact h₁.same rfl rfl
  unfold Stepping fillFlattened
  rw [Prog.wp_bind, Prog.wp_mem]
  dsimp only
  rw [Prog.wp_bind, Prog.wp_modifyMem, Prog.wp_bind, wp_call]
  split
  swap
  · trivial
  rw [Prog.wp_ite]
  split
  · rw [Prog.wp_bind, wp_persist]
    exact htail _ inStep_persisted
  · rw [Prog.wp_bind, wp_setState]
    exact htail _ inStep_entered

theorem afterFill_steps {sizeBefore : Decimal} {ours : Bool}
    {ev : FillUpdate} (h : InStep w) :
    Stepping (afterFill ex sizeBefore ours ev) w := by
  unfold Stepping afterFill
  rw [Prog.wp_bind, Prog.wp_mem, Prog.wp_ite]
  split
  · rw [Prog.wp_bind, Prog.wp_modifyMem, Prog.wp_bind, wp_setState]
    exact replaceStop_steps inStep_entered
  rw [Prog.wp_ite]
  split
  · exact fillFlattened_steps
  rw [Prog.wp_ite]
  split
  · rw [Prog.wp_bind, wp_alert]
    exact replaceStop_steps h.alerted
  rw [Prog.wp_ite]
  split
  · exact h
  rw [Prog.wp_bind, wp_alert, Prog.wp_ite]
  split
  · rw [Prog.wp_bind, wp_setState]
    exact replaceStop_steps inStep_entered
  · exact h.alerted

theorem countFill_steps {row : Option OrderRow} {ev : FillUpdate} :
    Stepping (countFill ex row ev) w := by
  unfold Stepping countFill
  rw [Prog.wp_bind, Prog.wp_mem, applyFill, Prog.wp_bind, Prog.wp_bind,
    Prog.wp_modifyMem, wp_persist, Prog.wp_bind]
  exact Prog.wp_mono (recordOurs_steps inStep_persisted)
    (fun _ w₁ h₁ => afterFill_steps h₁) fun _ _ h => h

theorem lateFill_steps {row : OrderRow} {ev : FillUpdate} :
    Stepping (lateFill ex row ev) w := by
  unfold Stepping lateFill
  rw [Prog.wp_bind, Prog.wp_mem, Prog.wp_bind, wp_alert, Prog.wp_bind,
    wp_updateOrder, Prog.wp_bind, wp_call]
  split
  · exact adoptAndSettle_steps
  · trivial

theorem handleFill_steps {ev : FillUpdate} (h : InStep w) :
    Stepping (handleFill ex ev) w := by
  unfold Stepping handleFill
  rw [Prog.wp_bind, Prog.wp_mem, Prog.wp_ite]
  split
  · exact h
  rw [Prog.wp_bind, Prog.wp_disk]
  split
  · exact countFill_steps
  rw [Prog.wp_ite]
  split
  · exact lateFill_steps
  · exact countFill_steps

end Methods

/-! ## The operations -/

section Operations

open Portfolio

/-- Each router of the portfolio is its instrument's, and its row holds its
fields. -/
structure Agreeing (runId : String) (ids : List InstrumentId)
    (w : World (Durable V) (Portfolio S)) : Prop where
  routed : w.mem.ids = ids
  running : Running runId w
  row : ∀ iid ∈ ids, InStep (seen w iid)

variable {runId : String} {ids : List InstrumentId} {iid : InstrumentId}
  {w w' : World (Durable V) (Portfolio S)}

/-- An operation that returns leaves memory and rows in step. -/
abbrev Agrees (runId : String) (ids : List InstrumentId)
    (m : Act V (Portfolio S) α) (w : World (Durable V) (Portfolio S)) : Prop :=
  Prog.wp m (fun _ w' => Agreeing runId ids w') (fun _ _ => True) w

/-- What touches no router and no row. -/
theorem Agreeing.frame (h : Agreeing runId ids w)
    (hmem : (w'.mem.runId, w'.mem.ids, w'.mem.router) =
      (w.mem.runId, w.mem.ids, w.mem.router))
    (hdisk : w'.disk.db.positionsLocal = w.disk.db.positionsLocal) :
    Agreeing runId ids w' := by
  simp only [Prod.mk.injEq] at hmem
  obtain ⟨h1, h2, h3⟩ := hmem
  refine ⟨h2.trans h.routed, ⟨h1.trans h.running.pfRunId, ?_, ?_⟩, ?_⟩
  · rw [h2]
    exact h.running.ids
  · rw [h2, h3]
    intro j hj
    rw [Durable.rowState, Db.positionLocal, hdisk]
    exact h.running.router j hj
  · intro j hj
    refine (h.row j hj).same ?_ hdisk
    simp only [seen, h3]

theorem Agreeing.alerted (h : Agreeing runId ids w) {id : String} {a : Alert} :
    Agreeing runId ids (wrote w (w.disk.db.insertAlert id a)) :=
  h.frame rfl rfl

theorem Agreeing.awaited (h : Agreeing runId ids w) {v : V} :
    Agreeing runId ids (called w v) := h.frame rfl rfl

/-- One router's moves, ending in step, leave the others in step. -/
theorem Agreeing.moved (h : Agreeing runId ids w) (hid : iid ∈ ids)
    {g : State → State → Prop} {r : World (Durable V) (InstrumentRouter S)}
    (hm : Moves ex g (seen w iid) r) (hr : InStep r) :
    Agreeing runId ids (putBack w iid r) := by
  have hid' : iid ∈ w.mem.ids := by rw [h.routed]; exact hid
  refine ⟨h.routed, h.running.moved hid' hm, fun j hj => ?_⟩
  by_cases hji : j = iid
  · rw [hji, seen_putBack]
    exact hr
  · obtain ⟨ts, hts⟩ := h.row j hj
    have hj' : j ∈ w.mem.ids := by rw [h.routed]; exact hj
    have hsame : (seen (putBack w iid r) j).mem = (seen w j).mem :=
      Portfolio.setRouter_of_ne hji
    refine ⟨ts, ?_⟩
    rw [hsame, ← hts]
    have hne : (w.mem.router j).instrumentId ≠
        (seen w iid).mem.instrumentId := by
      rw [(h.running.router j hj').2.1]
      show j ≠ (w.mem.router iid).instrumentId
      rw [(h.running.router iid hid').2.1]
      exact hji
    have hrow : r.disk.db.positionLocal (w.mem.router j).runId _ = _ :=
      Moves.positionLocal_other hm hne
    exact hrow

theorem onRouter_agrees {m : Act V (InstrumentRouter S) α}
    (h : Agreeing runId ids w) (hid : iid ∈ ids) {g : State → State → Prop}
    (hmoves : m.Steps (Moves ex g) (seen w iid))
    (hm : Stepping m (seen w iid)) :
    Agrees runId ids (onRouter iid m) w := by
  unfold Agrees
  rw [onRouter, Prog.wp_focus]
  exact Prog.wp_mono (Prog.wp_and hm hmoves.wp)
    (fun _ r hr => h.moved hid hr.2 hr.1) fun _ _ _ => trivial

theorem forRouters_agrees {m : InstrumentId → Act V (Portfolio S) Unit}
    (h : Agreeing runId ids w)
    (hm : ∀ iid ∈ ids, ∀ w', Agreeing runId ids w' →
      Agrees runId ids (m iid) w') :
    Agrees runId ids (forRouters m) w := by
  unfold Agrees forRouters
  rw [Prog.wp_bind, Prog.wp_mem, h.routed]
  exact Prog.wp_forEach_mem (Agreeing runId ids)
    (fun iid hid w' h' => hm iid hid w' h') h

theorem checkFunding_agrees {histories : List (InstrumentId × List Bar)}
    {snapshot : AccountSnapshot} (h : Agreeing runId ids w) :
    Agrees runId ids (checkFunding histories snapshot) w := by
  unfold Agrees checkFunding
  refine Prog.wp_forEach_mem (Agreeing runId ids) (fun ih _ w' h' => ?_) h
  obtain ⟨iid, history⟩ := ih
  rw [Prog.wp_bind, Prog.wp_mem]
  dsimp only
  split
  · rw [Prog.wp_bind, Prog.wp_modifyMem]
    split
    · exact h'.frame rfl rfl
    rw [Prog.wp_ite]
    split
    · exact h'.frame rfl rfl
    split
    · exact h'.frame rfl rfl
    · rw [wp_emit]
      exact h'.frame rfl rfl
  · rw [Prog.wp_modifyMem]
    exact h'.frame rfl rfl

theorem pfShutdown_agrees {snapshot : AccountSnapshot}
    {histories : List (InstrumentId × List Bar)} (h : Agreeing runId ids w) :
    Agrees runId ids (Portfolio.shutdown ex snapshot histories) w := by
  have hloop : ∀ w' : World (Durable V) (Portfolio S),
      Agreeing runId ids w' → Agrees runId ids (forRouters fun iid => do
        let pf ← Prog.mem
        let pos := snapshot.position iid
        let mark := shutdownMark (histories.lookup iid) pos
          (pf.router iid).entry
        onRouter iid (InstrumentRouter.shutdown ex mark
          (some ((pos.map PositionView.size).getD 0)))) w' := by
    refine fun w' h' => forRouters_agrees h' fun iid hid w₁ h₁ => ?_
    unfold Agrees
    rw [Prog.wp_bind, Prog.wp_mem]
    obtain ⟨g, hg⟩ := shutdown_any ex (seen w₁ iid) _ _
    exact onRouter_agrees h₁ hid hg (shutdown_steps (h₁.row iid hid))
  unfold Agrees Portfolio.shutdown
  rw [Prog.wp_bind, Prog.wp_mem]
  dsimp only
  rw [Prog.wp_ite]
  split
  · rw [Prog.wp_bind, wp_emit]
    exact hloop _ h.alerted
  · exact hloop _ h

theorem pfOnBar_agrees {histories : List (InstrumentId × List Bar)}
    {kill : KillAction} (h : Agreeing runId ids w) :
    Agrees runId ids (Portfolio.onBar ex histories kill) w := by
  unfold Agrees Portfolio.onBar
  rw [Prog.wp_bind, wp_call]
  split
  swap
  · trivial
  rw [Prog.wp_ite]
  split
  · exact pfShutdown_agrees h.awaited
  rw [Prog.wp_bind]
  refine Prog.wp_mono (checkFunding_agrees h.awaited) (fun _ w₁ h₁ => ?_)
    fun _ _ h => h
  refine Prog.wp_forEach_mem (Agreeing runId ids) (fun ih _ w' h' => ?_) h₁
  obtain ⟨iid, history⟩ := ih
  rw [Prog.wp_bind, Prog.wp_mem, Prog.wp_ite]
  split
  · next hc =>
    have hid : iid ∈ ids := by rw [← h'.routed]; exact hc.1
    exact onRouter_agrees h' hid onBar_moves (onBar_steps (h'.row iid hid))
  · exact h'

theorem watchPnl_agrees {snapshot : AccountSnapshot}
    (h : Agreeing runId ids w) : Agrees runId ids (watchPnl snapshot) w := by
  unfold Agrees watchPnl
  rw [Prog.wp_bind, Prog.wp_mem]
  split
  · exact h
  dsimp only
  split
  · rw [Prog.wp_ite]
    split
    · rw [Prog.wp_bind, wp_emit, Prog.wp_modifyMem]
      exact h.frame rfl rfl
    · rw [Prog.wp_modifyMem]
      exact h.frame rfl rfl
  · rw [Prog.wp_modifyMem]
    exact h.frame rfl rfl

theorem pfOnFast_agrees {marks : List (InstrumentId × Decimal)}
    (h : Agreeing runId ids w) :
    Agrees runId ids (Portfolio.onFast ex marks) w := by
  unfold Agrees Portfolio.onFast
  rw [Prog.wp_bind, wp_call]
  split
  swap
  · trivial
  rw [Prog.wp_bind]
  refine Prog.wp_mono (forRouters_agrees h.awaited fun iid hid w' h' =>
    onRouter_agrees h' hid checkPending_moves
      (checkPending_steps (h'.row iid hid)))
    (fun _ w₁ h₁ => ?_) fun _ _ h => h
  rw [Prog.wp_bind]
  refine Prog.wp_mono (Prog.wp_forEach_mem (Agreeing runId ids)
    (fun im _ w' h' => ?_) h₁) (fun _ w₂ h₂ => ?_) fun _ _ h => h
  · obtain ⟨iid, mark⟩ := im
    rw [Prog.wp_bind, Prog.wp_mem, Prog.wp_ite]
    split
    · next hc =>
      have hid : iid ∈ ids := by rw [← h'.routed]; exact hc
      exact onRouter_agrees h' hid onFast_moves (onFast_steps (h'.row iid hid))
    · exact h'
  · rw [Prog.wp_bind]
    exact Prog.wp_mono (watchPnl_agrees h₂) (fun _ _ h₃ => h₃)
      fun _ _ h => h

/-- A router that takes down its new stop. -/
theorem noteTrigger_agrees {trigger : Decimal} (h : Agreeing runId ids w)
    (hid : iid ∈ ids) :
    Prog.wp (onRouter iid (do
        Prog.modifyMem fun r => { r with stopTrigger := some trigger }
        persist ex))
      (fun _ w' => Agreeing runId ids w') (fun _ _ => False) w := by
  have hmoves : Prog.Steps (Moves ex idle) (do
      Prog.modifyMem fun r => { r with stopTrigger := some trigger }
      persist ex : Act V (InstrumentRouter S) Unit) (seen w iid) :=
    Prog.Steps.bind (memory_moves (.kept rfl)) fun _ => persist_moves
  rw [onRouter, Prog.wp_focus]
  exact Prog.wp_mono (Prog.wp_and (Q := fun _ r => InStep r)
    (E := fun _ _ => False) inStep_persisted hmoves.wp)
    (fun _ r hr => h.moved hid hr.2 hr.1) fun _ _ hf => hf.1.elim

/-- A response that raises has moved nothing yet, so a refusal can be
reported and passed over. -/
theorem guardPosition_agrees {m : Mismatch} {snapshot : AccountSnapshot}
    (h : Agreeing runId ids w) :
    Prog.wp (guardPosition ex m iid snapshot)
      (fun _ w' => Agreeing runId ids w')
      (fun _ w' => Agreeing runId ids w') w := by
  unfold guardPosition
  rw [Prog.wp_bind, Prog.wp_mem]
  split
  · exact h
  rw [Prog.wp_bind]
  generalize (if iid ∈ w.mem.ids then (w.mem.router iid).limits
    else limitsDefault) = limits
  unfold placeExchangeStop
  rw [Prog.wp_ite]
  split
  · exact h
  rw [Prog.wp_bind, wp_call]
  split
  swap
  · exact h.awaited
  next v _ =>
  rw [Prog.wp_pure, Prog.wp_ite]
  split
  · next hc =>
    have hid : iid ∈ ids := by rw [← h.routed]; exact hc
    rw [Prog.wp_bind]
    refine Prog.wp_mono (noteTrigger_agrees h.awaited hid) (fun _ w₁ h₁ => ?_)
      fun _ _ hf => hf.elim
    simp only [Prog.wp_bind, wp_mismatchAlert, wp_clock, wp_emit]
    exact h₁.alerted.alerted
  · simp only [Prog.wp_bind, wp_mismatchAlert, wp_clock, wp_emit]
    exact h.awaited.alerted.alerted

theorem respond_agrees {m : Mismatch} {snapshot : AccountSnapshot}
    (h : Agreeing runId ids w) :
    Prog.wp (respond ex m snapshot) (fun _ w' => Agreeing runId ids w')
      (fun _ w' => Agreeing runId ids w') w := by
  unfold respond
  rw [Prog.wp_bind, Prog.wp_mem]
  split
  · next iid _ _ =>
    rw [Prog.wp_ite]
    split
    · next hc =>
      have hid : iid ∈ ids := by rw [← h.routed]; exact hc
      rw [onRouter, Prog.wp_focus]
      exact Prog.wp_mono (Prog.wp_and (halt_steps (h.row iid hid))
        halt_moves.wp) (fun _ r hr => h.moved hid hr.2 hr.1)
        fun _ _ hf => hf.1.elim
    · exact h.alerted
  · rw [Prog.wp_bind, wp_call]
    split
    · exact h.awaited.alerted
    · exact h.awaited
  · exact guardPosition_agrees h
  · rw [Prog.wp_ite]
    split
    · exact h
    · rw [Prog.wp_bind, wp_call]
      split
      · exact h.awaited.alerted
      · exact h.awaited
  · exact h.alerted

theorem reconcile_agrees (h : Agreeing runId ids w) :
    Agrees runId ids (reconcile ex) w := by
  unfold Agrees reconcile
  rw [Prog.wp_bind, wp_call]
  split
  swap
  · trivial
  simp only [Prog.wp_bind, Prog.wp_mem, Prog.wp_disk]
  refine Prog.wp_mono (Prog.wp_forEach_mem (Agreeing runId ids)
    (fun m _ w' h' => ?_) h.awaited) (fun _ w₁ h₁ => ?_) fun _ _ h => h
  · rw [Prog.wp_catching]
    refine Prog.wp_mono (respond_agrees h') (fun _ _ h₂ => h₂)
      fun e w₂ h₂ => ?_
    rw [Prog.wp_bind, Prog.wp_mem, Prog.wp_ite]
    split
    · trivial
    rw [Prog.wp_ite]
    split
    · exact h₂
    · rw [Prog.wp_bind, Prog.wp_modifyMem, wp_mismatchAlert]
      exact h₂.frame rfl rfl
  · exact h₁.frame rfl rfl

theorem perform_agrees (op : Op) (h : Agreeing runId ids w) :
    Agrees runId ids (perform ex op) w := by
  have hreconcile : ∀ w₁ : World (Durable V) (Portfolio S),
      Agreeing runId ids w₁ →
      Agrees runId ids (reconcile ex >>= fun _ => pure ()) w₁ := by
    intro w₁ h₁
    unfold Agrees
    rw [Prog.wp_bind]
    exact Prog.wp_mono (reconcile_agrees h₁) (fun _ _ h₂ => h₂)
      fun _ _ h => h
  cases op with
  | onBar histories kill => exact pfOnBar_agrees h
  | onFast marks =>
      unfold Agrees perform
      rw [Prog.wp_bind]
      exact Prog.wp_mono (pfOnFast_agrees h) (fun _ _ h₁ => h₁) fun _ _ h => h
  | dispatch ev =>
      cases ev with
      | reconcileNow => exact hreconcile w h
      | fill ev =>
          unfold Agrees perform dispatch
          dsimp only
          rw [Prog.wp_bind, Prog.wp_mem, Prog.wp_ite]
          split
          · next hc =>
            have hid : ev.instrumentId ∈ ids := by rw [← h.routed]; exact hc
            exact onRouter_agrees h hid handleFill_moves
              (handleFill_steps (h.row _ hid))
          · exact h
      | order ev =>
          exact forRouters_agrees h fun iid hid w' h' =>
            onRouter_agrees h' hid handleOrderUpdate_moves
              (handleOrderUpdate_steps (h'.row iid hid))
  | reconcileNow => exact hreconcile w h

end Operations

/-! ## Recovery -/

section Recovering

variable {runId : String} {c₀ : Recovery S} {d₀ : Durable V}
  {w w' : World (Durable V) (Recovery S)}

/-- Writing a router's row makes it the router's, and leaves the others. -/
theorem row_upserted (db : Db) (now : DateTime) {pf : Portfolio S}
    {r : InstrumentRouter S} {db' : Db} {j : InstrumentId} {done : InstrumentId → Prop}
    (hr : r.runId = runId) (hj : r.instrumentId = j)
    (hdb : db'.positionsLocal =
      (db.upsertPositionLocal (r.localRow now)).positionsLocal)
    (h : ∀ k, done k → k ≠ j →
      ∃ ts, db.positionLocal runId k = some ((pf.router k).localRow ts)) :
    ∀ k, done k → ∃ ts, db'.positionLocal runId k =
      some (((pf.setRouter j r).router k).localRow ts) := by
  intro k hk
  rw [Db.positionLocal, hdb, ← Db.positionLocal]
  by_cases hkj : k = j
  · refine ⟨now, ?_⟩
    rw [hkj, Portfolio.setRouter_self, ← hr, ← hj]
    exact Db.positionLocal_upsertPositionLocal_self (p := r.localRow now)
  · rw [Portfolio.setRouter_of_ne hkj]
    obtain ⟨ts, hts⟩ := h k hk hkj
    refine ⟨ts, ?_⟩
    rw [← hts]
    refine Db.positionLocal_upsertPositionLocal_ne fun heq => hkj ?_
    exact (Prod.mk.inj heq).2.trans hj

/-- Where recovery stands: the routers that had their turn are what their rows
say, to the last field. -/
structure Written (runId : String) (c₀ : Recovery S) (d₀ : Durable V)
    (st : Stage) (w : World (Durable V) (Recovery S)) : Prop where
  adopting : Adopting runId c₀ d₀.db st.todo w
  row : ∀ j, j ∈ c₀.pf.ids ∧ j ∉ st.todo → ∃ ts,
    w.disk.db.positionLocal runId j = some ((w.mem.pf.router j).localRow ts)

theorem Written.calm {st : Stage} (h : Written runId c₀ d₀ st w)
    (halong : World.Along SameTables w w') (hpf : w'.mem.pf = w.mem.pf) :
    Written runId c₀ d₀ st w' := by
  have hsame := halong.between.1
  refine ⟨h.adopting.calm hsame hpf, fun j hj => ?_⟩
  rw [hsame.positionLocal, hpf]
  exact h.row j hj

theorem Written.turned {j : InstrumentId} {rest : List InstrumentId}
    (hi : Written runId c₀ d₀ (.routers (j :: rest)) w)
    (h : Turned ex snap (d₀.db.positionLocal runId j) j w w') :
    Written runId c₀ d₀ (.routers rest) w' := by
  obtain ⟨w₁, now, halong, hdisk, -⟩ := h.written
  have hsame : SameTables w.disk w₁.disk := halong.between.1
  have hr := taken_same snap (d₀.db.positionLocal runId j) w.disk.db j
    (w.mem.pf.router j)
  refine ⟨(h.adopting (fun _ _ => True) j hi.adopting).1, ?_⟩
  rw [h.pf]
  refine row_upserted w₁.disk.db now
    (hr.1.trans (hi.adopting.identity j).1)
    (hr.2.1.trans (hi.adopting.identity j).2) (by rw [hdisk]) ?_
  rintro k ⟨hk, hn⟩ hkj
  rw [hsame.positionLocal]
  refine hi.row k ⟨hk, fun hmem => ?_⟩
  rcases List.mem_cons.mp hmem with heq | hmem
  · exact hkj heq
  · exact hn hmem

theorem Written.classified {rows : List PositionLocalRow} {o : OrderRow}
    {rest : List OrderRow}
    (hrows : ∀ j, rows.find? (fun r => r.instrumentId = j) =
      d₀.db.positionLocal runId j)
    (hi : Written runId c₀ d₀ (.orders (o :: rest)) w)
    (h : Classified ex snap rows o w w') :
    Written runId c₀ d₀ (.orders rest) w' := by
  refine ⟨(h.adopting (fun _ _ => True) o.instrumentId hrows
    hi.adopting).1, ?_⟩
  cases h with
  | done _ => exact hi.row
  | relabelled rep status _ _ _ => exact hi.row
  | restored rep st r db _ _ _ hr hdb =>
      have hid := hi.adopting.identity o.instrumentId
      refine row_upserted w.disk.db _ (by rw [hr]; exact hid.1)
        (by rw [hr]; exact hid.2) (by rw [hdb]; rfl) fun k hk _ => ?_
      exact hi.row k hk

theorem recovers_written {rows : List PositionLocalRow}
    (hrows : rows = d₀.db.getPositionsLocal runId) :
    Recovers ex snap rows runId (Written (S := S) runId c₀ d₀)
      (fun _ => True) := by
  have hfind : ∀ j, rows.find? (fun r => r.instrumentId = j) =
      d₀.db.positionLocal runId j := by
    intro j
    rw [hrows]
    exact find_getPositionsLocal runId j d₀.db
  exact
    { calm := fun hi h => hi.calm h.along h.pf
      turn := by
        intro j rest w w' hi h
        rw [hfind] at h
        exact hi.turned h
      unknown := fun hi => ⟨hi.adopting, hi.row⟩
      guard := fun hi h => by
        have hc := hi.calm h.along h.pf
        exact ⟨hc.adopting, hc.row⟩
      orders := fun hi => ⟨hi.adopting, hi.row⟩
      classify := fun hi h => hi.classified hfind h
      foreign := fun hi => ⟨hi.adopting, hi.row⟩
      cancel := fun hi h => by
        have hc := hi.calm h.along h.pf
        exact ⟨hc.adopting, hc.row⟩
      turnRaised := fun _ _ _ => trivial
      guardRaised := fun _ _ _ _ _ => trivial
      cancelRaised := fun _ _ _ => trivial
      raised := fun _ _ => trivial }

end Recovering

/-! ## Runs -/

namespace Site

variable {runId : String}

/-- Memory and rows are in step in the process, if one runs. -/
def AgreesOn (runId : String) (s : Site V S) : Prop :=
  ∀ pf, s.process = some pf → Agreeing runId pf.ids ⟨pf, s.disk, []⟩

/-- Every operation of a process has returned: one that raised ended it. -/
def returning (ex : Executor V) (s : Site V S) : Happening V S → Prop
  | .perform op => ∀ pf, s.process = some pf →
      (Portfolio.perform ex op ⟨pf, s.disk, []⟩).1 = .ok ()
  | _ => True

/-- A recovery that returns leaves every router what its row says. -/
theorem recovered_agrees {d : Durable V} {c : Recovery S} {pf : Portfolio S}
    (hc : Started runId c) (hpf : recovered ex d c = some pf) :
    Agreeing runId pf.ids ⟨pf, (recovering ex d c).2.disk, []⟩ := by
  obtain ⟨hok, rfl⟩ := recovered_eq_some hpf
  have hstart : Adopting runId c d.db c.pf.ids
      (called ⟨c, d, []⟩ (ex.snapshot d.venue).2) :=
    hc.adopting (d := { d with venue := (ex.snapshot d.venue).2 })
  have hrec : Prog.wp (recover ex)
      (fun _ w' => Written runId c d (.foreign []) w') (fun _ _ => True)
      ⟨c, d, []⟩ :=
    recover_rule (w := ⟨c, d, []⟩) (I := Written runId c d)
      (E := fun _ => True) rfl hc.pfRunId.symm rfl (fun _ _ => trivial)
      fun snap _ => ⟨⟨hstart, fun j hj => absurd hj.1 hj.2⟩,
        recovers_written rfl⟩
  have hw := Prog.wp_returned hrec hok
  refine ⟨rfl, Adopting.running hc hw.adopting, fun j hj => ?_⟩
  obtain ⟨hrun, hid⟩ := hw.adopting.identity j
  obtain ⟨ts, hts⟩ := hw.row j ⟨by rw [← hw.adopting.ids]; exact hj, nofun⟩
  refine ⟨ts, ?_⟩
  show Db.positionLocal ((recovering ex d c).2.mem.pf.router j).runId
    ((recovering ex d c).2.mem.pf.router j).instrumentId _ = _
  rw [show ((recovering ex d c).2.mem.pf.router j).runId = runId from hrun,
    show ((recovering ex d c).2.mem.pf.router j).instrumentId = j from hid]
  exact hts

theorem clearHalt_steps {w : World (Durable V) (InstrumentRouter S)} :
    Stepping (clearHalt ex) w := inStep_entered

theorem Step.agrees {s s' : Site V S} {h : Happening V S}
    {ms : List (Durable V)} (hstep : Step ex runId s h ms s')
    (hmay : returning ex s h) (hs : AgreesOn runId s) : AgreesOn runId s' := by
  intro pf' hpf'
  cases hstep with
  | @start d c hc => exact recovered_agrees hc hpf'
  | startCut hc hcut => cases hpf'
  | @perform d pf op =>
      cases hpf'
      have h := Prog.wp_returned (perform_agrees op (hs pf rfl))
        (hmay pf rfl)
      exact Agreeing.frame (w := operating ex d pf op) ⟨rfl, h.running,
        fun j hj => h.row j (by rw [← h.routed]; exact hj)⟩ rfl rfl
  | cut hcut => cases hpf'
  | @clearHalt d pf iid hid =>
      cases hpf'
      have hmoves : Prog.Steps (Moves ex fun _ _ => True)
          (InstrumentRouter.clearHalt ex : Act V (InstrumentRouter S) Unit)
          (seen ⟨pf, d, []⟩ iid) := Moves.one (.enter _ _ trivial)
      have h : Agreeing runId pf.ids (clearing ex d pf iid) :=
        Prog.wp_returned (a := ()) (onRouter_agrees (hs pf rfl) hid hmoves
          clearHalt_steps) rfl
      exact Agreeing.frame (w := clearing ex d pf iid) h rfl rfl
  | stop => cases hpf'
  | venue v => exact Agreeing.frame (hs pf' hpf') rfl rfl
  | @strategies d pf states =>
      cases hpf'
      have h := hs pf rfl
      exact ⟨rfl, ⟨h.running.pfRunId, h.running.ids, h.running.router⟩,
        fun j hj => (h.row j hj).same rfl rfl⟩

/-- After every operation, as long as each has returned, the row of every
router of the process is its fields. -/
theorem rows_in_step {s₀ s : Site V S} {ds : List (Durable V)}
    {pf : Portfolio S} (hstart : s₀.process = none)
    (hrun : Run ex runId (returning ex) s₀ ds s) (hpf : s.process = some pf) :
    ∀ iid ∈ pf.ids, ∃ ts, s.disk.db.positionLocal runId iid =
      some ((pf.router iid).localRow ts) := by
  have hs : AgreesOn runId s := by
    clear hpf
    induction hrun with
    | here =>
        intro pf hpf
        rw [hstart] at hpf
        cases hpf
    | next _ hmay hstep ih => exact hstep.agrees hmay ih
  intro iid hid
  have h := hs pf hpf
  have hrun' : (pf.router iid).runId = runId := (h.running.router iid hid).1
  have hid' : (pf.router iid).instrumentId = iid :=
    (h.running.router iid hid).2.1
  obtain ⟨ts, hts⟩ := h.row iid hid
  have hrow : s.disk.db.positionLocal (pf.router iid).runId
    (pf.router iid).instrumentId = some ((pf.router iid).localRow ts) := hts
  rw [hrun', hid'] at hrow
  exact ⟨ts, hrow⟩

/-! ### An operation that raised

A venue that loses the connection on every order it executes, and places no
stop. -/

section Raised

/-- The venue holds a contract once an order was sent. -/
def losing : Executor Bool where
  name := "live"
  submit _ _ := (.error ⟨.other "ConnectionError", "reset"⟩, true)
  cancel _ v := (.ok (), v)
  placeStop _ _ v := (.error ⟨.other "ConnectionError", "reset"⟩, v)
  cancelStop _ v := (.ok (), v)
  snapshot v := (.ok { oneContract with
    positions := if v then oneContract.positions else [], stops := [] }, v)
  clock _ := 0

@[irreducible] def losingStart : World (Durable Bool) (Recovery Unit) :=
  (recovering losing ⟨Db.empty, false, [], []⟩ longRouter).2

/-- The bar whose order lost the connection. -/
@[irreducible] def losingBar : World (Durable Bool) (Portfolio Unit) :=
  operating losing losingStart.disk losingStart.mem.pf
    (.onBar [(1, [flatBar])] .run)

/-- A tick after it. -/
@[irreducible] def losingTick : World (Durable Bool) (Portfolio Unit) :=
  operating losing losingBar.disk losingBar.mem (.onFast [])

theorem losingTick_facts :
    (recovering losing ⟨Db.empty, false, [], []⟩ longRouter).1.toBool = true ∧
      (Portfolio.perform losing (.onFast [])
        ⟨losingBar.mem, losingBar.disk, []⟩).1.toBool = true ∧
      losingTick.mem.ids = [1] ∧ (losingTick.mem.router 1).size = 1 ∧
      (losingTick.disk.db.positionLocal "run" 1).map PositionLocalRow.size =
        some 0 := by
  decide +kernel

/-- The tick returns, and the row still has the size from before the bar. -/
theorem rows_behind :
    ¬ ∀ (s s' : Site Bool Unit) (ds ms : List (Durable Bool))
      (op : Portfolio.Op) (pf pf' : Portfolio Unit),
      Run losing "run" anything ⟨⟨Db.empty, false, [], []⟩, none⟩ ds s →
      Step losing "run" s (.perform op) ms s' → s.process = some pf →
      (Portfolio.perform losing op ⟨pf, s.disk, []⟩).1 = .ok () →
      s'.process = some pf' → ∀ iid ∈ pf'.ids, ∃ ts,
        s'.disk.db.positionLocal "run" iid =
          some ((pf'.router iid).localRow ts) := by
  intro hall
  obtain ⟨hrec, hret, hids, hsize, hrow⟩ := losingTick_facts
  have h₁ : Step losing "run" ⟨⟨Db.empty, false, [], []⟩, none⟩
      (.start longRouter) losingStart.moments
      ⟨losingStart.disk, some losingStart.mem.pf⟩ := by
    unfold losingStart
    exact Step.started longRouter_started hrec
  have h₂ : Step losing "run" ⟨losingStart.disk, some losingStart.mem.pf⟩
      (.perform (.onBar [(1, [flatBar])] .run)) losingBar.moments
      ⟨losingBar.disk, some losingBar.mem⟩ := by
    unfold losingBar
    exact .perform
  have h₃ : Step losing "run" ⟨losingBar.disk, some losingBar.mem⟩
      (.perform (.onFast [])) losingTick.moments
      ⟨losingTick.disk, some losingTick.mem⟩ := by
    unfold losingTick
    exact .perform
  obtain ⟨ts, hts⟩ := hall _ _ _ _ _ _ _
    (.next (.next .here trivial h₁) trivial h₂) h₃ rfl
    (Prog.ok_of_toBool hret) rfl 1 (by rw [hids]; simp)
  have hts' : losingTick.disk.db.positionLocal "run" 1 =
    some ((losingTick.mem.router 1).localRow ts) := hts
  rw [hts', Option.map_some] at hrow
  have hzero : (losingTick.mem.router 1).size = 0 := Option.some.inj hrow
  rw [hsize] at hzero
  cases hzero

theorem bought_returns :
    (Portfolio.perform resting (.onBar [(1, [flatBar])] .run)
      ⟨firstProcess.mem.pf, firstProcess.disk, []⟩).1.toBool = true := by
  decide +kernel

theorem rows_in_step_bought : ∃ ts,
    bought.disk.db.positionLocal "run" 1 =
      some ((bought.mem.router 1).localRow ts) := by
  obtain ⟨_, hrun⟩ : ∃ ds, Run resting "run" (returning resting)
      ⟨noTables, none⟩ ds ⟨bought.disk, some bought.mem⟩ := by
    refine ⟨_, .next (.next .here ?_ firstProcess_step) ?_ bought_step⟩
    · trivial
    · rintro pf ⟨⟩
      exact Prog.ok_of_toBool bought_returns
  exact rows_in_step rfl hrun rfl 1 (by decide +kernel)

end Raised

end Site

end Polyperps
