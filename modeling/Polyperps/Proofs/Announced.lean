import Polyperps.Proofs.Frozen

/-!
# A router does not freeze in silence

A router's row is written `HALTED` or `LIQUIDATED` only after a critical alert
of its instrument was emitted, at every moment of a method: `halt`, the
shutdown and the liquidation of a tick emit the alert first, a rejected order
puts a frozen state back whose alert was emitted, and everything else keeps the
state or leaves it for one that is not frozen.
-/

namespace Polyperps

open ProgramLogic InstrumentRouter KeyedTable

variable {V S α : Type} {ex : Executor V} {runId : String}
  {iid : InstrumentId}

/-! ## The tables -/

/-- A critical alert of the instrument was emitted. -/
def Db.Warned (runId : String) (iid : InstrumentId) (db : Db) : Prop :=
  ∃ a, (runId, a) ∈ db.alerts ∧ a.level = .critical ∧
    a.instrumentId = some iid

/-- Every frozen row of the run has had its alert. -/
def Db.Told (runId : String) (db : Db) : Prop :=
  ∀ p ∈ db.getPositionsLocal runId, p.state.frozen = true →
    db.Warned runId p.instrumentId

/-- No alert is lost, and no row of the run freezes without one. -/
structure Tells (runId : String) (d d' : Durable V) : Prop where
  alerts : d.db.alerts ⊆ d'.db.alerts
  told : d.db.Told runId → d'.db.Told runId

theorem Db.Warned.mono {db db' : Db} (h : db.Warned runId iid)
    (hsub : db.alerts ⊆ db'.alerts) : db'.Warned runId iid := by
  obtain ⟨a, ha, hlevel, hid⟩ := h
  exact ⟨a, hsub ha, hlevel, hid⟩

instance : Std.Refl (Tells (V := V) runId) :=
  ⟨fun _ => ⟨List.Subset.refl _, id⟩⟩

instance : IsTrans (Durable V) (Tells runId) :=
  ⟨fun _ _ _ h h' =>
    ⟨List.Subset.trans h.alerts h'.alerts, h'.told ∘ h.told⟩⟩

variable {d d' : Durable V}

/-- A write that leaves the rows alone. -/
theorem Tells.of_rows (halerts : d.db.alerts ⊆ d'.db.alerts)
    (hrows : d'.db.positionsLocal = d.db.positionsLocal) :
    Tells runId d d' := by
  refine ⟨halerts, fun htold p hp hf => ?_⟩
  rw [Db.getPositionsLocal, hrows, ← Db.getPositionsLocal] at hp
  exact (htold p hp hf).mono halerts

theorem Tells.of_eq (halerts : d'.db.alerts = d.db.alerts)
    (hrows : d'.db.positionsLocal = d.db.positionsLocal) :
    Tells runId d d' :=
  .of_rows (by rw [halerts]; exact List.Subset.refl _) hrows

/-- Writing a row that is not frozen, or whose alert is there. -/
theorem Tells.upsert {p : PositionLocalRow}
    (halerts : d'.db.alerts = d.db.alerts)
    (hrows : d'.db.positionsLocal =
      (d.db.upsertPositionLocal p).positionsLocal)
    (hp : p.state.frozen = true → d.db.Warned runId p.instrumentId) :
    Tells runId d d' := by
  have hsub : d.db.alerts ⊆ d'.db.alerts := by
    rw [halerts]
    exact List.Subset.refl _
  refine ⟨hsub, fun htold q hq hf => ?_⟩
  obtain ⟨hq, hrun⟩ := List.mem_filter.mp hq
  rw [hrows] at hq
  rcases mem_upsert hq with hq | rfl | ⟨_, _, _, rfl⟩
  · exact (htold q (List.mem_filter.mpr ⟨hq, hrun⟩) hf).mono hsub
  · exact (hp hf).mono hsub
  · exact (hp hf).mono hsub

/-! ## A router's methods -/

/-- A frozen router's alert was emitted. -/
def Covered (w : World (Durable V) (InstrumentRouter S)) : Prop :=
  w.mem.state.frozen = true →
    w.disk.db.Warned w.mem.runId w.mem.instrumentId

/-- What a method does to a router whose alert is there if it is frozen. -/
structure Announcing (w w' : World (Durable V) (InstrumentRouter S)) :
    Prop where
  runId : w'.mem.runId = w.mem.runId
  instrumentId : w'.mem.instrumentId = w.mem.instrumentId
  along : Covered w → World.Along (Tells w.mem.runId) w w'
  covered : Covered w → Covered w'

instance : Std.Refl (Announcing (V := V) (S := S)) :=
  ⟨fun w => ⟨rfl, rfl, fun _ => refl_of _ w, id⟩⟩

instance : IsTrans (World (Durable V) (InstrumentRouter S)) Announcing :=
  ⟨fun _ _ _ h h' => ⟨h'.runId.trans h.runId,
    h'.instrumentId.trans h.instrumentId,
    fun hw => trans_of _ (h.along hw) (h.runId ▸ h'.along (h.covered hw)),
    h'.covered ∘ h.covered⟩⟩

variable {w w' : World (Durable V) (InstrumentRouter S)}
  {snap : AccountSnapshot}

/-- A frozen state is only kept, not entered. -/
def thawing : State → State → Prop := fun st st' =>
  st'.frozen = true → st' = st

theorem thawing_active {st st' : State} (h : ¬st'.frozen = true) :
    thawing st st' := fun hf => absurd hf h

theorem waiting_active {intent : Intent} : ¬intent.waiting.frozen = true := by
  unfold Intent.waiting
  split <;> simp [State.frozen]

/-- A write of the router that leaves the rows and its state alone. -/
theorem Announcing.of_rows {d' : Durable V} {r' : InstrumentRouter S}
    (hrun : r'.runId = w.mem.runId)
    (hid : r'.instrumentId = w.mem.instrumentId)
    (hstate : r'.state = w.mem.state)
    (halerts : w.disk.db.alerts ⊆ d'.db.alerts)
    (hrows : d'.db.positionsLocal = w.disk.db.positionsLocal) :
    Announcing w ⟨r', d', w.past ++ [w.disk]⟩ := by
  refine ⟨hrun, hid, fun _ => .commit r' d' (.of_rows halerts hrows),
    fun hw hf => ?_⟩
  show d'.db.Warned r'.runId r'.instrumentId
  rw [hrun, hid]
  exact (hw (hstate ▸ hf)).mono halerts

/-- A write of the router's row in a state whose alert is there. -/
theorem Announcing.entered {st : State} {now : DateTime}
    (h : Covered w → st.frozen = true →
      w.disk.db.Warned w.mem.runId w.mem.instrumentId) :
    Announcing w (entered w st now) :=
  ⟨rfl, rfl, fun hw => .commit _ _ (.upsert rfl rfl (h hw)),
    fun hw hf => (h hw hf).mono (List.Subset.refl _)⟩

/-- An update of fields that play no part. -/
theorem memory_announcing {f : InstrumentRouter S → InstrumentRouter S}
    (hrun : (f w.mem).runId = w.mem.runId)
    (hid : (f w.mem).instrumentId = w.mem.instrumentId)
    (hstate : (f w.mem).state = w.mem.state) :
    (Prog.modifyMem f : Act V _ Unit).Steps Announcing w := by
  refine ⟨hrun, hid, fun _ => .memory _, fun hw hf => ?_⟩
  show w.disk.db.Warned (f w.mem).runId (f w.mem).instrumentId
  rw [hrun, hid]
  exact hw (hstate ▸ hf)

theorem Change.announcing (h : Change ex thawing w w') : Announcing w w' := by
  cases h with
  | memory r' h =>
      exact memory_announcing (f := fun _ => r') h.runId h.instrumentId h.state
  | persist now =>
      exact ⟨rfl, rfl, fun hw => .commit _ _ (.upsert rfl rfl hw), id⟩
  | enter st now h =>
      refine Announcing.entered fun hw hf => hw ?_
      rw [← h hf]
      exact hf
  | alert a =>
      exact .of_rows rfl rfl rfl (List.subset_append_left _ _) rfl
  | note target verdicts text =>
      rcases record_cases ex target verdicts none none text w with
        hok | ⟨herr, -⟩
      · rw [hok]
        exact .of_rows rfl rfl rfl (List.Subset.refl _) rfl
      · rw [herr]
        exact .of_rows rfl rfl rfl (List.Subset.refl _) rfl
  | order o o' h h' =>
      exact .of_rows rfl rfl rfl (List.Subset.refl _) rfl
  | venue v => exact .of_rows rfl rfl rfl (List.Subset.refl _) rfl
  | announce intent target verdicts h =>
      rcases announce_cases ex intent target verdicts w with hok | ⟨herr, -⟩
      · rw [hok]
        refine ⟨rfl, rfl, fun _ => ?_, fun _ hf => absurd hf waiting_active⟩
        exact announcedWorld_along rfl rfl (.of_eq rfl rfl) (.of_eq rfl rfl)
          (.upsert rfl rfl fun hf => absurd hf waiting_active)
      · rw [herr]
        exact .of_rows rfl rfl rfl (List.Subset.refl _) rfl
  | submit req v h => exact .of_rows rfl rfl rfl (List.Subset.refl _) rfl

theorem Moves.announcing (h : Moves ex thawing w w') : Announcing w w' := by
  induction h with
  | refl => exact refl_of _ w
  | tail _ hc ih => exact trans_of _ ih hc.announcing

/-- A method made of changes that enter no frozen state. -/
theorem announcing_of_moves {m : Act V (InstrumentRouter S) α}
    (h : m.Steps (Moves ex thawing) w) : m.Steps Announcing w := h.announcing

/-! ### Methods that enter no frozen state -/

theorem settleState_thaws :
    (settleState ex).Steps (Moves (S := S) ex thawing) w := by
  unfold settleState
  refine Prog.Steps.mem_bind ?_
  split
  · exact Prog.Steps.pure
  · refine setState_moves (thawing_active ?_)
    split <;> simp [State.frozen]

theorem adoptAndSettle_thaws :
    (adoptAndSettle ex snap).Steps (Moves (S := S) ex thawing) w := by
  unfold adoptAndSettle
  refine Prog.Steps.bind adopt_moves fun _ => ?_
  refine Prog.Steps.bind settleState_thaws fun _ => ?_
  refine Prog.Steps.mem_bind ?_
  split
  · exact Prog.Steps.bind call_moves fun _ => flattenStrategy_moves
  · exact recoverStrategy_moves

theorem checkPending_thaws :
    (checkPending ex snap).Steps (Moves (S := S) ex thawing) w := by
  unfold checkPending
  refine Prog.Steps.mem_bind (clock_bind ?_)
  split
  · exact Prog.Steps.pure
  split
  · exact Prog.Steps.pure
  split
  · exact Prog.Steps.pure
  refine Prog.Steps.bind alert_moves fun _ => ?_
  dsimp only
  split
  · exact adoptAndSettle_thaws
  · refine Prog.Steps.bind (updateOrder_moves fun _ => .of_eq rfl) fun _ => ?_
    exact adoptAndSettle_thaws

theorem handleOrderUpdate_thaws {ev : OrderUpdate} :
    (handleOrderUpdate ex ev).Steps (Moves (S := S) ex thawing) w := by
  unfold handleOrderUpdate
  refine Prog.Steps.mem_bind ?_
  split
  · refine Prog.Steps.bind (updateOrder_moves fun _ => .of_eq rfl) fun _ => ?_
    refine Prog.Steps.bind alert_moves fun _ => ?_
    exact Prog.Steps.bind (memory_moves (.forgot rfl rfl))
      fun _ => settleState_thaws
  refine Prog.Steps.disk_bind ?_
  split
  · exact Prog.Steps.pure
  split
  · exact Prog.Steps.pure
  · exact updateOrder_moves fun _ => .of_eq rfl

/-- The end of a fill that leaves no position. -/
theorem flattened_thaws {c : Prop} [Decidable c] {kind : String}
    {detail : List (String × String)} :
    (flattenStrategy >>= fun _ =>
      if c then alert ex .warn kind detail else pure ()).Steps
      (Moves (S := S) ex thawing) w := by
  refine Prog.Steps.bind flattenStrategy_moves fun _ => ?_
  split
  · exact alert_moves
  · exact Prog.Steps.pure

theorem fillFlattened_thaws {ev : FillUpdate} {ours : Bool} :
    (fillFlattened ex ev ours).Steps (Moves (S := S) ex thawing) w := by
  unfold fillFlattened
  refine Prog.Steps.mem_bind ?_
  refine Prog.Steps.bind (memory_moves (.forgot rfl rfl)) fun _ => ?_
  refine Prog.Steps.bind call_moves fun _ => ?_
  dsimp only
  split
  · exact Prog.Steps.bind persist_moves fun _ => flattened_thaws
  · exact Prog.Steps.bind
      (setState_moves (thawing_active (by simp [State.frozen])))
      fun _ => flattened_thaws

/-- A fill that opens the position, and the stop that guards it. -/
theorem opened_thaws {f : InstrumentRouter S → InstrumentRouter S}
    (h : SameDuty w.mem (f w.mem)) :
    (do
      Prog.modifyMem f
      setState ex .opened
      replaceStop ex : Act V (InstrumentRouter S) Unit).Steps
      (Moves ex thawing) w := by
  have hmem : (Prog.modifyMem f : Act V _ Unit).Steps (Moves ex thawing) w :=
    memory_moves h
  refine Prog.Steps.bind hmem fun _ => ?_
  exact Prog.Steps.bind
    (setState_moves (thawing_active (by simp [State.frozen])))
    fun _ => replaceStop_moves

theorem afterFill_thaws {sizeBefore : Decimal} {ours : Bool}
    {ev : FillUpdate} :
    (afterFill ex sizeBefore ours ev).Steps (Moves (S := S) ex thawing) w := by
  unfold afterFill
  refine Prog.Steps.mem_bind ?_
  split
  · exact opened_thaws (.forgot rfl rfl)
  split
  · exact fillFlattened_thaws
  split
  · exact Prog.Steps.bind alert_moves fun _ => replaceStop_moves
  split
  · exact Prog.Steps.pure
  refine Prog.Steps.bind alert_moves fun _ => ?_
  split
  · exact Prog.Steps.bind
      (setState_moves (thawing_active (by simp [State.frozen])))
      fun _ => replaceStop_moves
  · exact Prog.Steps.pure

theorem countFill_thaws {row : Option OrderRow} {ev : FillUpdate} :
    (countFill ex row ev).Steps (Moves (S := S) ex thawing) w := by
  unfold countFill
  refine Prog.Steps.mem_bind ?_
  refine Prog.Steps.bind applyFill_moves fun _ => ?_
  refine Prog.Steps.bind ?_ fun _ => afterFill_thaws
  unfold recordOurs
  split
  · exact Prog.Steps.pure
  · exact recordFill_moves

theorem handleFill_thaws {ev : FillUpdate} :
    (handleFill ex ev).Steps (Moves (S := S) ex thawing) w := by
  unfold handleFill
  refine Prog.Steps.mem_bind ?_
  split
  · exact Prog.Steps.pure
  refine Prog.Steps.disk_bind ?_
  split
  · exact countFill_thaws
  split
  · unfold lateFill
    refine Prog.Steps.mem_bind ?_
    refine Prog.Steps.bind alert_moves fun _ => ?_
    refine Prog.Steps.bind (updateOrder_moves fun _ => .of_eq rfl) fun _ => ?_
    exact Prog.Steps.bind call_moves fun _ => adoptAndSettle_thaws
  · exact countFill_thaws

/-! ### Methods that do -/

/-- A state whose alert is there may be entered. -/
theorem setState_announcing {st : State}
    (h : w.disk.db.Warned w.mem.runId w.mem.instrumentId) :
    (setState ex st).Steps Announcing w := Announcing.entered fun _ _ => h

theorem alert_warned {kind : String} {detail : List (String × String)} :
    (alert ex .critical kind detail w).2.disk.db.Warned w.mem.runId
      w.mem.instrumentId :=
  ⟨_, List.mem_append_right _ (List.mem_singleton_self _), rfl, rfl⟩

/-- The alert is written, then the state. -/
theorem alert_setState {kind : String} {detail : List (String × String)}
    {st : State} :
    (alert ex .critical kind detail >>= fun _ => setState ex st).Steps
      Announcing w :=
  Prog.Steps.bind (announcing_of_moves alert_moves)
    fun _ => setState_announcing alert_warned

theorem halt_announcing {reason : String} :
    (halt ex reason).Steps Announcing w := by
  unfold halt
  refine Prog.Steps.mem_bind ?_
  split
  · exact Prog.Steps.pure
  refine Prog.Steps.bind (announcing_of_moves alert_moves) fun _ => ?_
  refine Prog.Steps.bind (memory_announcing rfl rfl rfl) fun _ => ?_
  exact setState_announcing alert_warned

theorem submitFailed_announcing {cid : ClientOrderId} {e : Exc} :
    (submitFailed ex cid e).Steps Announcing w := by
  unfold submitFailed
  refine Prog.Steps.bind
    (announcing_of_moves (updateOrder_moves fun _ => .of_eq rfl)) fun _ => ?_
  refine Prog.Steps.bind (announcing_of_moves alert_moves) fun _ => ?_
  refine Prog.Steps.bind halt_announcing fun _ => ?_
  exact announcing_of_moves (Prog.Steps.bind call_moves fun _ => adopt_moves)

/-- From a world that `w₀` has come to, to another. -/
def Onward (w₀ w w' : World (Durable V) (InstrumentRouter S)) : Prop :=
  Announcing w₀ w → Announcing w₀ w'

variable {w₀ : World (Durable V) (InstrumentRouter S)}

instance : Std.Refl (Onward w₀) := ⟨fun _ => id⟩

instance : IsTrans _ (Onward w₀) := ⟨fun _ _ _ h h' => h' ∘ h⟩

theorem Announcing.onward (h : Announcing w w') : Onward w₀ w w' :=
  fun h₀ => trans_of _ h₀ h

/-- Back to a frozen state that `w₀` was in: its alert is still there. -/
theorem Onward.back {st : State} {now : DateTime}
    (h : st.frozen = true → w₀.mem.state.frozen = true) :
    Onward w₀ w (Polyperps.entered w st now) := by
  intro h₀
  have hwarned : Covered w₀ → st.frozen = true →
      w.disk.db.Warned w.mem.runId w.mem.instrumentId := by
    intro hw hf
    rw [h₀.runId, h₀.instrumentId]
    exact (hw (h hf)).mono (h₀.along hw).between.1.alerts
  refine ⟨h₀.runId, h₀.instrumentId, fun hw => ?_, fun hw hf => ?_⟩
  · refine trans_of _ (h₀.along hw) (.commit _ _ ?_)
    refine @Tells.upsert V w₀.mem.runId w.disk _
      (InstrumentRouter.localRow { w.mem with state := st } now) rfl rfl ?_
    exact fun hf => h₀.runId ▸ hwarned hw hf
  · exact hwarned hw hf

/-- A rejected order puts the state before it back. -/
theorem acknowledge_onward {cid : ClientOrderId} {prior : State}
    {intent : Intent} {ack : Option OrderAck}
    (h : prior.frozen = true → w₀.mem.state.frozen = true) :
    (acknowledge ex cid prior intent ack).Steps (Onward w₀) w := by
  have hupdate : ∀ (skip : Bool) (changes : OrderRow → OrderRow),
      (∀ o, SameOrder o (changes o)) →
      ∀ w₁ : World (Durable V) (InstrumentRouter S),
        (updateOrder ex cid skip changes).Steps (Onward w₀) w₁ :=
    fun _ _ hsame _ =>
      (announcing_of_moves (updateOrder_moves hsame)).onward
  unfold acknowledge
  split
  · refine Prog.Steps.bind (hupdate _ _ (fun _ => .of_eq rfl) _) fun _ => ?_
    exact halt_announcing.onward
  split
  · refine Prog.Steps.bind (hupdate _ _ (fun _ => .of_eq rfl) _) fun _ => ?_
    refine Prog.Steps.bind (announcing_of_moves alert_moves).onward
      fun _ => ?_
    refine Prog.Steps.bind (memory_announcing rfl rfl rfl).onward
      fun _ => ?_
    exact .back h
  · exact hupdate _ _ (fun _ => .of_eq rfl) _

theorem send_announcing {intent : Intent} {target : Option Decimal}
    {verdicts : List (String × String)} :
    (send ex intent target verdicts).Steps Announcing w := by
  have hann : (announce ex intent target verdicts).Steps Announcing w :=
    (Change.announce intent target verdicts
      (thawing_active waiting_active)).announcing
  suffices (send ex intent target verdicts).Steps (Onward w) w from
    this (refl_of _ w)
  unfold send
  refine Prog.Steps.mem_bind ?_
  rcases announce_cases ex intent target verdicts w with hok | ⟨herr, -⟩
  · refine Prog.Steps.bind_ok hok hann.onward ?_
    have hsub : (submitWithRecovery ex (w.mem.orderRequest (nextCid w.mem)
        intent (ex.clock w.disk.venue)) w.mem.size).Steps
        (Moves ex idle) (announcedWorld ex intent target verdicts w) :=
      submitWithRecovery_moves
        (announcedWorld_ready ex intent target verdicts w)
    refine Prog.Steps.bind
      (announcing_of_moves (Moves.of_idle hsub)).onward fun result => ?_
    split
    · exact submitFailed_announcing.onward
    · exact acknowledge_onward id
  · exact Prog.Steps.bind_error herr hann.onward

theorem exit_announcing {mark : Decimal} {reason : String}
    {target : Option Decimal} {size : Decimal} :
    (exit ex mark reason target size).Steps Announcing w :=
  Prog.Steps.mem_bind send_announcing

/-- A halted router has had its alert; any other gets one. -/
theorem shutdown_announcing {mark : Decimal}
    {exchangeSize : Option Decimal} :
    (shutdown ex mark exchangeSize).Steps Announcing w := by
  suffices (shutdown ex mark exchangeSize).Steps (Onward w) w from
    this (refl_of _ w)
  unfold shutdown
  refine Prog.Steps.mem_bind ?_
  dsimp only
  split
  · exact Prog.Steps.pure
  have hrest : ∀ w₁ : World (Durable V) (InstrumentRouter S),
      (if w.mem.state = .halted then setState ex .halted
        else alert ex .critical "kill_switch" [("action", "shutdown")] >>=
          fun _ => setState ex .halted).Steps (Onward w) w₁ := by
    intro w₁
    split
    · next hhalted => exact .back fun _ => by rw [hhalted]; rfl
    · exact alert_setState.onward
  split
  · exact Prog.Steps.bind exit_announcing.onward fun _ => hrest _
  · exact hrest _

theorem enter_announcing {mark target : Decimal} {kill : KillAction}
    {pending : List Intent} :
    (enter ex mark target snap kill pending).Steps Announcing w := by
  unfold enter
  split
  · exact announcing_of_moves record_moves
  refine Prog.Steps.mem_bind ?_
  refine Prog.Steps.bind Prog.Steps.ofExcept fun perContract => ?_
  refine Prog.Steps.bind Prog.Steps.ofExcept fun entryVerdict => ?_
  refine Prog.Steps.bind Prog.Steps.ofExcept fun exposureVerdict => ?_
  refine Prog.Steps.bind Prog.Steps.ofExcept fun merged => ?_
  split
  split
  · exact announcing_of_moves record_moves
  · exact send_announcing

theorem holdOrExit_announcing {mark target : Decimal} :
    (holdOrExit ex mark target).Steps Announcing w := by
  unfold holdOrExit
  refine Prog.Steps.mem_bind ?_
  dsimp only
  split
  · exact exit_announcing
  · exact announcing_of_moves record_moves

theorem onBar_announcing {history : List Bar} {kill : KillAction}
    {pending : List Intent} :
    (onBar ex history snap kill pending).Steps Announcing w := by
  unfold onBar
  refine Prog.Steps.mem_bind ?_
  split
  · exact announcing_of_moves record_moves
  split
  · exact Prog.Steps.raise
  split
  · exact announcing_of_moves record_moves
  split
  · exact shutdown_announcing
  split
  · split
    · exact exit_announcing
    · exact announcing_of_moves record_moves
  split
  · exact announcing_of_moves record_moves
  have hask : (askTarget history).Steps (Moves (S := S) ex thawing) w :=
    askTarget_moves
  refine Prog.Steps.bind (announcing_of_moves hask) fun target => ?_
  split
  · exact enter_announcing
  · exact holdOrExit_announcing

theorem onFast_announcing {mark : Decimal} :
    (onFast ex mark snap).Steps Announcing w := by
  unfold onFast
  refine Prog.Steps.mem_bind ?_
  split
  · exact Prog.Steps.pure
  split
  · exact alert_setState
  split
  · exact Prog.Steps.pure
  refine Prog.Steps.bind (announcing_of_moves watchMargin_moves) fun _ => ?_
  refine Prog.Steps.bind Prog.Steps.ofExcept fun flatten => ?_
  split
  · exact exit_announcing
  split
  · exact exit_announcing
  · exact Prog.Steps.pure

/-- An operator clears a halt into a state that is not frozen. -/
theorem clearHalt_announcing : (clearHalt ex).Steps (@Announcing V S) w := by
  unfold clearHalt
  refine Prog.Steps.mem_bind ?_
  refine announcing_of_moves (setState_moves (thawing_active ?_))
  split <;> simp [State.frozen]

end Polyperps
