import Polyperps.Proofs.LiquidationTick
import Polyperps.Proofs.OperationRules
import Polyperps.Proofs.OrderLedger

/-!
# How long a router waits

A router that waits for an order has the time it began to wait in memory, and
that time is no later than its row entered the pending state: every send sets
it before the row, every recovery with the row. The one way to lose it is an
adoption that cannot place its stop. It has forgotten the time before it asks,
and a router still pending is never looked at again. Where that does not
happen, the pending loop of a tick leaves no router pending for longer than
the timeout, and each router it takes out of its wait with what the exchange
holds.

`Stay` follows a row through the moments of a run, with the time its state was
entered.
-/

namespace Polyperps

open ProgramLogic InstrumentRouter
open Recovery (held frozenRow)

variable {V S α : Type} {ex : Executor V}

/-- The state of an instrument's row, and what the clock read when the row
entered it. -/
structure Stay where
  state : Option State
  since : DateTime

/-- The next moment, in the same state or in another. -/
def Stay.track (ex : Executor V) (runId : String) (iid : InstrumentId)
    (y : Stay) (d : Durable V) : Stay :=
  if d.rowState runId iid = y.state then y
  else ⟨d.rowState runId iid, ex.clock d.venue⟩

/-- The stay after the moments. -/
def Stay.through (ex : Executor V) (runId : String) (iid : InstrumentId)
    (y : Stay) (ms : List (Durable V)) : Stay :=
  ms.foldl (Stay.track ex runId iid) y

section Stays

variable {runId : String} {iid : InstrumentId} {y : Stay} {d : Durable V}
  {ms : List (Durable V)}

theorem Stay.track_state : (y.track ex runId iid d).state =
    d.rowState runId iid := by
  unfold track
  split
  · next h => exact h.symm
  · rfl

theorem Stay.track_same (h : d.rowState runId iid = y.state) :
    y.track ex runId iid d = y := if_pos h

theorem Stay.through_append : y.through ex runId iid (ms ++ [d]) =
    (y.through ex runId iid ms).track ex runId iid d := by
  simp [through]

variable {μ : Type} {w w' : World (Durable V) μ}

theorem Stay.through_moments :
    (y.through ex runId iid w.moments).state = w.disk.rowState runId iid := by
  rw [World.moments, through_append, track_state]

/-- Commits that leave the row in its state. -/
theorem Stay.through_along
    (h : World.Along
      (fun d d' => d'.rowState runId iid = d.rowState runId iid) w w') :
    y.through ex runId iid w'.moments = y.through ex runId iid w.moments := by
  induction h with
  | refl => rfl
  | tail _ hw ih =>
      cases hw with
      | memory m => exact ih
      | commit m d hd =>
          rw [World.moments_commit, through_append, ih, track_same]
          rw [hd, ← ih, through_moments]

/-- At moments the clock reads `c`, a stay goes on or begins at `c`. -/
theorem Stay.through_clock {c : DateTime}
    (hclock : ∀ d ∈ ms, ex.clock d.venue = c) :
    y.through ex runId iid ms = y ∨ (y.through ex runId iid ms).since = c := by
  induction ms generalizing y with
  | nil => exact Or.inl rfl
  | cons d ms ih =>
      have hrest := ih (y := y.track ex runId iid d)
        fun d' hd' => hclock d' (List.mem_cons_of_mem _ hd')
      show (y.track ex runId iid d).through ex runId iid ms = y ∨
        ((y.track ex runId iid d).through ex runId iid ms).since = c
      by_cases h : d.rowState runId iid = y.state
      · rw [Stay.track_same h] at hrest ⊢
        exact hrest
      · refine Or.inr ?_
        rcases hrest with hsame | hnew
        · rw [hsame, Stay.track, if_neg h]
          exact hclock d (List.mem_cons_self ..)
        · exact hnew

end Stays

/-- The router's row is in its state, and if it waits, it knows since when: no
later than its row entered the state. -/
structure Clocked (ex : Executor V) (y : Stay)
    (w : World (Durable V) (InstrumentRouter S)) : Prop where
  linked : Linked w
  since : w.mem.state.pending = true → ∃ since,
    w.mem.pendingSince = some since ∧
      since ≤ (y.through ex w.mem.runId w.mem.instrumentId w.moments).since

/-- The snapshot's position has a stop, or the venue takes one for it, or
refuses it as shadow mode does. -/
def Placeable (ex : Executor V) (snap : AccountSnapshot)
    (r : InstrumentRouter S) (v : V) : Prop :=
  ∀ pos, held snap r.instrumentId = some pos →
    snap.stop r.instrumentId = none → 0 < pos.entryPrice ∧
      ∀ e, (ex.placeStop pos.instrumentId
          (stopPrice (decide (0 < pos.size)) pos.entryPrice r.limits)
          v).1 = .error e →
        e.kind = .shadowRefused

/-! ## What leaves the timer alone -/

section Router

variable {w w' : World (Durable V) (InstrumentRouter S)}
  {snap : AccountSnapshot}

/-- Whatever a router's stay, it stays clocked. -/
def Clocks (ex : Executor V) (w w' : World (Durable V) (InstrumentRouter S)) :
    Prop :=
  ∀ y, Clocked ex y w → Clocked ex y w'

instance : Std.Refl (Clocks (V := V) (S := S) ex) := ⟨fun _ _ h => h⟩

instance : IsTrans (World (Durable V) (InstrumentRouter S)) (Clocks ex) :=
  ⟨fun _ _ _ h h' y hy => h' y (h y hy)⟩

theorem Moves.linked {g : State → State → Prop} (h : Moves ex g w w')
    (hw : Linked w) : Linked w' := by
  induction h with
  | refl => exact hw
  | tail _ hc ih => exact hc.linked ih

/-- A router that comes to wait for nothing. -/
theorem Clocks.of_moves {g : State → State → Prop} (h : Moves ex g w w')
    (hst : w'.mem.state.pending = false) : Clocks ex w w' := by
  intro y hy
  refine ⟨h.linked hy.linked, fun hp => ?_⟩
  rw [hst] at hp
  cases hp

theorem commit_clocks {d : Durable V}
    (hrow : Linked w → d.rowState w.mem.runId w.mem.instrumentId =
      w.disk.rowState w.mem.runId w.mem.instrumentId) :
    Clocks ex w { w with disk := d, past := w.past ++ [w.disk] } := by
  intro y hy
  have hsame := hrow hy.linked
  refine ⟨hsame.trans hy.linked, fun hp => ?_⟩
  obtain ⟨since, hsince, hle⟩ := hy.since hp
  refine ⟨since, hsince, ?_⟩
  rw [World.moments_commit, Stay.through_append, Stay.track_same]
  · exact hle
  · rw [hsame, Stay.through_moments]

theorem memory_clocks {f : InstrumentRouter S → InstrumentRouter S}
    (h : ((f w.mem).runId, (f w.mem).instrumentId, (f w.mem).state,
        (f w.mem).pendingSince) =
      (w.mem.runId, w.mem.instrumentId, w.mem.state, w.mem.pendingSince)) :
    (Prog.modifyMem f : Act V (InstrumentRouter S) Unit).Steps
      (Clocks ex) w := by
  simp only [Prod.mk.injEq] at h
  obtain ⟨hrun, hiid, hst, hsince⟩ := h
  intro y hy
  show Clocked ex y { w with mem := f w.mem }
  refine ⟨?_, fun hp => ?_⟩
  · show w.disk.rowState (f w.mem).runId (f w.mem).instrumentId =
      some (f w.mem).state
    rw [hrun, hiid, hst]
    exact hy.linked
  · dsimp only at hp ⊢
    rw [hst] at hp
    rw [hrun, hiid, hsince]
    exact hy.since hp

theorem persist_clocks : (persist ex).Steps (Clocks (S := S) ex) w :=
  commit_clocks fun hl =>
    (rowState_upsert_self (w.mem.localRow (ex.clock w.disk.venue))).trans
      hl.symm

theorem setState_clocks {st : State} (hst : st.pending = false) :
    (setState ex st).Steps (Clocks (S := S) ex) w := by
  have hm : (setState ex st).Steps (Moves ex fun _ _ => True) w :=
    setState_moves trivial
  exact Clocks.of_moves hm hst

theorem alert_clocks {level : Level} {kind : String}
    {detail : List (String × String)} :
    (alert ex level kind detail).Steps (Clocks (S := S) ex) w :=
  commit_clocks fun _ => rfl

theorem emit_clocks {runId : String} {a : Alert} :
    (emit runId a : Act V (InstrumentRouter S) Unit).Steps (Clocks ex) w :=
  commit_clocks fun _ => rfl

theorem call_clocks {f : V → Except Exc α × V} :
    (call f : Act V (InstrumentRouter S) α).Steps (Clocks ex) w :=
  commit_clocks fun _ => rfl

theorem updateOrder_clocks {cid : ClientOrderId} {skip : Bool}
    {changes : OrderRow → OrderRow} :
    (updateOrder ex cid skip changes).Steps (Clocks (S := S) ex) w := by
  unfold updateOrder
  refine Prog.Steps.disk_bind ?_
  split
  · exact Prog.Steps.pure
  split
  · exact Prog.Steps.pure
  · exact commit_clocks fun _ => rfl

theorem record_clocks {target : Option Decimal}
    {verdicts : List (String × String)} {intent : Option Intent}
    {cid : Option ClientOrderId} {text : String} :
    (record ex target verdicts intent cid text).Steps
      (Clocks (S := S) ex) w := by
  have hmem : Clocks ex w
      { w with mem := { w.mem with dseq := w.mem.dseq + 1 } } :=
    memory_clocks (f := fun r => { r with dseq := r.dseq + 1 }) rfl
  unfold Prog.Steps
  rcases record_cases ex target verdicts intent cid text w with h | ⟨h, -⟩
  · rw [h]
    refine trans_of _ hmem (commit_clocks ?_)
    intro _
    rfl
  · rw [h]
    refine trans_of _ hmem (commit_clocks ?_)
    intro _
    rfl

theorem replaceStop_clocks :
    (replaceStop ex).Steps (Clocks (S := S) ex) w := by
  unfold replaceStop
  refine Prog.Steps.mem_bind ?_
  split
  · exact Prog.Steps.pure
  split
  · exact Prog.Steps.pure
  refine Prog.Steps.catching ?_ fun e => ?_
  · refine Prog.Steps.bind call_clocks fun _ => ?_
    refine Prog.Steps.bind (memory_clocks rfl) fun _ => ?_
    exact Prog.Steps.bind persist_clocks fun _ => alert_clocks
  · split
    · refine Prog.Steps.bind (memory_clocks rfl) fun _ => ?_
      exact Prog.Steps.bind persist_clocks fun _ => alert_clocks
    · exact Prog.Steps.raise

theorem settleState_clocks :
    (settleState ex).Steps (Clocks (S := S) ex) w := by
  unfold settleState
  refine Prog.Steps.mem_bind ?_
  split
  · exact Prog.Steps.pure
  · refine setState_clocks ?_
    split <;> rfl

theorem halt_clocks {reason : String} :
    (halt ex reason).Steps (Clocks (S := S) ex) w := by
  unfold halt
  refine Prog.Steps.mem_bind ?_
  split
  · exact Prog.Steps.pure
  refine Prog.Steps.bind alert_clocks fun _ => ?_
  exact Prog.Steps.bind (memory_clocks rfl) fun _ => setState_clocks rfl

theorem submitAttempt_clocks {attempt : ℕ} {req : OrderRequest}
    {sizeBefore : Decimal}
    {otherwise : Act V (InstrumentRouter S) (Option OrderAck)}
    (h : ∀ w', otherwise.Steps (Clocks ex) w') :
    (submitAttempt ex attempt req sizeBefore otherwise).Steps
      (Clocks ex) w := by
  unfold submitAttempt
  have hsubmit : (callSubmit ex req w.mem.dseq : Act V _ OrderAck).Steps
      (Clocks (S := S) ex) w := commit_clocks fun _ => rfl
  refine Prog.Steps.catching ?_ fun e => ?_
  · refine Prog.Steps.mem_bind ?_
    exact Prog.Steps.bind hsubmit fun _ => Prog.Steps.pure
  split
  · refine Prog.Steps.bind call_clocks fun snap => ?_
    split
    · refine Prog.Steps.bind alert_clocks fun _ => ?_
      exact clock_bind Prog.Steps.pure
    · exact h _
  · exact Prog.Steps.raise

theorem submitWithRecovery_clocks {req : OrderRequest}
    {sizeBefore : Decimal} :
    (submitWithRecovery ex req sizeBefore).Steps (Clocks (S := S) ex) w := by
  refine submitAttempt_clocks fun w' => ?_
  refine Prog.Steps.bind alert_clocks fun _ => ?_
  exact submitAttempt_clocks fun _ => Prog.Steps.pure

/-! ## Adoption -/

/-- What an adoption takes of the snapshot, and the venue it leaves. -/
structure TakenOver (ex : Executor V) (snap : AccountSnapshot)
    (w w' : World (Durable V) (InstrumentRouter S)) : Prop where
  instrumentId : w'.mem.instrumentId = w.mem.instrumentId
  state : w'.mem.state = w.mem.state
  size : w'.mem.size =
    ((held snap w.mem.instrumentId).map PositionView.size).getD 0
  entry : w'.mem.entry =
    (held snap w.mem.instrumentId).map PositionView.entryPrice
  venue : w'.disk.venue = guarded ex w.mem.instrumentId
    (stopDue snap w.mem.instrumentId w.mem.limits) w.disk.venue

/-- An adoption whose stop can be placed returns. -/
theorem adopt_returns (h : Placeable ex snap w.mem w.disk.venue) :
    Prog.wp (adopt ex snap) (fun _ w' => TakenOver ex snap w w')
      (fun _ _ => False) w := by
  unfold adopt
  rw [Prog.wp_bind, Prog.wp_modifyMem, Prog.wp_bind, Prog.wp_mem]
  cases hheld : held snap w.mem.instrumentId with
  | none =>
      have hview : (snap.position w.mem.instrumentId).filter (·.size ≠ 0) =
          none := hheld
      dsimp only
      rw [hview]
      have hdue : stopDue snap w.mem.instrumentId w.mem.limits = none := by
        rw [stopDue, hheld]
        rfl
      refine ⟨rfl, rfl, ?_, ?_, ?_⟩
      · rw [hheld]
        rfl
      · rw [hheld]
        rfl
      · rw [hdue]
        rfl
  | some pos =>
      have hview : (snap.position w.mem.instrumentId).filter (·.size ≠ 0) =
          some pos := hheld
      dsimp only
      rw [hview]
      have hid := (held_instrument hheld).1
      have hsize : pos.size =
          ((held snap w.mem.instrumentId).map PositionView.size).getD 0 := by
        rw [hheld]
        rfl
      have hentry : some pos.entryPrice =
          (held snap w.mem.instrumentId).map PositionView.entryPrice := by
        rw [hheld]
        rfl
      dsimp only
      rw [Prog.wp_bind, Prog.wp_modifyMem, Prog.wp_bind, adoptStop,
        Prog.wp_bind, Prog.wp_mem]
      dsimp only
      cases hstop : snap.stop w.mem.instrumentId with
      | some trigger =>
          have hdue : stopDue snap w.mem.instrumentId w.mem.limits =
              none := by
            simp [stopDue, hheld, hstop]
          refine ⟨rfl, rfl, hsize, hentry, ?_⟩
          rw [hdue]
          rfl
      | none =>
          obtain ⟨hprice, hplace⟩ := h pos hheld hstop
          have hdue : stopDue snap w.mem.instrumentId w.mem.limits =
              some (stopPrice (decide (0 < pos.size)) pos.entryPrice
                w.mem.limits) := by
            simp [stopDue, hheld, hstop]
          have hvenue : guarded ex w.mem.instrumentId
              (stopDue snap w.mem.instrumentId w.mem.limits) w.disk.venue =
                (ex.placeStop pos.instrumentId (stopPrice
                  (decide (0 < pos.size)) pos.entryPrice w.mem.limits)
                    w.disk.venue).2 := by
            rw [hdue, hid]
            rfl
          dsimp only
          rw [Prog.wp_catching, Prog.wp_bind, placeExchangeStop,
            if_neg (not_le.mpr hprice), Prog.wp_bind]
          rcases call_cases (ex.placeStop pos.instrumentId
              (stopPrice (decide (0 < pos.size)) pos.entryPrice
                w.mem.limits))
            { w with mem := { w.mem with
                pendingCid := none, pendingSince := none, size := pos.size
                entry := some pos.entryPrice
                cumulativeFunding := pos.cumulativeFunding } } with
            ⟨a, -, hc⟩ | ⟨e, hc⟩
          · rw [Prog.wp_of_ok hc]
            exact ⟨rfl, rfl, hsize, hentry, hvenue.symm⟩
          · have herr : e.kind = .shadowRefused :=
              hplace e (congrArg Prod.fst hc)
            rw [Prog.wp_of_error hc, if_pos herr]
            exact ⟨rfl, rfl, hsize, hentry, hvenue.symm⟩

theorem adopt_settled (hst : w.mem.state.pending = false) :
    (adopt ex snap).Steps (Clocks (S := S) ex) w := by
  have hm : (adopt ex snap).Steps (Moves ex idle) w := adopt_moves
  refine Clocks.of_moves hm ?_
  rw [Moves.state_idle hm]
  exact hst

/-- The end of `_adopt_and_settle`: the venue stop of a position that is gone,
and the strategy's hook. -/
def afterSettling (ex : Executor V) : Act V (InstrumentRouter S) Unit := do
  let r ← Prog.mem
  if r.size = 0 then do
    call (ex.cancelStop r.instrumentId)
    flattenStrategy
  else recoverStrategy

theorem adoptAndSettle_eq :
    (adoptAndSettle ex snap : Act V (InstrumentRouter S) Unit) =
      (adopt ex snap >>= fun _ => settleState ex) >>= fun _ =>
        afterSettling ex := by
  rw [Prog.bind_assoc]
  rfl

theorem afterSettling_clocks :
    (afterSettling ex).Steps (Clocks (S := S) ex) w := by
  unfold afterSettling
  refine Prog.Steps.mem_bind ?_
  split
  · exact Prog.Steps.bind call_clocks fun _ => memory_clocks rfl
  · exact memory_clocks rfl

/-- An adoption that leaves a pending state for what the size says, also when
the stop of a position that is gone cannot be cancelled. -/
theorem adoptAndSettle_clocks
    (h : w.mem.state.pending = true →
      Placeable ex snap w.mem w.disk.venue) :
    (adoptAndSettle ex snap).Steps (Clocks (S := S) ex) w := by
  rw [adoptAndSettle_eq]
  refine Prog.Steps.bind ?_ fun _ => afterSettling_clocks
  cases hst : w.mem.state.pending with
  | false => exact Prog.Steps.bind (adopt_settled hst) fun _ => settleState_clocks
  | true =>
      have hadopt : Prog.wp (adopt ex snap) _ _ w := adopt_returns (h hst)
      obtain ⟨⟨⟩, w₁, hret, hst₁⟩ := Prog.wp_returns hadopt fun _ _ hf => hf
      have hmoves : (adopt ex snap).Steps (Moves ex firm) w := adopt_moves
      have hsettle : (settleState ex).Steps (Moves ex firm) w₁ :=
        settleState_moves
      have hfrozen : ¬ w₁.mem.state.frozen = true := by
        rw [hst₁.state]
        exact pending_not_frozen hst
      -- the state entered is no pending one, so the forgotten time is no loss
      unfold Prog.Steps at hmoves ⊢
      rw [hret] at hmoves
      rw [Prog.bind_of_ok hret]
      refine Clocks.of_moves (trans_of _ hmoves hsettle) ?_
      rw [settleState, Prog.mem_bind_apply, if_neg hfrozen]
      show State.pending (if w₁.mem.size ≠ 0 then .opened else .flat) = false
      split <;> rfl

theorem checkPending_clocks
    (h : w.mem.Expired (ex.clock w.disk.venue) →
      Placeable ex snap w.mem w.disk.venue) :
    (checkPending ex snap).Steps (Clocks (S := S) ex) w := by
  by_cases hlate : w.mem.Expired (ex.clock w.disk.venue)
  swap
  · unfold Prog.Steps
    rw [checkPending_waits hlate]
    exact refl_of _ w
  have hplace := h hlate
  unfold checkPending
  refine Prog.Steps.mem_bind (clock_bind ?_)
  split
  · exact Prog.Steps.pure
  split
  · exact Prog.Steps.pure
  split
  · exact Prog.Steps.pure
  refine Prog.Steps.bind alert_clocks fun _ => ?_
  dsimp only
  split
  · exact adoptAndSettle_clocks fun _ => hplace
  · refine Prog.Steps.bind updateOrder_clocks fun _ => ?_
    refine adoptAndSettle_clocks fun _ => ?_
    rw [updateOrder_eq, updated_mem, updated_venue]
    exact hplace

/-! ## Sending -/

theorem halt_settles {reason : String} :
    (halt ex reason w).2.mem.state.pending = false := by
  unfold halt
  rw [Prog.mem_bind_apply]
  split
  · next h =>
    show w.mem.state.pending = false
    revert h
    cases w.mem.state <;> simp [State.frozen, State.pending]
  · rfl

theorem submitFailed_clocks {cid : ClientOrderId} {e : Exc} :
    (submitFailed ex cid e).Steps (Clocks (S := S) ex) w := by
  unfold submitFailed
  refine Prog.Steps.bind updateOrder_clocks fun _ => ?_
  refine Prog.Steps.bind alert_clocks fun _ => ?_
  refine Prog.Steps.bind halt_clocks fun _ => ?_
  exact Prog.Steps.bind call_clocks fun _ => adopt_settled halt_settles

theorem acknowledge_clocks {cid : ClientOrderId} {prior : State}
    {intent : Intent} {ack : Option OrderAck} (h : prior.pending = false) :
    (acknowledge ex cid prior intent ack).Steps (Clocks (S := S) ex) w := by
  unfold acknowledge
  split
  · exact Prog.Steps.bind updateOrder_clocks fun _ => halt_clocks
  split
  · refine Prog.Steps.bind updateOrder_clocks fun _ => ?_
    refine Prog.Steps.bind alert_clocks fun _ => ?_
    exact Prog.Steps.bind (memory_clocks rfl) fun _ => setState_clocks h
  · exact updateOrder_clocks

/-- A router that waits for nothing announces its order and the time at once:
the row enters the state when the clock reads what is in memory. -/
theorem announce_clocks {intent : Intent} {target : Option Decimal}
    {verdicts : List (String × String)} (h : w.mem.state.pending = false) :
    (announce ex intent target verdicts).Steps (Clocks (S := S) ex) w := by
  unfold Prog.Steps
  rcases announce_cases ex intent target verdicts w with hok | ⟨herr, -⟩
  swap
  · rw [herr]
    have hm : Clocks ex w { w with mem := numbered w.mem } :=
      memory_clocks (f := numbered) rfl
    refine trans_of _ hm (commit_clocks ?_)
    intro _
    rfl
  rw [hok]
  intro y hy
  have hrow := rowState_upsert_self
    (d := { w.disk with db := announcedDb ex intent target verdicts w })
    ((waiting w.mem intent (ex.clock w.disk.venue)).localRow
      (ex.clock w.disk.venue))
  refine ⟨hrow, fun _ => ⟨ex.clock w.disk.venue, rfl, ?_⟩⟩
  have hnew : ¬ (some intent.waiting : Option State) =
      (y.through ex w.mem.runId w.mem.instrumentId
        (announcedWorld ex intent target verdicts w).past).state := by
    show ¬ _ = (y.through ex _ _ (_ ++ [_])).state
    rw [Stay.through_append, Stay.track_state]
    intro heq
    have hsame : (some intent.waiting : Option State) = some w.mem.state :=
      heq.trans hy.linked
    have hwait : intent.waiting.pending = true := by
      unfold Intent.waiting
      split <;> rfl
    rw [Option.some.inj hsame, h] at hwait
    cases hwait
  rw [World.moments, Stay.through_append, Stay.track]
  rw [if_neg (hrow.symm ▸ hnew)]
  exact le_refl _

theorem send_clocks {intent : Intent} {target : Option Decimal}
    {verdicts : List (String × String)} (h : w.mem.state.pending = false) :
    (send ex intent target verdicts).Steps (Clocks (S := S) ex) w := by
  unfold send
  refine Prog.Steps.mem_bind ?_
  refine Prog.Steps.bind (announce_clocks h) fun req => ?_
  refine Prog.Steps.bind submitWithRecovery_clocks.attempt fun result => ?_
  split
  · exact submitFailed_clocks
  · exact acknowledge_clocks h

theorem exit_clocks {mark size : Decimal} {reason : String}
    {target : Option Decimal} (h : w.mem.state.pending = false) :
    (exit ex mark reason target size).Steps (Clocks (S := S) ex) w :=
  Prog.Steps.mem_bind (send_clocks h)

theorem shutdown_clocks {mark : Decimal} {exchangeSize : Option Decimal} :
    (shutdown ex mark exchangeSize).Steps (Clocks (S := S) ex) w := by
  have hrest : ∀ w₁ : World (Durable V) (InstrumentRouter S), (do
      if w.mem.state = .halted then pure ()
        else alert ex .critical "kill_switch" [("action", "shutdown")]
      setState ex .halted : Act V (InstrumentRouter S) Unit).Steps
        (Clocks ex) w₁ := by
    intro w₁
    split
    · exact setState_clocks rfl
    · exact Prog.Steps.bind alert_clocks fun _ => setState_clocks rfl
  unfold shutdown
  refine Prog.Steps.mem_bind ?_
  dsimp only
  split
  · exact Prog.Steps.pure
  split
  · next h =>
    refine Prog.Steps.bind (exit_clocks ?_) fun _ => hrest _
    rcases h.2 with h | h | h
    all_goals
      rw [h]
      rfl
  · exact hrest _

/-! ## The bar, the tick and the events -/

theorem enter_clocks {mark target : Decimal} {kill : KillAction}
    {pending : List Intent} (h : w.mem.state.pending = false) :
    (enter ex mark target snap kill pending).Steps
      (Clocks (S := S) ex) w := by
  unfold enter
  split
  · exact record_clocks
  refine Prog.Steps.mem_bind ?_
  refine Prog.Steps.bind Prog.Steps.ofExcept fun perContract => ?_
  refine Prog.Steps.bind Prog.Steps.ofExcept fun entryVerdict => ?_
  refine Prog.Steps.bind Prog.Steps.ofExcept fun exposureVerdict => ?_
  refine Prog.Steps.bind Prog.Steps.ofExcept fun merged => ?_
  split
  split
  · exact record_clocks
  · exact send_clocks h

theorem holdOrExit_clocks {mark target : Decimal}
    (h : w.mem.state.pending = false) :
    (holdOrExit ex mark target).Steps (Clocks (S := S) ex) w := by
  unfold holdOrExit
  refine Prog.Steps.mem_bind ?_
  dsimp only
  split
  · exact exit_clocks h
  · exact record_clocks

theorem onBar_clocks {history : List Bar} {kill : KillAction}
    {pending : List Intent} :
    (onBar ex history snap kill pending).Steps (Clocks (S := S) ex) w := by
  unfold onBar
  refine Prog.Steps.mem_bind ?_
  split
  · exact record_clocks
  next hactive =>
  have hst : w.mem.state.pending = false := by
    simp only [Bool.or_eq_true, not_or] at hactive
    exact Bool.not_eq_true _ ▸ hactive.2
  split
  · exact Prog.Steps.raise
  split
  · exact record_clocks
  split
  · exact shutdown_clocks
  split
  · split
    · exact exit_clocks hst
    · exact record_clocks
  split
  · exact record_clocks
  have hasked : (askTarget history : Act V _ Decimal).Steps
      (Moves ex idle) w := askTarget_moves
  have hst' : (askTarget history w).2.mem.state.pending = false := by
    rw [Moves.state_idle hasked]
    exact hst
  refine Prog.Steps.bind ?_ fun target => ?_
  · exact Prog.Steps.mem_bind
      (Prog.Steps.bind (memory_clocks rfl) fun _ => Prog.Steps.pure)
  split
  · exact enter_clocks hst'
  · exact holdOrExit_clocks hst'

theorem watchMargin_clocks {pos : PositionView} {mark : Decimal} :
    (watchMargin ex pos mark).Steps (Clocks (S := S) ex) w := by
  unfold watchMargin
  split
  · exact Prog.Steps.pure
  refine Prog.Steps.bind Prog.Steps.ofExcept fun distance => ?_
  refine Prog.Steps.mem_bind (clock_bind ?_)
  dsimp only
  split
  · split
    · exact Prog.Steps.bind emit_clocks fun _ => memory_clocks rfl
    · exact memory_clocks rfl
  · exact memory_clocks rfl

theorem onFast_clocks {mark : Decimal} :
    (onFast ex mark snap).Steps (Clocks (S := S) ex) w := by
  unfold onFast
  refine Prog.Steps.mem_bind ?_
  split
  · exact Prog.Steps.pure
  next hopen =>
  split
  · exact Prog.Steps.bind alert_clocks fun _ => setState_clocks rfl
  split
  · exact Prog.Steps.pure
  next pos _ =>
  have hwatch : (watchMargin ex pos mark).Steps (Moves ex idle) w :=
    watchMargin_moves
  have hst : (watchMargin ex pos mark w).2.mem.state.pending = false := by
    rw [Moves.state_idle hwatch, not_not.mp hopen]
    rfl
  refine Prog.Steps.bind watchMargin_clocks fun _ => ?_
  refine Prog.Steps.bind Prog.Steps.ofExcept fun flatten => ?_
  split
  · exact exit_clocks hst
  split
  · exact exit_clocks hst
  · exact Prog.Steps.pure

theorem handleOrderUpdate_clocks {ev : OrderUpdate} :
    (handleOrderUpdate ex ev).Steps (Clocks (S := S) ex) w := by
  unfold handleOrderUpdate
  refine Prog.Steps.mem_bind ?_
  split
  · refine Prog.Steps.bind updateOrder_clocks fun _ => ?_
    refine Prog.Steps.bind alert_clocks fun _ => ?_
    exact Prog.Steps.bind (memory_clocks rfl) fun _ => settleState_clocks
  refine Prog.Steps.disk_bind ?_
  split
  · exact Prog.Steps.pure
  split
  · exact Prog.Steps.pure
  · exact updateOrder_clocks

theorem fillFlattened_clocks {ev : FillUpdate} {ours : Bool} :
    (fillFlattened ex ev ours).Steps (Clocks (S := S) ex) w := by
  unfold fillFlattened
  refine Prog.Steps.mem_bind ?_
  refine Prog.Steps.bind (memory_clocks rfl) fun _ => ?_
  refine Prog.Steps.bind call_clocks fun _ => ?_
  have htail : ∀ (c : Prop) [Decidable c]
      (w₁ : World (Durable V) (InstrumentRouter S)),
      (flattenStrategy >>= fun _ => if c then
        alert ex .warn "stop_fired"
          [("price", Decimal.str ev.price),
            ("quantity", Decimal.str ev.quantity)]
        else pure ()).Steps (Clocks ex) w₁ := by
    intro c _ w₁
    refine Prog.Steps.bind (memory_clocks rfl) fun _ => ?_
    split
    · exact alert_clocks
    · exact Prog.Steps.pure
  dsimp only
  split
  · exact Prog.Steps.bind persist_clocks fun _ => htail _ _
  · exact Prog.Steps.bind (setState_clocks rfl) fun _ => htail _ _

theorem afterFill_clocks {sizeBefore : Decimal} {ours : Bool}
    {ev : FillUpdate} :
    (afterFill ex sizeBefore ours ev).Steps (Clocks (S := S) ex) w := by
  unfold afterFill
  refine Prog.Steps.mem_bind ?_
  split
  · refine Prog.Steps.bind (memory_clocks rfl) fun _ => ?_
    exact Prog.Steps.bind (setState_clocks rfl) fun _ => replaceStop_clocks
  split
  · exact fillFlattened_clocks
  split
  · exact Prog.Steps.bind alert_clocks fun _ => replaceStop_clocks
  split
  · exact Prog.Steps.pure
  refine Prog.Steps.bind alert_clocks fun _ => ?_
  split
  · exact Prog.Steps.bind (setState_clocks rfl) fun _ => replaceStop_clocks
  · exact Prog.Steps.pure

theorem countFill_clocks {row : Option OrderRow} {ev : FillUpdate} :
    (countFill ex row ev).Steps (Clocks (S := S) ex) w := by
  unfold countFill
  refine Prog.Steps.mem_bind ?_
  refine Prog.Steps.bind ?_ fun _ => ?_
  · exact Prog.Steps.bind (memory_clocks rfl) fun _ => persist_clocks
  refine Prog.Steps.bind ?_ fun _ => afterFill_clocks
  unfold recordOurs
  split
  · exact Prog.Steps.pure
  · unfold recordFill
    exact Prog.Steps.bind Prog.Steps.ofExcept fun _ => updateOrder_clocks

theorem lateFill_clocks {row : OrderRow} {ev : FillUpdate}
    (h : w.mem.state.pending = true →
      ∀ snap, (ex.snapshot w.disk.venue).1 = .ok snap →
        Placeable ex snap w.mem (ex.snapshot w.disk.venue).2) :
    (lateFill ex row ev).Steps (Clocks (S := S) ex) w := by
  have hadopt : ∀ w₁ : World (Durable V) (InstrumentRouter S),
      w₁.mem = w.mem → w₁.disk.venue = w.disk.venue →
      (call ex.snapshot >>= fun snap => adoptAndSettle ex snap).Steps
        (Clocks ex) w₁ := by
    intro w₁ hmem hvenue
    rcases call_cases ex.snapshot w₁ with ⟨snap, hok, hcall⟩ | ⟨e, hcall⟩
    · refine Prog.Steps.bind_ok hcall call_clocks ?_
      refine adoptAndSettle_clocks fun hp => ?_
      show Placeable ex snap w₁.mem (ex.snapshot w₁.disk.venue).2
      rw [hvenue] at hok ⊢
      rw [hmem]
      refine h ?_ snap hok
      rw [← hmem]
      exact hp
    · exact Prog.Steps.bind_error hcall call_clocks
  unfold lateFill
  refine Prog.Steps.mem_bind ?_
  refine Prog.Steps.bind alert_clocks fun _ => ?_
  refine Prog.Steps.bind updateOrder_clocks fun _ => hadopt _ ?_ ?_
  · rw [updateOrder_mem]
    rfl
  · rw [updateOrder_eq, updated_venue]
    rfl

/-- A fill; the late one of another order adopts the exchange's position. -/
theorem handleFill_clocks {ev : FillUpdate}
    (h : Late ev w.disk.db w.mem → w.mem.state.pending = true →
      ∀ snap, (ex.snapshot w.disk.venue).1 = .ok snap →
        Placeable ex snap w.mem (ex.snapshot w.disk.venue).2) :
    (handleFill ex ev).Steps (Clocks (S := S) ex) w := by
  unfold handleFill
  refine Prog.Steps.mem_bind ?_
  split
  · exact Prog.Steps.pure
  refine Prog.Steps.disk_bind ?_
  split
  · exact countFill_clocks
  next row hrow =>
  split
  swap
  · exact countFill_clocks
  next hlate => exact lateFill_clocks (h ⟨row, hrow, hlate⟩)

theorem clearHalt_clocks :
    (clearHalt ex).Steps (Clocks (S := S) ex) w := by
  refine Prog.Steps.mem_bind (setState_clocks ?_)
  split <;> rfl

end Router

/-! ## The portfolio -/

section Rows

variable {runId : String} {iid : InstrumentId} {g : State → State → Prop}
  {w w' : World (Durable V) (InstrumentRouter S)}

/-- Changes of another instrument's router leave the row at every moment. -/
theorem Change.rows_other (h : Change ex g w w')
    (hi : iid ≠ w.mem.instrumentId) :
    World.Along (fun d d' => d'.rowState runId iid = d.rowState runId iid)
      w w' := by
  cases h with
  | memory r' h => exact .memory r'
  | persist now => exact .commit _ _ (rowState_upsert_ne hi)
  | enter st now h => exact .commit _ _ (rowState_upsert_ne hi)
  | alert a => exact .commit _ _ rfl
  | note target verdicts text =>
      rcases record_cases ex target verdicts none none text w with
        hok | ⟨herr, -⟩
      · rw [hok]; exact .commit _ _ rfl
      · rw [herr]; exact .commit _ _ rfl
  | order o o' h h' => exact .commit _ _ rfl
  | venue v => exact .commit _ _ rfl
  | announce intent target verdicts h =>
      rcases announce_cases ex intent target verdicts w with hok | ⟨herr, -⟩
      · rw [hok]
        exact announcedWorld_along rfl rfl rfl rfl (rowState_upsert_ne hi)
      · rw [herr]; exact .commit _ _ rfl
  | submit req v h => exact .commit _ _ rfl

theorem Moves.rows_other (h : Moves ex g w w')
    (hi : iid ≠ w.mem.instrumentId) :
    World.Along (fun d d' => d'.rowState runId iid = d.rowState runId iid)
      w w' := by
  induction h with
  | refl => exact Relation.ReflTransGen.refl
  | tail hm hc ih =>
      refine Relation.ReflTransGen.trans ih (hc.rows_other ?_)
      rw [(Moves.identity hm).2]
      exact hi

/-- A router's method only commits. -/
theorem Moves.chain (h : Moves ex g w w') :
    World.Along (fun _ _ => True) w w' := by
  obtain ⟨iid, hi⟩ := exists_ne w.mem.instrumentId
  have hrows : World.Along (fun d d' => d'.rowState w.mem.runId iid =
    d.rowState w.mem.runId iid) w w' := h.rows_other hi
  exact hrows.mono fun _ _ _ => trivial

/-- A router whose row the commits of another left alone. -/
theorem Clocked.along {y : Stay} (h : Clocked ex y w) (hmem : w'.mem = w.mem)
    (halong : World.Along (fun d d' =>
      d'.rowState w.mem.runId w.mem.instrumentId =
        d.rowState w.mem.runId w.mem.instrumentId) w w') :
    Clocked ex y w' := by
  have hthrough : y.through ex w.mem.runId w.mem.instrumentId w'.moments =
      y.through ex w.mem.runId w.mem.instrumentId w.moments :=
    Stay.through_along halong
  refine ⟨?_, fun hp => ?_⟩
  · have hrow : w'.disk.rowState w.mem.runId w.mem.instrumentId =
        w.disk.rowState w.mem.runId w.mem.instrumentId := by
      have hstate := congrArg Stay.state hthrough
      rw [Stay.through_moments, Stay.through_moments] at hstate
      exact hstate
    unfold Linked
    rw [hmem, hrow]
    exact h.linked
  · rw [hmem, hthrough]
    rw [hmem] at hp
    exact h.since hp

end Rows

namespace Portfolio

variable {iid : InstrumentId} {w w' : World (Durable V) (Portfolio S)}
  {snap : AccountSnapshot}

/-- The routers stay the instruments', and one of them clocked. -/
structure Timed (ex : Executor V) (iid : InstrumentId)
    (w w' : World (Durable V) (Portfolio S)) : Prop where
  ids : w'.mem.ids = w.mem.ids
  names : ∀ j, (w'.mem.router j).instrumentId = (w.mem.router j).instrumentId
  runs : ∀ j, (w'.mem.router j).runId = (w.mem.router j).runId
  chain : World.Along (fun _ _ => True) w w'
  clocks : (∀ j ∈ w.mem.ids, (w.mem.router j).instrumentId = j) →
    iid ∈ w.mem.ids → Clocks ex (seen w iid) (seen w' iid)

instance : Std.Refl (Timed (V := V) (S := S) ex iid) :=
  ⟨fun _ => ⟨rfl, fun _ => rfl, fun _ => rfl, refl_of _ _,
    fun _ _ => refl_of _ _⟩⟩

instance : IsTrans (World (Durable V) (Portfolio S)) (Timed ex iid) :=
  ⟨fun _ _ _ h h' =>
    { ids := h'.ids.trans h.ids
      names := fun j => (h'.names j).trans (h.names j)
      runs := fun j => (h'.runs j).trans (h.runs j)
      chain := trans_of _ h.chain h'.chain
      clocks := fun hn hid => by
        refine trans_of _ (h.clocks hn hid) (h'.clocks (fun j hj => ?_) ?_)
        · rw [h.names]
          rw [h.ids] at hj
          exact hn j hj
        · rw [h.ids]
          exact hid }⟩

/-- A router's method, which moves its own router, keeps the others clocked. -/
theorem onRouter_timed {g : State → State → Prop} {j : InstrumentId}
    {m : Act V (InstrumentRouter S) α} (hj : j ∈ w.mem.ids)
    (hmoves : m.Steps (Moves ex g) (seen w j))
    (hclocks : j = iid → m.Steps (Clocks ex) (seen w j)) :
    (onRouter j m).Steps (Timed ex iid) w := by
  show Timed ex iid w (putBack w j (m (seen w j)).2)
  unfold Prog.Steps at hmoves hclocks
  generalize (m (seen w j)).2 = r at hmoves hclocks
  refine ⟨rfl, fun k => ?_, fun k => ?_, hmoves.chain.remember _ _,
    fun hn hid => ?_⟩
  · by_cases hk : k = j
    · subst hk
      show ((w.mem.setRouter k r.mem).router k).instrumentId = _
      rw [setRouter_self]
      exact (Moves.identity hmoves).2
    · exact congrArg InstrumentRouter.instrumentId (setRouter_of_ne hk)
  · by_cases hk : k = j
    · subst hk
      show ((w.mem.setRouter k r.mem).router k).runId = _
      rw [setRouter_self]
      exact (Moves.identity hmoves).1
    · exact congrArg InstrumentRouter.runId (setRouter_of_ne hk)
  · by_cases hi : j = iid
    · subst hi
      rw [seen_putBack]
      exact hclocks rfl
    · have hne : iid ≠ (seen w j).mem.instrumentId := by
        show iid ≠ (w.mem.router j).instrumentId
        rw [hn j hj]
        exact Ne.symm hi
      have hiid : (seen w iid).mem.instrumentId = iid := hn iid hid
      have hrows : World.Along (fun d d' =>
          d'.rowState (seen w iid).mem.runId iid =
            d.rowState (seen w iid).mem.runId iid) (seen w j) r :=
        hmoves.rows_other hne
      intro y hy
      refine hy.along (setRouter_of_ne (Ne.symm hi)) ?_
      rw [hiid]
      exact hrows.remember _ _

/-- The portfolio's own doings. -/
theorem passive_timed : Passive ex (Timed (S := S) ex iid) where
  ids := fun h => h.ids
  alert := fun w runId a =>
    ⟨rfl, fun _ => rfl, fun _ => rfl, .commit _ _ trivial,
      fun _ _ => commit_clocks fun _ => rfl⟩
  venue := fun w v =>
    ⟨rfl, fun _ => rfl, fun _ => rfl, .commit _ _ trivial,
      fun _ _ => commit_clocks fun _ => rfl⟩
  pnl := fun w level =>
    ⟨rfl, fun _ => rfl, fun _ => rfl, .memory _, fun _ _ => refl_of _ _⟩
  refused := fun w ms =>
    ⟨rfl, fun _ => rfl, fun _ => rfl, .memory _, fun _ _ => refl_of _ _⟩
  guarded := fun w j trigger hj => by
    refine onRouter_timed hj (g := idle) ?_ fun _ => ?_
    · exact Prog.Steps.bind (memory_moves (.kept rfl)) fun _ => persist_moves
    · exact Prog.Steps.bind (memory_clocks rfl) fun _ => persist_clocks

theorem checkFunding_timed {histories : List (InstrumentId × List Bar)} :
    (checkFunding histories snap : Act V (Portfolio S) Unit).Steps
      (Timed ex iid) w := by
  have hseen : ∀ (w : World (Durable V) (Portfolio S))
      (kept : InstrumentId → Option Decimal),
      Timed ex iid w { w with mem := { w.mem with fundingSeen := kept } } :=
    fun w kept =>
      ⟨rfl, fun _ => rfl, fun _ => rfl, .memory _, fun _ _ => refl_of _ _⟩
  unfold checkFunding
  refine forEach_rule passive_timed fun entry _ w' _ => ?_
  obtain ⟨j, history⟩ := entry
  refine Prog.Steps.mem_bind ?_
  dsimp only
  split
  · refine Prog.Steps.bind (hseen _ _) fun _ => ?_
    split
    · exact Prog.Steps.pure
    split
    · exact Prog.Steps.pure
    split
    · exact Prog.Steps.pure
    · exact passive_timed.alert _ _ _
  · exact hseen _ _

/-! ### The pending loop -/

/-- The venue when a tick comes to the instrument's router. -/
def turnVenue (ex : Executor V) (iid : InstrumentId) (d : Durable V)
    (pf : Portfolio S) : V :=
  ((call ex.snapshot >>= fun snap =>
    turnsBefore ex iid snap pf.ids : Act V (Portfolio S) Unit)
      ⟨pf, d, []⟩).2.disk.venue

variable (ex snap) in
/-- The loop comes to the instrument's router once, after the turns before it
and before those of the rest. -/
theorem pendingLoop_split (hnodup : w.mem.ids.Nodup) (hid : iid ∈ w.mem.ids) :
    ∃ post : List InstrumentId, iid ∉ post ∧ (∀ j ∈ post, j ∈ w.mem.ids) ∧
      (forRouters fun j => onRouter j (checkPending ex snap)) w =
        (turnsBefore ex iid snap w.mem.ids >>= fun _ =>
          onRouter iid (checkPending ex snap) >>= fun _ =>
            Prog.forEach post fun j => onRouter j (checkPending ex snap)) w := by
  obtain ⟨pre, post, hsplit, hpre⟩ := List.eq_append_cons_of_mem hid
  have hpost : iid ∉ post := by
    rw [hsplit, List.nodup_append] at hnodup
    exact (List.nodup_cons.mp hnodup.2.1).1
  have hbefore : w.mem.ids.takeWhile (· ≠ iid) = pre := by
    rw [hsplit, takeWhile_ne hpre]
  refine ⟨post, hpost, fun j hj => ?_, ?_⟩
  · rw [hsplit]
    simp [hj]
  · rw [forRouters, Prog.mem_bind_apply, turnsBefore, hbefore, hsplit,
      Prog.forEach_append]
    rfl

/-- The turns of other routers. -/
theorem turns_timed {js : List InstrumentId} (hjs : iid ∉ js)
    (hmem : ∀ j ∈ js, j ∈ w.mem.ids) :
    (Prog.forEach js fun j => onRouter j (checkPending ex snap)).Steps
      (Timed (S := S) ex iid) w := by
  refine forEach_rule passive_timed fun j hj w' hids => ?_
  refine onRouter_timed ?_ checkPending_moves ?_
  · rw [hids]
    exact hmem j hj
  · rintro rfl
    exact (hjs hj).elim

theorem turnsBefore_other {ids : List InstrumentId} :
    iid ∉ ids.takeWhile (· ≠ iid) := by
  intro h
  have := List.mem_takeWhile_imp h
  simp at this

theorem pendingLoop_timed (hnodup : w.mem.ids.Nodup) (hid : iid ∈ w.mem.ids)
    (h : (w.mem.router iid).Expired (ex.clock
        (turnsBefore ex iid snap w.mem.ids w).2.disk.venue) →
      Placeable ex snap (w.mem.router iid)
        (turnsBefore ex iid snap w.mem.ids w).2.disk.venue) :
    (forRouters fun j => onRouter j (checkPending ex snap)).Steps
      (Timed (S := S) ex iid) w := by
  obtain ⟨post, hpost, hmem, heq⟩ := pendingLoop_split ex snap hnodup hid
  have hbefore : (turnsBefore ex iid snap w.mem.ids).Steps
      (Timed ex iid) w :=
    turns_timed turnsBefore_other fun j hj => (List.takeWhile_subset _) hj
  have hids : (turnsBefore ex iid snap w.mem.ids w).2.mem.ids = w.mem.ids :=
    Timed.ids hbefore
  unfold Prog.Steps
  rw [heq]
  have hother : Prog.wp (turnsBefore ex iid snap w.mem.ids) _ _ w :=
    turns_other turnsBefore_other ⟨rfl, rfl⟩
  cases hres : (turnsBefore ex iid snap w.mem.ids w).1 with
  | error e =>
      have hw : turnsBefore ex iid snap w.mem.ids w =
          (.error e, (turnsBefore ex iid snap w.mem.ids w).2) :=
        Prod.ext hres rfl
      exact Prog.Steps.bind_error hw hbefore
  | ok u =>
      have hw : turnsBefore ex iid snap w.mem.ids w =
          (.ok u, (turnsBefore ex iid snap w.mem.ids w).2) :=
        Prod.ext hres rfl
      obtain ⟨-, hr⟩ := Prog.wp_returned hother hres
      refine Prog.Steps.bind_ok hw hbefore ?_
      generalize (turnsBefore ex iid snap w.mem.ids w).2 = w₁ at h hids hr
      refine Prog.Steps.bind ?_ fun _ => ?_
      · refine onRouter_timed (by rw [hids]; exact hid) checkPending_moves
          fun _ => checkPending_clocks ?_
        show (w₁.mem.router iid).Expired _ → Placeable ex snap
          (w₁.mem.router iid) _
        rw [hr]
        exact h
      · refine turns_timed hpost fun j hj => ?_
        show j ∈ w₁.mem.ids
        rw [hids]
        exact hmem j hj

theorem call_ok {β μ : Type} {f : V → Except Exc β × V} {a : β}
    {w : World (Durable V) μ} (h : (f w.disk.venue).1 = .ok a) :
    call f w = (.ok a, called w (f w.disk.venue).2) := by
  rcases call_cases f w with ⟨b, hb, hc⟩ | ⟨e, hc⟩
  · rw [hc, ← Except.ok.inj (h.symm.trans hb)]
  · have he : (f w.disk.venue).1 = .error e := congrArg Prod.fst hc
    rw [h] at he
    cases he

/-! ### The operations -/

/-- Where the operation takes the exchange's position for a router that waits,
its stop can be placed: a router out of time at a tick, and one that is
delivered a late fill of another order. -/
def Op.Stoppable (ex : Executor V) (d : Durable V) (pf : Portfolio S) :
    Op → Prop
  | .onFast _ => ∀ snap, (ex.snapshot d.venue).1 = .ok snap →
      ∀ iid ∈ pf.ids,
        (pf.router iid).Expired (turnClock ex iid d pf) →
        Placeable ex snap (pf.router iid) (turnVenue ex iid d pf)
  | .dispatch (.fill ev) => ev.instrumentId ∈ pf.ids →
      Late ev d.db (pf.router ev.instrumentId) →
      (pf.router ev.instrumentId).state.pending = true →
      ∀ snap, (ex.snapshot d.venue).1 = .ok snap →
        Placeable ex snap (pf.router ev.instrumentId)
          (ex.snapshot d.venue).2
  | _ => True

/-- What an operation leaves of a clocked router. -/
theorem perform_timed {d : Durable V} {pf : Portfolio S} {op : Op}
    (hnodup : pf.ids.Nodup) (hid : iid ∈ pf.ids)
    (hop : op.Stoppable ex d pf) :
    (perform ex op).Steps (Timed ex iid) ⟨pf, d, []⟩ := by
  have hhalt : ∀ (w : World (Durable V) (Portfolio S)) (j : InstrumentId)
      (reason : String), j ∈ w.mem.ids →
      (onRouter j (halt ex reason)).Steps (Timed ex iid) w :=
    fun w j reason hj => onRouter_timed hj halt_moves fun _ => halt_clocks
  cases op with
  | onBar histories kill =>
      refine onBar_rule passive_timed (fun _ _ => checkFunding_timed)
        (fun w j mark size hj => ?_) fun w j history snap pending hj =>
          onRouter_timed hj onBar_moves fun _ => onBar_clocks
      obtain ⟨g, hg⟩ := shutdown_any ex (seen w j) mark size
      exact onRouter_timed hj hg fun _ => shutdown_clocks
  | onFast marks =>
      refine Prog.Steps.bind ?_ fun _ => Prog.Steps.pure
      refine onFast_rule passive_timed (fun snap hsnap => ?_)
        fun w j mark snap hj =>
          onRouter_timed hj onFast_moves fun _ => onFast_clocks
      refine pendingLoop_timed hnodup hid ?_
      have h := hop snap hsnap iid hid
      unfold turnClock turnVenue at h
      rw [Prog.bind_of_ok (call_ok hsnap)] at h
      exact h
  | reconcileNow =>
      exact Prog.Steps.bind (reconcile_rule passive_timed hhalt)
        fun _ => Prog.Steps.pure
  | dispatch ev =>
      cases ev with
      | reconcileNow =>
          exact Prog.Steps.bind (reconcile_rule passive_timed hhalt)
            fun _ => Prog.Steps.pure
      | order ev =>
          exact forRouters_rule passive_timed fun j w' hj =>
            onRouter_timed hj handleOrderUpdate_moves
              fun _ => handleOrderUpdate_clocks
      | fill ev =>
          refine Prog.Steps.mem_bind ?_
          split
          · next hj =>
            exact onRouter_timed hj handleFill_moves
              fun _ => handleFill_clocks (hop hj)
          · exact Prog.Steps.pure

end Portfolio

/-! ## Recovery -/

section Recovery

variable {iid : InstrumentId} {y : Stay} {snap : AccountSnapshot}
  {w w' : World (Durable V) (Recovery S)}

/-- One of the routers of a recovery, and its disk. -/
def recoveredRouter (w : World (Durable V) (Recovery S)) (iid : InstrumentId) :
    World (Durable V) (InstrumentRouter S) :=
  { mem := w.mem.pf.router iid, disk := w.disk, past := w.past }

/-- Up to the order loop no router waits; in it one waits from now on. -/
def Stage.Early (ex : Executor V) (y : Stay) (iid : InstrumentId)
    (w : World (Durable V) (Recovery S)) : Stage → Prop
  | .routers _ | .unknown _ => (w.mem.pf.router iid).state.pending = false
  | .orders _ => (w.mem.pf.router iid).state.pending = true →
      ex.clock w.disk.venue ≤ (y.through ex (w.mem.pf.router iid).runId
        (w.mem.pf.router iid).instrumentId w.moments).since
  | .foreign _ => True

/-- Where a recovery stands with one router. -/
structure Waking (ex : Executor V) (y : Stay) (iid : InstrumentId)
    (st : Stage) (w : World (Durable V) (Recovery S)) : Prop where
  names : ∀ j, (w.mem.pf.router j).instrumentId = j
  clocked : iid ∉ st.todo → Clocked ex y (recoveredRouter w iid)
  early : iid ∉ st.todo → st.Early ex y iid w

theorem SameTables.rowState {d d' : Durable V} (h : SameTables d d')
    {runId : String} : d'.rowState runId iid = d.rowState runId iid := by
  rw [Durable.rowState, Durable.rowState, h.positionLocal]

/-- What leaves the routers, and their rows, alone. -/
theorem Waking.along {st st' : Stage} (h : Waking ex y iid st w)
    (halong : World.Along SameTables w w') (hpf : w'.mem.pf = w.mem.pf)
    (htodo : st'.todo = st.todo)
    (hearly : iid ∉ st.todo → st.Early ex y iid w →
      st'.Early ex y iid w') : Waking ex y iid st' w' where
  names := by rw [hpf]; exact h.names
  clocked := by
    intro hn
    rw [htodo] at hn
    refine (h.clocked hn).along (congrArg (·.router iid) hpf) ?_
    exact World.Along.mono (fun d d' hd => hd.rowState)
      (halong.remember _ _)
  early := by
    intro hn
    rw [htodo] at hn
    exact hearly hn (h.early hn)

/-- A turn leaves no router waiting. -/
theorem taken_settled {row : Option PositionLocalRow} {tables : Db}
    {r : InstrumentRouter S} :
    (taken snap row tables iid r).state.pending = false := by
  rw [taken_state]
  split
  · next h =>
    cases row with
    | none => cases h
    | some row =>
        cases hst : row.state <;>
          simp [frozenRow, hst, State.frozen, State.pending] at h ⊢
  · split <;> rfl

/-- The turn of a router, or of another. -/
theorem Turned.waking {j : InstrumentId} {rest : List InstrumentId}
    {row : Option PositionLocalRow} (h : Turned ex snap row j w w')
    (hw : Waking ex y iid (.routers (j :: rest)) w) :
    Waking ex y iid (.routers rest) w' := by
  obtain ⟨w₁, now, halong, hdisk, hpast⟩ := h.written
  have hsettled : (taken snap row w.disk.db j
    (w.mem.pf.router j)).state.pending = false := taken_settled
  have hname := (taken_same snap row w.disk.db j (w.mem.pf.router j)).2.1
  have hpf := h.pf
  rw [hw.names j] at hname
  generalize taken snap row w.disk.db j (w.mem.pf.router j) = r at *
  have hnames : ∀ k, (w'.mem.pf.router k).instrumentId = k := by
    intro k
    rw [hpf]
    by_cases hk : k = j
    · subst hk
      rw [Portfolio.setRouter_self]
      exact hname
    · rw [Portfolio.setRouter_of_ne hk]
      exact hw.names k
  by_cases hi : iid = j
  · subst hi
    have hr : w'.mem.pf.router iid = r := by
      rw [hpf, Portfolio.setRouter_self]
    refine ⟨hnames, fun _ => ⟨?_, fun hp => ?_⟩, fun _ => ?_⟩
    · show w'.disk.rowState (w'.mem.pf.router iid).runId
        (w'.mem.pf.router iid).instrumentId =
          some (w'.mem.pf.router iid).state
      rw [hr, hdisk]
      exact rowState_upsert_self (r.localRow now)
    · have hp' : (w'.mem.pf.router iid).state.pending = true := hp
      rw [hr, hsettled] at hp'
      cases hp'
    · show (w'.mem.pf.router iid).state.pending = false
      rw [hr]
      exact hsettled
  · have hr : w'.mem.pf.router iid = w.mem.pf.router iid := by
      rw [hpf, Portfolio.setRouter_of_ne hi]
    have hrows : World.Along (fun d d' : Durable V =>
        d'.rowState (w.mem.pf.router iid).runId iid =
          d.rowState (w.mem.pf.router iid).runId iid) w w' := by
      have hwrite : World.Along (fun d d' : Durable V =>
          d'.rowState (w.mem.pf.router iid).runId iid =
            d.rowState (w.mem.pf.router iid).runId iid) w₁
          { mem := w'.mem, disk := w'.disk, past := w₁.past ++ [w₁.disk] } := by
        refine .commit _ _ ?_
        rw [hdisk]
        exact rowState_upsert_ne fun heq => hi (heq.trans hname)
      rw [← hpast] at hwrite
      exact trans_of _ (halong.mono fun d d' hd => hd.rowState) hwrite
    have hbefore : iid ∉ rest → iid ∉ j :: rest := fun hn hm =>
      (List.mem_cons.mp hm).elim hi hn
    refine ⟨hnames, fun hn => ?_, fun hn => ?_⟩
    · refine (hw.clocked (hbefore hn)).along hr ?_
      show World.Along (fun d d' : Durable V =>
        d'.rowState (w.mem.pf.router iid).runId
            (w.mem.pf.router iid).instrumentId =
          d.rowState (w.mem.pf.router iid).runId
            (w.mem.pf.router iid).instrumentId) _ _
      rw [hw.names]
      exact hrows.remember _ _
    · show (w'.mem.pf.router iid).state.pending = false
      rw [hr]
      exact hw.early (hbefore hn)

/-- In the order loop, what leaves the router and its row alone while the venue
stands still. -/
theorem Waking.elsewhere {rest rest' : List OrderRow}
    (hw : Waking ex y iid (.orders rest) w)
    (hnames : ∀ j, (w'.mem.pf.router j).instrumentId = j)
    (hr : w'.mem.pf.router iid = w.mem.pf.router iid)
    (hvenue : w'.disk.venue = w.disk.venue)
    (halong : World.Along (fun d d' =>
      d'.rowState (w.mem.pf.router iid).runId iid =
        d.rowState (w.mem.pf.router iid).runId iid) w w') :
    Waking ex y iid (.orders rest') w' := by
  refine ⟨hnames, fun _ => ?_, fun _ => ?_⟩
  · refine (hw.clocked List.not_mem_nil).along hr ?_
    show World.Along (fun d d' : Durable V =>
      d'.rowState (w.mem.pf.router iid).runId
          (w.mem.pf.router iid).instrumentId =
        d.rowState (w.mem.pf.router iid).runId
          (w.mem.pf.router iid).instrumentId) _ _
    rw [hw.names]
    exact halong.remember _ _
  · have hearly := hw.early List.not_mem_nil
    unfold Stage.Early at hearly ⊢
    dsimp only at hearly ⊢
    rw [hr, hvenue]
    rw [hw.names] at hearly ⊢
    rw [Stay.through_along halong]
    exact hearly

/-- An order given back to the router, or to another. The router waits from
now on, and the clock has not moved since it was given one before. -/
theorem Classified.waking {o : OrderRow} {rest : List OrderRow}
    {rows : List PositionLocalRow} (h : Classified ex snap rows o w w')
    (hw : Waking ex y iid (.orders (o :: rest)) w) :
    Waking ex y iid (.orders rest) w' := by
  cases h with
  | done h =>
      exact hw.elsewhere hw.names rfl rfl (refl_of _ w)
  | relabelled rep status h hstatus hno =>
      exact hw.elsewhere hw.names rfl rfl (.commit _ _ rfl)
  | restored rep st r db h hrests hst hr hdb =>
      have hname : r.instrumentId = o.instrumentId := by
        rw [hr]
        exact hw.names o.instrumentId
      have hnames : ∀ j, ((w.mem.pf.setRouter o.instrumentId r).router
          j).instrumentId = j := by
        intro j
        by_cases hj : j = o.instrumentId
        · subst hj
          rw [Portfolio.setRouter_self]
          exact hname
        · rw [Portfolio.setRouter_of_ne hj]
          exact hw.names j
      by_cases hi : iid = o.instrumentId
      swap
      · refine hw.elsewhere hnames (Portfolio.setRouter_of_ne hi) rfl ?_
        refine trans_of _ (.commit w.mem { w.disk with db := db } ?_)
          (.commit _ _ ?_)
        · rw [hdb]
          exact rowState_upsert_ne fun heq => hi (heq.trans hname)
        · rfl
      subst hi
      have hrouter : (w.mem.pf.setRouter o.instrumentId r).router
          o.instrumentId = r := Portfolio.setRouter_self
      have hrun : r.runId = (w.mem.pf.router o.instrumentId).runId := by
        rw [hr]
        rfl
      have hrow : Durable.rowState r.runId r.instrumentId
          { w.disk with db := db } = some r.state := by
        rw [hdb]
        exact rowState_upsert_self (r.localRow (ex.clock w.disk.venue))
      have hlinked : w.disk.rowState (w.mem.pf.router o.instrumentId).runId
          (w.mem.pf.router o.instrumentId).instrumentId =
            some (w.mem.pf.router o.instrumentId).state :=
        (hw.clocked List.not_mem_nil).linked
      have hearly : (w.mem.pf.router o.instrumentId).state.pending = true →
          ex.clock w.disk.venue ≤ (y.through ex
            (w.mem.pf.router o.instrumentId).runId
            (w.mem.pf.router o.instrumentId).instrumentId w.moments).since :=
        hw.early List.not_mem_nil
      rw [hw.names] at hlinked hearly
      -- the row enters the state now, or an order given back before entered it
      have hsince : r.state.pending = true → ex.clock w.disk.venue ≤
          (y.through ex r.runId r.instrumentId
            (w.moments ++ [{ w.disk with db := db }])).since := by
        intro hp
        rw [Stay.through_append, Stay.track]
        split
        · next hsame =>
          rw [hrow, Stay.through_moments, hrun, hname, hlinked] at hsame
          rw [Option.some.inj hsame] at hp
          rw [hrun, hname]
          exact hearly hp
        · exact le_refl _
      have hlast : ∀ d : Durable V,
          d.rowState r.runId r.instrumentId = some r.state →
          y.through ex r.runId r.instrumentId
              (w.moments ++ [{ w.disk with db := db }] ++ [d]) =
            y.through ex r.runId r.instrumentId
              (w.moments ++ [{ w.disk with db := db }]) := by
        intro d hd
        rw [Stay.through_append, Stay.track_same]
        rw [Stay.through_append, Stay.track_state, hd, hrow]
      generalize hw' : (wrote (wrote
          { w with mem := { pf := w.mem.pf.setRouter o.instrumentId r, rep } }
            db)
          (db.upsertOrder
            { o with status := .adopted, updatedAt := ex.clock w.disk.venue }) :
        World (Durable V) (Recovery S)) = w'
      have hself : w'.mem.pf.router o.instrumentId = r := by
        rw [← hw']
        exact hrouter
      have hrow' : w'.disk.rowState r.runId r.instrumentId = some r.state := by
        rw [← hw']
        exact hrow
      have hthrough : y.through ex r.runId r.instrumentId w'.moments =
          y.through ex r.runId r.instrumentId
            (w.moments ++ [{ w.disk with db := db }]) := by
        rw [← hw']
        exact hlast _ hrow
      have hvenue : w'.disk.venue = w.disk.venue := by
        rw [← hw']
        rfl
      refine ⟨?_, fun _ => ⟨?_, fun hp => ⟨ex.clock w.disk.venue, ?_, ?_⟩⟩,
        fun _ hp => ?_⟩
      · rw [← hw']
        exact hnames
      · show w'.disk.rowState (w'.mem.pf.router o.instrumentId).runId
          (w'.mem.pf.router o.instrumentId).instrumentId =
            some (w'.mem.pf.router o.instrumentId).state
        rw [hself]
        exact hrow'
      · show (w'.mem.pf.router o.instrumentId).pendingSince = _
        rw [hself, hr]
        rfl
      · show ex.clock w.disk.venue ≤ (y.through ex
          (w'.mem.pf.router o.instrumentId).runId
          (w'.mem.pf.router o.instrumentId).instrumentId w'.moments).since
        have hp' : (w'.mem.pf.router o.instrumentId).state.pending = true := hp
        rw [hself] at hp' ⊢
        rw [hthrough]
        exact hsince hp'
      · rw [hself] at hp ⊢
        rw [hthrough, hvenue]
        exact hsince hp

theorem recovers_waking {rows : List PositionLocalRow} {runId : String} :
    Recovers ex snap rows runId (Waking (S := S) ex y iid)
      (fun _ => True) where
  calm := by
    intro st w w' hw h
    refine hw.along h.along h.pf rfl fun hn hearly => ?_
    cases st with
    | routers rest | unknown rest =>
        show (w'.mem.pf.router iid).state.pending = false
        rw [h.pf]
        exact hearly
    | orders rest =>
        unfold Stage.Early at hearly ⊢
        dsimp only at hearly ⊢
        rw [h.pf, h.venue, Stay.through_along]
        · exact hearly
        · exact h.along.mono fun d d' hd => by rw [hw.names]; exact hd.rowState
    | foreign rest => trivial
  turn := fun hw h => h.waking hw
  unknown := fun hw => ⟨hw.names, hw.clocked, hw.early⟩
  guard := fun hw h => hw.along h.along h.pf rfl fun _ hearly => by
    unfold Stage.Early at hearly ⊢
    rw [h.pf]
    exact hearly
  orders := fun hw => ⟨hw.names, hw.clocked, fun hn hp => by
    have hsettled : (_ : State).pending = false := hw.early hn
    rw [hsettled] at hp
    cases hp⟩
  classify := fun hw h => h.waking hw
  foreign := fun hw => ⟨hw.names, hw.clocked, fun _ => trivial⟩
  cancel := fun hw h => hw.along h.along h.pf rfl fun _ _ => trivial
  turnRaised := fun _ _ _ => trivial
  guardRaised := fun _ _ _ _ _ => trivial
  cancelRaised := fun _ _ _ => trivial
  raised := fun _ _ => trivial

/-- When a recovery returns, each of its routers is clocked. -/
theorem recover_clocked {runId : String} {c : Recovery S} {d : Durable V}
    (h : Started runId c) (hid : iid ∈ c.pf.ids) :
    Prog.wp (recover ex)
      (fun _ w' => Clocked ex y (recoveredRouter w' iid))
      (fun _ _ => True) ⟨c, d, []⟩ := by
  have hnames : ∀ j, (c.pf.router j).instrumentId = j := by
    intro j
    obtain ⟨strategy, strategyState, categories, limits, exposure, hr⟩ :=
      h.router j
    rw [hr]
    rfl
  refine Prog.wp_mono (recover_rule (w := ⟨c, d, []⟩)
    (I := Waking ex y iid) (E := fun _ => True) rfl h.pfRunId.symm rfl
    (fun _ _ => trivial) fun snap _ => ⟨?_, recovers_waking⟩)
    (fun _ w' hw => hw.clocked List.not_mem_nil) fun _ _ h => h
  exact ⟨hnames, fun hn => absurd hid hn, fun hn => absurd hid hn⟩

end Recovery

/-! ## Runs -/

/-- A clocked router, with the stay as it is now. -/
theorem Clocked.now {y : Stay} {w : World (Durable V) (InstrumentRouter S)}
    {runId : String} {iid : InstrumentId} (hrun : w.mem.runId = runId)
    (hiid : w.mem.instrumentId = iid) (h : Clocked ex y w) :
    Clocked ex (y.through ex runId iid w.moments) ⟨w.mem, w.disk, []⟩ := by
  subst hrun hiid
  refine ⟨h.linked, fun hp => ?_⟩
  obtain ⟨since, hsince, hle⟩ := h.since hp
  refine ⟨since, hsince, le_of_le_of_eq hle (congrArg Stay.since ?_)⟩
  exact (Stay.track_same Stay.through_moments.symm).symm

/-- The venue moves, and nothing else. -/
theorem Clocked.venue {y : Stay} {r : InstrumentRouter S} {d : Durable V}
    {v : V} {runId : String} {iid : InstrumentId} (hrun : r.runId = runId)
    (hiid : r.instrumentId = iid) (hy : y.state = d.rowState runId iid)
    (h : Clocked ex y ⟨r, d, []⟩) :
    Clocked ex (y.through ex runId iid [{ d with venue := v }])
      ⟨r, { d with venue := v }, []⟩ := by
  subst hrun hiid
  have hnow : y.through ex r.runId r.instrumentId [d] = y :=
    Stay.track_same hy.symm
  have hmoved : y.through ex r.runId r.instrumentId
      [{ d with venue := v }] = y := Stay.track_same hy.symm
  refine ⟨h.linked, fun hp => ?_⟩
  obtain ⟨since, hsince, hle⟩ := h.since hp
  have hle' : since ≤ (y.through ex r.runId r.instrumentId [d]).since := hle
  refine ⟨since, hsince, ?_⟩
  show since ≤ ((y.through ex r.runId r.instrumentId _).through ex r.runId
    r.instrumentId [{ d with venue := v }]).since
  rw [hmoved, hmoved, ← hnow]
  exact hle'

namespace Site

variable {runId : String} {iid : InstrumentId} {s₀ s s' : Site V S}
  {h : Happening V S} {ds ms : List (Durable V)}

/-- The stay of an instrument's row after the moments of a run. -/
def stayOf (ex : Executor V) (runId : String) (iid : InstrumentId)
    (ds : List (Durable V)) : Stay :=
  (⟨none, 0⟩ : Stay).through ex runId iid ds

theorem stayOf_append : stayOf ex runId iid (ds ++ ms) =
    (stayOf ex runId iid ds).through ex runId iid ms :=
  List.foldl_append

/-- The moments of a run end with the disk it leaves. -/
theorem Run.last {may : Site V S → Happening V S → Prop}
    (hrun : Run ex runId may s₀ ds s) : ∃ ds', ds = ds' ++ [s.disk] := by
  cases hrun with
  | here => exact ⟨[], rfl⟩
  | @next ds ms s₁ _ h _ _ hstep =>
      have hms : ∃ ms', ms = ms' ++ [s.disk] := by
        cases hstep <;> first | exact ⟨_, rfl⟩ | exact ⟨[], rfl⟩
      obtain ⟨ms', rfl⟩ := hms
      exact ⟨ds ++ ms', (List.append_assoc ..).symm⟩

theorem stayOf_state {d : Durable V} (h : ∃ ds', ds = ds' ++ [d]) :
    (stayOf ex runId iid ds).state = d.rowState runId iid := by
  obtain ⟨ds', rfl⟩ := h
  rw [stayOf_append]
  exact Stay.track_state

/-- Every router is clocked. -/
def OnTime (ex : Executor V) (runId : String) (ds : List (Durable V))
    (s : Site V S) : Prop :=
  ∀ pf, s.process = some pf → ∀ iid ∈ pf.ids,
    Clocked ex (stayOf ex runId iid ds) ⟨pf.router iid, s.disk, []⟩

/-- An operation places the stops of the positions it takes for routers that
wait. -/
def Stoppable (ex : Executor V) (s : Site V S) (h : Happening V S) : Prop :=
  ∀ pf op, s.process = some pf → h = .perform op →
    op.Stoppable ex s.disk pf

/-- What an operation or the operator leaves. -/
theorem OnTime.timed {d : Durable V} {pf : Portfolio S}
    {w' : World (Durable V) (Portfolio S)} (hs : Steady runId ⟨d, some pf⟩)
    (hon : OnTime ex runId ds ⟨d, some pf⟩) (hs' : Running runId w')
    (hids : w'.mem.ids = pf.ids)
    (h : ∀ iid ∈ pf.ids, Portfolio.Timed ex iid ⟨pf, d, []⟩ w') :
    OnTime ex runId (ds ++ w'.moments) ⟨w'.disk, some w'.mem⟩ := by
  rintro pf' ⟨⟩ iid hid'
  have hid : iid ∈ pf.ids := by
    rw [← hids]
    exact hid'
  obtain ⟨hrun, hiid, -⟩ := hs'.router iid hid'
  have hnames : ∀ j ∈ pf.ids, (pf.router j).instrumentId = j :=
    fun j hj => ((hs pf rfl).router j hj).2.1
  have hclocked : Clocked ex (stayOf ex runId iid ds) (seen w' iid) :=
    (h iid hid).clocks hnames hid _ (hon pf rfl iid hid)
  rw [stayOf_append]
  exact hclocked.now hrun hiid

/-- Every happening keeps the routers clocked, if the stops can be placed. -/
theorem Step.onTime (hstep : Step ex runId s h ms s') (hs : Steady runId s)
    (hlast : ∃ ds', ds = ds' ++ [s.disk]) (hmay : Stoppable ex s h) (hon : OnTime ex runId ds s) :
    OnTime ex runId (ds ++ ms) s' := by
  have hs' : Steady runId s' := hstep.steady hs
  cases hstep with
  | @start d c hc =>
      intro pf hpf iid hid
      obtain ⟨hrun, hiid, -⟩ := (hs' pf hpf).router iid hid
      obtain ⟨hok, rfl⟩ := recovered_eq_some hpf
      have hids : (recovering ex d c).2.mem.pf.ids = c.pf.ids := by
        have hwp : Prog.wp (recover ex) (fun _ w' =>
              Adopting runId c d.db [] w' ∧
                World.Along (Keeps (fun _ _ => True) runId 0) ⟨c, d, []⟩ w')
            (fun _ w' => World.Along (Keeps (fun _ _ => True) runId 0)
              ⟨c, d, []⟩ w') ⟨c, d, []⟩ := recovering_keeps hc
        exact (Prog.wp_returned hwp hok).1.ids
      rw [hids] at hid
      have hwp : Prog.wp (recover ex) (fun _ w' =>
          Clocked ex (stayOf ex runId iid ds) (recoveredRouter w' iid))
          (fun _ _ => True) ⟨c, d, []⟩ := recover_clocked hc hid
      rw [stayOf_append]
      exact (Prog.wp_returned hwp hok).now hrun hiid
  | startCut hc hcut => exact nofun
  | @perform d pf op =>
      have hnodup : pf.ids.Nodup := (hs pf rfl).ids
      refine hon.timed hs (Running.past (hs' _ rfl) rfl rfl)
        (Deeds.ids (perform_deeds ex op ⟨pf, d, []⟩)) fun iid hid => ?_
      exact Portfolio.perform_timed hnodup hid (hmay pf op rfl rfl)
  | cut hcut => exact nofun
  | @clearHalt d pf j hid =>
      refine hon.timed hs (Running.past (hs' _ rfl) rfl rfl) rfl
        fun iid _ => ?_
      exact Portfolio.onRouter_timed hid (g := fun _ _ => True)
        (setState_moves trivial) fun _ => clearHalt_clocks
  | stop => exact nofun
  | venue v =>
      intro pf hpf iid hid
      obtain ⟨hrun, hiid, -⟩ := (hs' pf hpf).router iid hid
      rw [stayOf_append]
      exact (hon pf hpf iid hid).venue hrun hiid (stayOf_state hlast)
  | @strategies d pf states =>
      rintro pf' ⟨⟩ iid hid
      obtain ⟨hrun, hiid, -⟩ := (hs pf rfl).router iid hid
      have hsame := (hon pf rfl iid hid).venue (v := d.venue) hrun hiid
        (stayOf_state hlast)
      rw [stayOf_append]
      exact ⟨hsame.linked, hsame.since⟩

theorem Run.onTime (h₀ : s₀.process = none)
    (hrun : Run ex runId (Stoppable ex) s₀ ds s) : OnTime ex runId ds s := by
  induction hrun with
  | here =>
      intro pf hpf
      rw [h₀] at hpf
      cases hpf
  | next hrun hmay hstep ih =>
      exact hstep.onTime (hrun.steady (steady_of_none h₀)) hrun.last hmay ih

end Site

end Polyperps
