import Polyperps.Proofs.RecoverySteps

/-!
# A frozen row stays frozen

The row of a router's instrument and the router's state say the same thing
between any two changes (`Linked`), so a chain of firm changes cannot write
over a frozen row: every commit is along `Keeps`, which relates a disk to a
later one when a frozen row is still there and only orders that `ok` admits
were submitted for it since. The one way out is the shutdown of a halted
router whose instrument the venue still holds, which writes `EXIT_PENDING`
and writes `HALTED` back; what it passes through and where it ends is stated
on its own.
-/

namespace Polyperps

open ProgramLogic InstrumentRouter
open Recovery (frozenRow held)

variable {V S α : Type} {ex : Executor V}

/-- The state an instrument's row holds. -/
def Durable.rowState (runId : String) (iid : InstrumentId) (d : Durable V) :
    Option State := (d.db.positionLocal runId iid).map PositionLocalRow.state

/-- `d'` comes later than `d`, and every order submitted since satisfies
`P`. -/
def Since (P : Submission → Prop) (d d' : Durable V) : Prop :=
  ∃ later, d'.submitted = d.submitted ++ later ∧ ∀ s ∈ later, P s

theorem Since.refl {P : Submission → Prop} (d : Durable V) : Since P d d :=
  ⟨[], by simp, by simp⟩

theorem Since.of_eq {P : Submission → Prop} {d d' : Durable V}
    (h : d'.submitted = d.submitted) : Since P d d' :=
  ⟨[], by simpa using h, by simp⟩

theorem Since.trans {P : Submission → Prop} {d d' d'' : Durable V}
    (h : Since P d d') (h' : Since P d' d'') : Since P d d'' := by
  obtain ⟨l, hl, hP⟩ := h
  obtain ⟨l', hl', hP'⟩ := h'
  refine ⟨l ++ l', by rw [hl', hl, List.append_assoc], fun s hs => ?_⟩
  rcases List.mem_append.mp hs with h1 | h1
  · exact hP s h1
  · exact hP' s h1

theorem Since.mono {P Q : Submission → Prop} {d d' : Durable V}
    (h : Since P d d') (hPQ : ∀ s, P s → Q s) : Since Q d d' := by
  obtain ⟨l, hl, hP⟩ := h
  exact ⟨l, hl, fun s hs => hPQ s (hP s hs)⟩

/-- A frozen row of the instrument is there later, and only what `ok` admits
was submitted for the instrument since. -/
def Keeps (ok : State → Submission → Prop) (runId : String)
    (iid : InstrumentId) (d d' : Durable V) : Prop :=
  ∀ st, st.frozen = true → d.rowState runId iid = some st →
    d'.rowState runId iid = some st ∧
      Since (fun s => s.request.instrumentId = iid → ok st s) d d'

section Keeps

variable {ok : State → Submission → Prop} {runId : String}
  {iid : InstrumentId}

instance : Std.Refl (Keeps (V := V) ok runId iid) :=
  ⟨fun d _ _ h => ⟨h, Since.refl d⟩⟩

instance : IsTrans (Durable V) (Keeps ok runId iid) :=
  ⟨fun _ _ _ h h' st hf hst =>
    ⟨(h' st hf (h st hf hst).1).1,
      (h st hf hst).2.trans (h' st hf (h st hf hst).1).2⟩⟩

/-- A write that leaves the row's state and the submits alone. -/
theorem Keeps.of_eq {d d' : Durable V}
    (hrow : d'.rowState runId iid = d.rowState runId iid)
    (hsub : d'.submitted = d.submitted) : Keeps ok runId iid d d' :=
  fun _ _ hst => ⟨hrow.trans hst, Since.of_eq hsub⟩

/-- A row that is not frozen has nothing to keep. -/
theorem Keeps.of_active {d d' : Durable V} {st : State}
    (hrow : d.rowState runId iid = some st) (hst : ¬ st.frozen = true) :
    Keeps ok runId iid d d' := by
  intro st' hf hst'
  rw [hrow, Option.some.injEq] at hst'
  exact absurd (hst' ▸ hf) hst

/-- A write that submits nothing and puts a frozen row's state back. -/
theorem Keeps.of_frozen {d d' : Durable V}
    (hrow : ∀ st, st.frozen = true → d.rowState runId iid = some st →
      d'.rowState runId iid = some st)
    (hsub : d'.submitted = d.submitted) : Keeps ok runId iid d d' :=
  fun st hf hst => ⟨hrow st hf hst, Since.of_eq hsub⟩

theorem Keeps.mono {ok' : State → Submission → Prop} {d d' : Durable V}
    (h : Keeps ok runId iid d d') (hok : ∀ st s, ok st s → ok' st s) :
    Keeps ok' runId iid d d' :=
  fun st hf hst =>
    ⟨(h st hf hst).1, (h st hf hst).2.mono fun s hs hi => hok st s (hs hi)⟩

end Keeps

/-! ## The row says what the router's state is -/

/-- The router's own row holds its state. -/
def Linked (w : World (Durable V) (InstrumentRouter S)) : Prop :=
  w.disk.rowState w.mem.runId w.mem.instrumentId = some w.mem.state

section Rows

variable {runId : String} {iid : InstrumentId} {d : Durable V}
  {w w' : World (Durable V) (InstrumentRouter S)} {g : State → State → Prop}

/-- Writing a row makes it findable. -/
theorem rowState_upsert_self (p : PositionLocalRow) :
    Durable.rowState p.runId p.instrumentId
      { d with db := d.db.upsertPositionLocal p } = some p.state := by
  rw [Durable.rowState, Db.positionLocal_upsertPositionLocal_self]
  rfl

/-- Writing a row leaves those of other instruments alone. -/
theorem rowState_upsert_ne {p : PositionLocalRow}
    (h : iid ≠ p.instrumentId) :
    Durable.rowState runId iid
      { d with db := d.db.upsertPositionLocal p } = d.rowState runId iid := by
  rw [Durable.rowState, Durable.rowState,
    Db.positionLocal_upsertPositionLocal_ne]
  intro heq
  exact h (Prod.mk.inj heq).2

theorem Change.identity (h : Change ex g w w') :
    w'.mem.runId = w.mem.runId ∧
      w'.mem.instrumentId = w.mem.instrumentId := by
  cases h with
  | memory r' h => exact ⟨h.runId, h.instrumentId⟩
  | persist now => exact ⟨rfl, rfl⟩
  | enter st now h => exact ⟨rfl, rfl⟩
  | alert a => exact ⟨rfl, rfl⟩
  | note target verdicts text => rw [state_record]; exact ⟨rfl, rfl⟩
  | order o o' h h' => exact ⟨rfl, rfl⟩
  | venue v => exact ⟨rfl, rfl⟩
  | announce intent target verdicts h =>
      rcases announce_cases ex intent target verdicts w with hok | ⟨herr, -⟩
      · rw [hok]; exact ⟨rfl, rfl⟩
      · rw [herr]; exact ⟨rfl, rfl⟩
  | submit req v h => exact ⟨rfl, rfl⟩

theorem Moves.identity (h : Moves ex g w w') :
    w'.mem.runId = w.mem.runId ∧
      w'.mem.instrumentId = w.mem.instrumentId := by
  induction h with
  | refl => exact ⟨rfl, rfl⟩
  | tail _ hc ih =>
      exact ⟨hc.identity.1.trans ih.1, hc.identity.2.trans ih.2⟩

/-- Every change keeps the row and the state together. -/
theorem Change.linked (h : Change ex g w w') (hw : Linked w) : Linked w' := by
  cases h with
  | memory r' h =>
      unfold Linked
      rw [h.runId, h.instrumentId, h.state]
      exact hw
  | persist now => exact rowState_upsert_self (w.mem.localRow now)
  | enter st now h =>
      exact rowState_upsert_self
        (InstrumentRouter.localRow { w.mem with state := st } now)
  | alert a => exact hw
  | note target verdicts text =>
      rcases record_cases ex target verdicts none none text w with
        hok | ⟨herr, -⟩
      · rw [hok]; exact hw
      · rw [herr]; exact hw
  | order o o' h h' => exact hw
  | venue v => exact hw
  | announce intent target verdicts h =>
      rcases announce_cases ex intent target verdicts w with hok | ⟨herr, -⟩
      · rw [hok]
        exact rowState_upsert_self
          ((waiting w.mem intent (ex.clock w.disk.venue)).localRow
            (ex.clock w.disk.venue))
      · rw [herr]; exact hw
  | submit req v h => exact hw

/-- Changes of another instrument's router neither touch the row nor submit
for the instrument. -/
theorem Change.along_other {ok : State → Submission → Prop}
    (h : Change ex g w w') (hi : iid ≠ w.mem.instrumentId) :
    World.Along (Keeps ok runId iid) w w' := by
  cases h with
  | memory r' h => exact .memory r'
  | persist now =>
      exact .commit _ _ (.of_eq (rowState_upsert_ne hi) rfl)
  | enter st now h =>
      exact .commit _ _ (.of_eq (rowState_upsert_ne hi) rfl)
  | alert a => exact .commit _ _ (.of_eq rfl rfl)
  | note target verdicts text =>
      rcases record_cases ex target verdicts none none text w with
        hok | ⟨herr, -⟩
      · rw [hok]; exact .commit _ _ (.of_eq rfl rfl)
      · rw [herr]; exact .commit _ _ (.of_eq rfl rfl)
  | order o o' h h' => exact .commit _ _ (.of_eq rfl rfl)
  | venue v => exact .commit _ _ (.of_eq rfl rfl)
  | announce intent target verdicts h =>
      rcases announce_cases ex intent target verdicts w with hok | ⟨herr, -⟩
      · rw [hok]
        exact announcedWorld_along rfl rfl (.of_eq rfl rfl) (.of_eq rfl rfl)
          (.of_eq (rowState_upsert_ne hi) rfl)
      · rw [herr]; exact .commit _ _ (.of_eq rfl rfl)
  | submit req v h =>
      refine .commit _ _ fun st _ hst => ⟨hst, [_], rfl, fun s hs hi' => ?_⟩
      rw [List.mem_singleton.mp hs] at hi'
      exact absurd (hi'.symm.trans h.instrument) hi

/-- Changes of one instrument's router write no other's row. -/
theorem Change.positionLocal_other (h : Change ex g w w')
    (hi : iid ≠ w.mem.instrumentId) :
    w'.disk.db.positionLocal runId iid = w.disk.db.positionLocal runId iid := by
  have hupsert : ∀ (db : Db) (p : PositionLocalRow),
      p.instrumentId = w.mem.instrumentId →
      (db.upsertPositionLocal p).positionLocal runId iid =
        db.positionLocal runId iid := by
    intro db p hp
    refine Db.positionLocal_upsertPositionLocal_ne fun heq => hi ?_
    exact (Prod.mk.inj heq).2.trans hp
  cases h with
  | memory r' h => rfl
  | persist now => exact hupsert _ _ rfl
  | enter st now h => exact hupsert _ _ rfl
  | alert a => rfl
  | note target verdicts text =>
      rcases record_cases ex target verdicts none none text w with
        hok | ⟨herr, -⟩
      · rw [hok]; rfl
      · rw [herr]; rfl
  | order o o' h h' => rfl
  | venue v => rfl
  | announce intent target verdicts h =>
      rcases announce_cases ex intent target verdicts w with hok | ⟨herr, -⟩
      · rw [hok]; exact hupsert _ _ rfl
      · rw [herr]; rfl
  | submit req v h => rfl

theorem Moves.positionLocal_other (h : Moves ex g w w')
    (hi : iid ≠ w.mem.instrumentId) :
    w'.disk.db.positionLocal runId iid = w.disk.db.positionLocal runId iid := by
  induction h with
  | refl => rfl
  | tail hm hc ih =>
      rw [← ih]
      refine hc.positionLocal_other ?_
      rw [(Moves.identity hm).2]
      exact hi

theorem Change.rowState_other (h : Change ex g w w')
    (hi : iid ≠ w.mem.instrumentId) :
    w'.disk.rowState runId iid = w.disk.rowState runId iid := by
  rw [Durable.rowState, Durable.rowState, h.positionLocal_other hi]

/-- Firm changes of the instrument's own router keep a frozen row, and submit
nothing while it is there. -/
theorem Change.along_self {ok : State → Submission → Prop}
    (h : Change ex firm w w') (hw : Linked w) :
    World.Along (Keeps ok w.mem.runId w.mem.instrumentId) w w' := by
  have hactive : ∀ {d : Durable V}, ¬ w.mem.state.frozen = true →
      Keeps ok w.mem.runId w.mem.instrumentId w.disk d :=
    fun hst => .of_active hw hst
  cases h with
  | memory r' h => exact .memory r'
  | persist now =>
      refine .commit _ _ (.of_eq ?_ rfl)
      exact (rowState_upsert_self (w.mem.localRow now)).trans hw.symm
  | enter st now h =>
      by_cases hf : w.mem.state.frozen = true
      · refine .commit _ _ (.of_eq ?_ rfl)
        rw [hw, ← h hf]
        exact rowState_upsert_self
          (InstrumentRouter.localRow { w.mem with state := st } now)
      · exact .commit _ _ (hactive hf)
  | alert a => exact .commit _ _ (.of_eq rfl rfl)
  | note target verdicts text =>
      rcases record_cases ex target verdicts none none text w with
        hok | ⟨herr, -⟩
      · rw [hok]; exact .commit _ _ (.of_eq rfl rfl)
      · rw [herr]; exact .commit _ _ (.of_eq rfl rfl)
  | order o o' h h' => exact .commit _ _ (.of_eq rfl rfl)
  | venue v => exact .commit _ _ (.of_eq rfl rfl)
  | announce intent target verdicts h =>
      have hf : ¬ w.mem.state.frozen = true := by
        intro hf
        have hwait := h hf
        rw [← hwait] at hf
        revert hf
        unfold Intent.waiting
        split <;> nofun
      rcases announce_cases ex intent target verdicts w with hok | ⟨herr, -⟩
      · rw [hok]
        exact announcedWorld_along rfl rfl (.of_eq rfl rfl) (.of_eq rfl rfl)
          (.of_active hw hf)
      · rw [herr]; exact .commit _ _ (.of_eq rfl rfl)
  | submit req v h =>
      refine .commit _ _ (hactive fun hf => ?_)
      rw [h.pending] at hf
      revert hf
      split <;> nofun

/-- A chain is along a relation when each of its changes is. -/
theorem Moves.along {R : Durable V → Durable V → Prop} (h : Moves ex g w w')
    (hw : Linked w)
    (hstep : ∀ w₁ w₂ : World (Durable V) (InstrumentRouter S),
      w₁.mem.runId = w.mem.runId →
      w₁.mem.instrumentId = w.mem.instrumentId → Linked w₁ →
      Change ex g w₁ w₂ → World.Along R w₁ w₂) :
    World.Along R w w' ∧ Linked w' := by
  induction h with
  | refl => exact ⟨refl_of _ w, hw⟩
  | @tail b c hb hc ih =>
      have hid := Moves.identity hb
      exact ⟨trans_of _ ih.1 (hstep b c hid.1 hid.2 ih.2 hc), hc.linked ih.2⟩

end Rows

/-! ## The shutdown of a halted router -/

/-- From a halted or exiting row to another, with reduce-only orders of the
instrument between them. -/
def Ending (runId : String) (iid : InstrumentId) (d d' : Durable V) : Prop :=
  d.rowState runId iid = some .halted ∨
      d.rowState runId iid = some .exitPending →
    (d'.rowState runId iid = some .halted ∨
        d'.rowState runId iid = some .exitPending) ∧
      Since (fun s => s.request.reduceOnly = true) d d'

section Ending

variable {runId : String} {iid : InstrumentId}
  {w w' : World (Durable V) (InstrumentRouter S)}

instance : Std.Refl (Ending (V := V) runId iid) :=
  ⟨fun d h => ⟨h, Since.refl d⟩⟩

instance : IsTrans (Durable V) (Ending runId iid) :=
  ⟨fun _ _ _ h h' hd =>
    ⟨(h' (h hd).1).1, (h hd).2.trans (h' (h hd).1).2⟩⟩

theorem Ending.of_eq {d d' : Durable V}
    (hrow : d'.rowState runId iid = d.rowState runId iid)
    (hsub : d'.submitted = d.submitted) : Ending runId iid d d' :=
  fun h => ⟨by rwa [hrow], Since.of_eq hsub⟩

/-- A row written with one of the two states. -/
theorem Ending.of_row {d d' : Durable V} {st : State}
    (hst : st = .halted ∨ st = .exitPending)
    (hrow : d'.rowState runId iid = some st)
    (hsub : d'.submitted = d.submitted) : Ending runId iid d d' := by
  refine fun _ => ⟨?_, Since.of_eq hsub⟩
  rw [hrow]
  exact hst.imp (congrArg some) (congrArg some)

theorem Change.along_ending (h : Change ex ending w w') (hw : Linked w) :
    World.Along (Ending w.mem.runId w.mem.instrumentId) w w' := by
  cases h with
  | memory r' h => exact .memory r'
  | persist now =>
      refine .commit _ _ (.of_eq ?_ rfl)
      exact (rowState_upsert_self (w.mem.localRow now)).trans hw.symm
  | enter st now h =>
      refine .commit _ _ (.of_row h ?_ rfl)
      exact rowState_upsert_self
        (InstrumentRouter.localRow { w.mem with state := st } now)
  | alert a => exact .commit _ _ (.of_eq rfl rfl)
  | note target verdicts text =>
      rcases record_cases ex target verdicts none none text w with
        hok | ⟨herr, -⟩
      · rw [hok]; exact .commit _ _ (.of_eq rfl rfl)
      · rw [herr]; exact .commit _ _ (.of_eq rfl rfl)
  | order o o' h h' => exact .commit _ _ (.of_eq rfl rfl)
  | venue v => exact .commit _ _ (.of_eq rfl rfl)
  | announce intent target verdicts h =>
      rcases announce_cases ex intent target verdicts w with hok | ⟨herr, -⟩
      · rw [hok]
        refine announcedWorld_along rfl rfl (.of_eq rfl rfl) (.of_eq rfl rfl)
          (.of_row h ?_ rfl)
        exact rowState_upsert_self
          ((waiting w.mem intent (ex.clock w.disk.venue)).localRow
            (ex.clock w.disk.venue))
      · rw [herr]; exact .commit _ _ (.of_eq rfl rfl)
  | submit req v h =>
      refine .commit _ _ fun hst => ⟨hst, [_], rfl, fun s hs => ?_⟩
      -- the order announced is the one the state waits for
      have hpending := h.pending
      rw [hw, hpending] at hst
      rw [List.mem_singleton.mp hs]
      cases hr : req.reduceOnly with
      | true => exact hr
      | false => simp [hr] at hst

theorem Moves.along_ending (h : Moves ex ending w w') (hw : Linked w) :
    World.Along (Ending w.mem.runId w.mem.instrumentId) w w' ∧ Linked w' := by
  refine h.along hw fun w₁ w₂ hr hi hl hc => ?_
  rw [← hr, ← hi]
  exact hc.along_ending hl

end Ending

section Halted

variable {w : World (Durable V) (InstrumentRouter S)}

theorem pending_not_frozen {st : State} (h : st.pending = true) :
    ¬ st.frozen = true := by
  revert h
  cases st <;> nofun

/-- What a submit that raised leaves in memory: a halted router, also when
reading the venue again raises. -/
theorem submitFailed_halted {cid : ClientOrderId} {e : Exc}
    (h : w.mem.state.pending = true) :
    (submitFailed ex cid e w).2.mem.state = .halted := by
  let P (w' : World (Durable V) (InstrumentRouter S)) := w'.mem.state = .halted
  refine (Prog.wp_state (P := P)).mp ?_
  have hidle : ∀ w₁ : World (Durable V) (InstrumentRouter S),
      w₁.mem.state = .halted →
      Prog.wp (call ex.snapshot >>= fun snap => adopt ex snap)
        (fun _ => P) (fun _ => P) w₁ := by
    intro w₁ h₁
    have hs : (call ex.snapshot >>= fun snap => adopt ex snap).Steps
        (Moves ex idle) w₁ := Prog.Steps.bind call_moves fun _ => adopt_moves
    exact Prog.wp_mono hs.wp (fun _ _ hm => (Moves.state_idle hm).trans h₁)
      (fun _ _ hm => (Moves.state_idle hm).trans h₁)
  unfold submitFailed
  simp only [Prog.wp_bind, wp_updateOrder, wp_alert, halt, Prog.wp_mem,
    wrote_mem, updated_mem, Prog.wp_ite, if_neg (pending_not_frozen h),
    Prog.wp_modifyMem, wp_setState]
  exact Prog.wp_bind.mp (hidle _ rfl)

/-- Handling an answer does not raise. -/
theorem acknowledge_returns {cid : ClientOrderId} {prior : State}
    {intent : Intent} {ack : Option OrderAck} :
    Prog.wp (acknowledge ex cid prior intent ack) (fun _ _ => True)
      (fun _ _ => False) w := by
  unfold acknowledge
  split
  · simp [halt, Prog.wp_ite]
  · split
    · simp
    · simp

/-- A halted router that sends and raises is halted. -/
theorem send_raises {intent : Intent} {target : Option Decimal}
    {verdicts : List (String × String)} (h : w.mem.state = .halted) :
    Prog.wp (send ex intent target verdicts) (fun _ _ => True)
      (fun _ w' => w'.mem.state = .halted) w := by
  unfold send
  simp only [Prog.wp_bind, Prog.wp_mem, Prog.wp_attempt]
  rcases announce_cases ex intent target verdicts w with hok | ⟨herr, -⟩
  · rw [Prog.wp_of_ok hok]
    have hsub : (submitWithRecovery ex (w.mem.orderRequest (nextCid w.mem)
        intent (ex.clock w.disk.venue)) w.mem.size).Steps (Moves ex idle)
        (announcedWorld ex intent target verdicts w) :=
      submitWithRecovery_moves (announcedWorld_ready ex intent target verdicts w)
    refine Prog.wp_mono hsub.wp (fun ack w' hm => ?_) (fun e w' hm => ?_)
    · exact Prog.wp_mono acknowledge_returns (fun _ _ _ => trivial)
        (fun _ _ hf => hf.elim)
    · have hp : w'.mem.state.pending = true := by
        rw [Moves.state_idle hm]
        show intent.waiting.pending = true
        unfold Intent.waiting
        split <;> rfl
      refine Prog.wp_mono (Prog.wp_state.mpr (submitFailed_halted hp))
        (fun _ _ _ => trivial) (fun _ _ hh => hh)
  · rw [Prog.wp_of_error herr]
    exact h

theorem exit_raises {mark : Decimal} {reason : String}
    {target : Option Decimal} {size : Decimal} (h : w.mem.state = .halted) :
    Prog.wp (exit ex mark reason target size) (fun _ _ => True)
      (fun _ w' => w'.mem.state = .halted) w := by
  rw [exit, Prog.wp_bind, Prog.wp_mem]
  exact send_raises h

/-- However the shutdown of a halted router ends, the router is halted. -/
theorem shutdown_halted {mark : Decimal} {exchangeSize : Option Decimal}
    (h : w.mem.state = .halted) :
    (shutdown ex mark exchangeSize w).2.mem.state = .halted := by
  let P (w' : World (Durable V) (InstrumentRouter S)) := w'.mem.state = .halted
  refine (Prog.wp_state (P := P)).mp ?_
  rw [shutdown, Prog.wp_bind, Prog.wp_mem]
  dsimp only
  rw [if_pos h, Prog.wp_ite]
  split
  · exact h
  rw [Prog.wp_ite]
  split
  · rw [Prog.wp_bind]
    refine Prog.wp_mono (exit_raises h) (fun _ w' _ => ?_) (fun _ _ hh => hh)
    rw [wp_setState]
    exact entered_state
  · rw [wp_setState]
    exact entered_state

/-- What the whole shutdown of a halted router keeps: the halt, with nothing
but reduce-only orders on the way. -/
theorem shutdown_ends (ex : Executor V) (mark : Decimal)
    (exchangeSize : Option Decimal) (h : w.mem.state = .halted) (hw : Linked w) :
    World.Ends (Keeps (fun st s => st = .halted ∧ s.request.reduceOnly = true)
      w.mem.runId w.mem.instrumentId) w (shutdown ex mark exchangeSize w).2 := by
  obtain ⟨halong, hlinked⟩ := Moves.along_ending
    (shutdown_ending ex mark exchangeSize h) hw
  obtain ⟨hid, hrun⟩ := Moves.identity
    (shutdown_ending ex mark exchangeSize h)
  have hrow : Durable.rowState w.mem.runId w.mem.instrumentId
      (shutdown ex mark exchangeSize w).2.disk = some .halted := by
    rw [← hid, ← hrun, hlinked, shutdown_halted h]
  have hstart : w.disk.rowState w.mem.runId w.mem.instrumentId =
      some .halted := by rw [hw, h]
  have hkeeps : ∀ d : Durable V, Ending w.mem.runId w.mem.instrumentId w.disk d →
      Ending w.mem.runId w.mem.instrumentId d
        (shutdown ex mark exchangeSize w).2.disk →
      Keeps (fun st s => st = .halted ∧ s.request.reduceOnly = true)
        w.mem.runId w.mem.instrumentId d
        (shutdown ex mark exchangeSize w).2.disk := by
    intro d hd hd' st hf hst
    have hmid := (hd (Or.inl hstart)).1
    have hst' : st = .halted := by
      rcases hmid with h1 | h1
      · exact (Option.some.inj (hst.symm.trans h1))
      · rw [hst, Option.some.injEq] at h1
        rw [h1] at hf
        cases hf
    refine ⟨by rw [hst', hrow], (hd' hmid).2.mono fun s hs _ => ⟨hst', hs⟩⟩
  obtain ⟨hend, hbetween⟩ := halong.between
  refine ⟨hkeeps _ (refl_of _ _) hend, fun d hd => ?_⟩
  exact (hbetween d hd).imp_right fun hb => hkeeps d hb.1 hb.2

end Halted

/-! ## The portfolio -/

/-- A portfolio between two changes: each router is its instrument's, and its
row says what its state is. -/
structure Running (runId : String) (w : World (Durable V) (Portfolio S)) :
    Prop where
  pfRunId : w.mem.runId = runId
  ids : w.mem.ids.Nodup
  router : ∀ j ∈ w.mem.ids, (w.mem.router j).runId = runId ∧
    (w.mem.router j).instrumentId = j ∧
    w.disk.rowState runId j = some (w.mem.router j).state

section Portfolio

variable {runId : String} {iid : InstrumentId}
  {down : InstrumentId → Option Decimal → Prop}
  {w w' : World (Durable V) (Portfolio S)}

theorem Running.linked (h : Running runId w) (hid : iid ∈ w.mem.ids) :
    Linked (seen w iid) := by
  obtain ⟨h1, h2, h3⟩ := h.router iid hid
  show w.disk.rowState (w.mem.router iid).runId
    (w.mem.router iid).instrumentId = some (w.mem.router iid).state
  rw [h1, h2, h3]

/-- One router's change leaves the portfolio running. -/
theorem Running.changed (hw : Running runId w) (hid : iid ∈ w.mem.ids)
    {g : State → State → Prop} {r : World (Durable V) (InstrumentRouter S)}
    (h : Change ex g (seen w iid) r) : Running runId (putBack w iid r) where
  pfRunId := hw.pfRunId
  ids := hw.ids
  router := by
    intro j hj
    obtain ⟨h1, h2, h3⟩ := hw.router j hj
    by_cases hji : j = iid
    · subst hji
      have hl := h.linked (hw.linked hid)
      obtain ⟨hr, hi⟩ := h.identity
      have hr' : r.mem.runId = runId := hr.trans h1
      have hi' : r.mem.instrumentId = j := hi.trans h2
      unfold Linked at hl
      rw [hr', hi'] at hl
      simp only [putBack, Portfolio.setRouter_self]
      exact ⟨hr', hi', hl⟩
    · have hrow : r.disk.rowState runId j = w.disk.rowState runId j := by
        have hi : j ≠ (seen w iid).mem.instrumentId := by
          rw [show (seen w iid).mem.instrumentId = iid from
            (hw.router iid hid).2.1]
          exact hji
        exact h.rowState_other hi
      simp only [putBack, Portfolio.setRouter_of_ne hji]
      exact ⟨h1, h2, hrow.trans h3⟩

theorem Running.moved (hw : Running runId w) (hid : iid ∈ w.mem.ids)
    {g : State → State → Prop} {r : World (Durable V) (InstrumentRouter S)}
    (h : Moves ex g (seen w iid) r) : Running runId (putBack w iid r) := by
  induction h with
  | refl => rw [putBack_seen]; exact hw
  | tail _ hc ih =>
      have hn := Running.changed ih (w := putBack w iid _) hid
        (by rw [seen_putBack]; exact hc)
      rw [putBack_putBack] at hn
      exact hn

/-- The state a router is shut down from decides what the shutdown may do. -/
theorem shutdown_any (ex : Executor V)
    (w : World (Durable V) (InstrumentRouter S)) (mark : Decimal) (exchangeSize : Option Decimal) :
    ∃ g, (InstrumentRouter.shutdown ex mark exchangeSize).Steps
      (Moves ex g) w := by
  by_cases hf : w.mem.state.frozen = true
  · by_cases hh : w.mem.state = .halted
    · exact ⟨_, shutdown_ending ex mark exchangeSize hh⟩
    · refine ⟨idle, ?_⟩
      have hl : w.mem.state = .liquidated := by
        revert hf hh
        cases w.mem.state <;> simp [State.frozen]
      rw [InstrumentRouter.shutdown]
      refine Prog.Steps.mem_bind ?_
      dsimp only
      rw [if_pos (Or.inl hl)]
      exact Prog.Steps.pure
  · exact ⟨_, shutdown_closing hf⟩

theorem Deed.running (h : Deed ex down w w') (hw : Running runId w) :
    Running runId w' := by
  cases h with
  | own pf' hrun hids hrouter =>
      refine ⟨hrun.trans hw.pfRunId, by rw [hids]; exact hw.ids, ?_⟩
      rw [hids, hrouter]
      exact hw.router
  | alert a => exact ⟨hw.pfRunId, hw.ids, hw.router⟩
  | venue v => exact ⟨hw.pfRunId, hw.ids, hw.router⟩
  | router iid hid h => exact hw.changed hid h
  | shutdown iid hid mark exchangeSize hdown =>
      obtain ⟨g, hg⟩ := shutdown_any ex (seen w iid) mark exchangeSize
      exact hw.moved hid hg

theorem Deeds.running (h : Deeds ex down w w') (hw : Running runId w) :
    Running runId w' := by
  induction h with
  | refl => exact hw
  | tail _ hd ih => exact hd.running ih

/-- A shutdown that does not find the router halted with a position keeps a
frozen row at every write. -/
theorem shutdown_along {w : World (Durable V) (InstrumentRouter S)}
    {ok : State → Submission → Prop} (ex : Executor V) (mark : Decimal)
    (exchangeSize : Option Decimal) (hw : Linked w)
    (h : w.mem.state = .halted → exchangeSize.getD w.mem.size = 0) :
    World.Along (Keeps ok w.mem.runId w.mem.instrumentId) w
      (InstrumentRouter.shutdown ex mark exchangeSize w).2 := by
  by_cases hf : w.mem.state.frozen = true
  · rw [InstrumentRouter.shutdown, Prog.mem_bind_apply]
    dsimp only
    rw [if_pos]
    · exact refl_of _ w
    · revert hf h
      cases w.mem.state <;> simp [State.frozen]
  · refine (Moves.along (shutdown_closing hf) hw
      fun w₁ w₂ hr hi hl hc => ?_).1
    rw [← hr, ← hi]
    exact (hc.mono fun _ _ => closing_le_firm).along_self hl

/-- What an operation does keeps a frozen row at every write, unless it is
the shutdown of a halted router with a position on the venue. -/
theorem Deed.along {ok : State → Submission → Prop} (h : Deed ex down w w')
    (hw : Running runId w)
    (hdown : ∀ x, down iid x → (w.mem.router iid).state = .halted →
      x.getD (w.mem.router iid).size = 0) :
    World.Along (Keeps ok runId iid) w w' := by
  cases h with
  | own pf' hrun hids hrouter => exact .memory pf'
  | alert a => exact .commit _ _ (.of_eq rfl rfl)
  | venue v => exact .commit _ _ (.of_eq rfl rfl)
  | @router j hid r h =>
      obtain ⟨h1, h2, -⟩ := hw.router j hid
      refine World.Along.remember (w := seen w j) ?_ w.mem _
      by_cases hj : iid = j
      · subst hj
        have ha : World.Along (Keeps ok _ _) (seen w iid) r :=
          h.along_self (hw.linked hid)
        rw [show (seen w iid).mem.runId = runId from h1,
          show (seen w iid).mem.instrumentId = iid from h2] at ha
        exact ha
      · refine h.along_other ?_
        rw [show (seen w j).mem.instrumentId = j from h2]
        exact hj
  | @shutdown j hid mark exchangeSize hd =>
      obtain ⟨h1, h2, -⟩ := hw.router j hid
      refine World.Along.remember (w := seen w j) ?_ w.mem _
      by_cases hj : iid = j
      · subst hj
        have ha : World.Along (Keeps ok _ _) (seen w iid) _ :=
          shutdown_along ex mark exchangeSize (hw.linked hid)
            (hdown exchangeSize hd)
        rw [show (seen w iid).mem.runId = runId from h1,
          show (seen w iid).mem.instrumentId = iid from h2] at ha
        exact ha
      · obtain ⟨g, hg⟩ := shutdown_any ex (seen w j) mark exchangeSize
        refine (Moves.along hg (hw.linked hid) fun w₁ w₂ hr hi hl hc => ?_).1
        refine hc.along_other ?_
        rw [hi, show (seen w j).mem.instrumentId = j from h2]
        exact hj

/-- Whatever an operation does, a frozen row is there in the end, and only a
halted router's shutdown submits for its instrument, to reduce. -/
theorem Deed.ends (h : Deed ex down w w') (hw : Running runId w) :
    World.Ends (Keeps (fun st s => st = .halted ∧
      s.request.reduceOnly = true ∧ ∃ x, down iid x) runId iid) w w' := by
  have hrest : ∀ down' : InstrumentId → Option Decimal → Prop,
      Deed ex down' w w' → (∀ x, down' iid x →
        (w.mem.router iid).state = .halted →
        x.getD (w.mem.router iid).size = 0) →
      World.Ends (Keeps (fun st s => st = .halted ∧
        s.request.reduceOnly = true ∧ ∃ x, down iid x) runId iid) w w' :=
    fun _ hd hdown => (hd.along hw hdown).ends
  cases h with
  | own pf' hrun hids hrouter =>
      exact hrest (fun _ _ => False) (.own pf' hrun hids hrouter) nofun
  | alert a => exact hrest (fun _ _ => False) (.alert a) nofun
  | venue v => exact hrest (fun _ _ => False) (.venue v) nofun
  | router j hid h => exact hrest (fun _ _ => False) (.router j hid h) nofun
  | shutdown j hid mark x hd =>
      by_cases hj : j = iid ∧ (w.mem.router iid).state = .halted
      · obtain ⟨rfl, hst⟩ := hj
        obtain ⟨h1, h2, -⟩ := hw.router j hid
        have he := shutdown_ends ex mark x (w := seen w j) hst (hw.linked hid)
        rw [show (seen w j).mem.runId = runId from h1,
          show (seen w j).mem.instrumentId = j from h2] at he
        exact he.mono fun _ _ hk => hk.mono fun _ _ hs => ⟨hs.1, hs.2, x, hd⟩
      · refine hrest (fun k y => k = j ∧ y = x) (.shutdown j hid mark x ⟨rfl, rfl⟩)
          fun y hy hst => ?_
        exact absurd ⟨hy.1.symm, hst⟩ hj

/-- A chain of deeds that shuts nothing down. -/
theorem Deeds.along {ok : State → Submission → Prop}
    (h : Deeds ex (fun _ _ => False) w w') (hw : Running runId w) :
    World.Along (Keeps ok runId iid) w w' := by
  induction h with
  | refl => exact refl_of _ w
  | tail hds hd ih =>
      exact trans_of _ ih (hd.along (Deeds.running hds hw) nofun)

theorem Deeds.ends (h : Deeds ex down w w') (hw : Running runId w) :
    World.Ends (Keeps (fun st s => st = .halted ∧
      s.request.reduceOnly = true ∧ ∃ x, down iid x) runId iid) w w' := by
  induction h with
  | refl => exact ⟨refl_of _ _, fun d hd => Or.inl hd⟩
  | tail hds hd ih => exact ih.trans (hd.ends (Deeds.running hds hw))

/-! ## The operations, by what they find -/

/-- The loop of a shutdown comes to each router once. -/
theorem shutdown_loop_along {ok : State → Submission → Prop}
    {snapshot : AccountSnapshot} {histories : List (InstrumentId × List Bar)}
    (hw : Running runId w)
    (hsafe : iid ∈ w.mem.ids → (w.mem.router iid).state = .halted →
      snapshot.size iid = 0) :
    (Portfolio.shutdown ex snapshot histories).Steps
      (World.Along (Keeps ok runId iid)) w := by
  have hloop : ∀ w₁ : World (Durable V) (Portfolio S), Running runId w₁ →
      w₁.mem = w.mem →
      (Portfolio.forRouters fun j => do
        let pf ← Prog.mem
        let pos := snapshot.position j
        let mark := Portfolio.shutdownMark (histories.lookup j) pos
          (pf.router j).entry
        Portfolio.onRouter j (InstrumentRouter.shutdown ex mark
          (some ((pos.map PositionView.size).getD 0)))).Steps
        (World.Along (Keeps ok runId iid)) w₁ := by
    intro w₁ hw₁ hmem
    refine Prog.Steps.mem_bind ?_
    refine Prog.Steps.forEach (fun rest w₂ => Running runId w₂ ∧
      rest.Nodup ∧ (∀ j ∈ rest, j ∈ w₂.mem.ids) ∧
      (iid ∈ rest → (w₂.mem.router iid).state = .halted →
        snapshot.size iid = 0)) (fun j rest w₂ hi => ?_)
      ⟨hw₁, hw₁.ids, fun j hj => hj, by rw [hmem]; exact hsafe⟩
    obtain ⟨hr, hnd, hsub, hhalt⟩ := hi
    have hj := hsub j (by simp)
    have hd : Deed ex (fun k x => k = j ∧ x = some (snapshot.size j)) w₂ _ :=
      .shutdown j hj (Portfolio.shutdownMark (histories.lookup j)
        (snapshot.position j) (w₂.mem.router j).entry)
        (some (snapshot.size j)) ⟨rfl, rfl⟩
    refine ⟨?_, ?_, (List.nodup_cons.mp hnd).2, ?_, ?_⟩
    · refine hd.along hr fun x hx hst => ?_
      obtain ⟨hij, rfl⟩ := hx
      subst hij
      exact hhalt (by simp) hst
    · exact hd.running hr
    · intro k hk
      exact hsub k (by simp [hk])
    · intro hk hst
      have hne : iid ≠ j := by
        rintro rfl
        exact (List.nodup_cons.mp hnd).1 hk
      refine hhalt (by simp [hk]) ?_
      rw [← hst]
      exact (congrArg InstrumentRouter.state
        (Portfolio.setRouter_of_ne hne)).symm
  unfold Portfolio.shutdown
  refine Prog.Steps.mem_bind ?_
  dsimp only
  split
  · refine Prog.Steps.bind (World.Along.commit _ _ (.of_eq rfl rfl)) fun _ => ?_
    exact hloop _ ⟨hw.pfRunId, hw.ids, hw.router⟩ rfl
  · exact hloop w hw rfl

/-- At every write of an operation a frozen row of the instrument is kept,
unless a shutdown bar finds its router halted with a position. -/
theorem perform_along {ok : State → Submission → Prop} {op : Portfolio.Op}
    (hw : Running runId w)
    (hsafe : ∀ x, op.downs ex w.disk.venue iid (some x) → iid ∈ w.mem.ids →
      (w.mem.router iid).state = .halted → x = 0) :
    (Portfolio.perform ex op).Steps (World.Along (Keeps ok runId iid)) w := by
  have hds := perform_deeds ex op w
  by_cases hop : ∃ histories, op = .onBar histories .shutdown
  · obtain ⟨histories, rfl⟩ := hop
    show (Portfolio.onBar ex histories .shutdown).Steps _ w
    unfold Portfolio.onBar
    have hcall : (call ex.snapshot : Act V (Portfolio S) _).Steps
        (World.Along (Keeps ok runId iid)) w := .commit _ _ (.of_eq rfl rfl)
    rcases call_cases ex.snapshot w with ⟨snapshot, hok, hc⟩ | ⟨e, hc⟩
    · refine Prog.Steps.bind_ok hc hcall ?_
      rw [if_pos rfl]
      refine shutdown_loop_along (w := called w _)
        ⟨hw.pfRunId, hw.ids, hw.router⟩ ?_
      exact hsafe _ ⟨histories, snapshot, rfl, hok, rfl⟩
    · exact Prog.Steps.bind_error hc hcall
  · have hquiet : Deeds ex (fun _ _ => False) w (Portfolio.perform ex op w).2 :=
      Deeds.mono (fun j x hx => hop ⟨hx.choose, hx.choose_spec.choose_spec.1⟩)
        hds
    exact hquiet.along hw

end Portfolio

/-! ## Recovery -/

/-- The rows of a run, looked up by instrument. -/
theorem find_getPositionsLocal (runId : String) (iid : InstrumentId)
    (db : Db) :
    (db.getPositionsLocal runId).find? (fun r => r.instrumentId = iid) =
      db.positionLocal runId iid := by
  rw [Db.getPositionsLocal, List.find?_filter, Db.positionLocal,
    KeyedTable.lookup]
  congr
  funext r
  simp [PositionLocalRow.key]

section Recovery

variable {runId : String} {iid : InstrumentId} {ok : State → Submission → Prop}
  {c₀ : Recovery S} {db₀ : Db} {rest : List InstrumentId}
  {w w' : World (Durable V) (Recovery S)} {snap : AccountSnapshot}

/-- Where the router loop stands: the routers still to come are as they
started, those that had their turn are what their rows say, frozen only where
the row was. -/
structure Adopting (runId : String) (c₀ : Recovery S) (db₀ : Db)
    (rest : List InstrumentId) (w : World (Durable V) (Recovery S)) :
    Prop where
  pfRunId : w.mem.pf.runId = runId
  ids : w.mem.pf.ids = c₀.pf.ids
  nodup : rest.Nodup
  sub : ∀ j ∈ rest, j ∈ c₀.pf.ids
  identity : ∀ j, (w.mem.pf.router j).runId = runId ∧
    (w.mem.pf.router j).instrumentId = j
  todo : ∀ j ∈ rest,
    w.disk.db.positionLocal runId j = db₀.positionLocal runId j
  done : ∀ j ∈ c₀.pf.ids, j ∉ rest →
    w.disk.rowState runId j = some (w.mem.pf.router j).state ∧
      ((w.mem.pf.router j).state.frozen = true →
        frozenRow (db₀.positionLocal runId j) = true)

theorem SameTables.keeps {d d' : Durable V} (h : SameTables d d') :
    Keeps ok runId iid d d' := by
  refine .of_eq ?_ h.submitted
  rw [Durable.rowState, Durable.rowState, Db.positionLocal, Db.positionLocal,
    h.positions]

theorem SameTables.positionLocal {d d' : Durable V} (h : SameTables d d') :
    d'.db.positionLocal runId iid = d.db.positionLocal runId iid := by
  rw [Db.positionLocal, Db.positionLocal, h.positions]

/-- A frozen row, in the terms of its state. -/
theorem frozenRow_of_rowState {d : Durable V} {st : State}
    (h : d.rowState runId iid = some st) :
    frozenRow (d.db.positionLocal runId iid) = st.frozen := by
  rw [Durable.rowState] at h
  cases hrow : d.db.positionLocal runId iid with
  | none => rw [hrow] at h; cases h
  | some row =>
      rw [hrow] at h
      exact congrArg State.frozen (Option.some.inj h)

/-- Writing a router's row, whatever the other tables hold. -/
theorem rowState_localRow {r : InstrumentRouter S} {d : Durable V}
    {now : DateTime} (hr : r.runId = runId) (hi : r.instrumentId = iid) :
    Durable.rowState runId iid
      { d with db := d.db.upsertPositionLocal (r.localRow now) } =
      some r.state := by
  subst hr hi
  exact rowState_upsert_self (r.localRow now)

/-- One turn of the router loop. -/
theorem Turned.adopting (ok : State → Submission → Prop) (iid : InstrumentId)
    {j : InstrumentId} (h : Turned ex snap (db₀.positionLocal runId j) j w w')
    (hw : Adopting runId c₀ db₀ (j :: rest) w) :
    Adopting runId c₀ db₀ rest w' ∧ World.Along (Keeps ok runId iid) w w' := by
  obtain ⟨w₁, now, halong, hdisk, hpast⟩ := h.written
  have hpf := h.pf
  have hsame : SameTables w.disk w₁.disk := halong.between.1
  obtain ⟨hnj, hnd⟩ := List.nodup_cons.mp hw.nodup
  have hrow : w₁.disk.db.positionLocal runId j =
      db₀.positionLocal runId j :=
    hsame.positionLocal.trans (hw.todo j (by simp))
  have hs := taken_same snap (db₀.positionLocal runId j) w.disk.db j
    (w.mem.pf.router j)
  have hst := taken_state snap (db₀.positionLocal runId j) w.disk.db j
    (w.mem.pf.router j)
  generalize taken snap (db₀.positionLocal runId j) w.disk.db j
    (w.mem.pf.router j) = r at *
  have hrun : r.runId = runId := hs.1.trans (hw.identity j).1
  have hrid : r.instrumentId = j := hs.2.1.trans (hw.identity j).2
  have hself : w'.disk.rowState runId j = some r.state := by
    rw [hdisk]
    exact rowState_localRow hrun hrid
  have hother : ∀ k, k ≠ j → w'.disk.db.positionLocal runId k =
      w.disk.db.positionLocal runId k := by
    intro k hk
    rw [hdisk]
    refine (Db.positionLocal_upsertPositionLocal_ne ?_).trans
      hsame.positionLocal
    intro heq
    exact hk ((Prod.mk.inj heq).2.trans hrid)
  -- the state written is frozen just when the row loaded was
  have hfrozen : r.state.frozen =
      frozenRow (db₀.positionLocal runId j) := by
    rw [hst]
    cases hd : db₀.positionLocal runId j with
    | none =>
        have hf : frozenRow none = false := rfl
        rw [if_neg (by rw [hf]; nofun), hf]
        split <;> rfl
    | some row =>
        have hf : frozenRow (some row) = row.state.frozen := rfl
        rw [hf]
        split
        · rfl
        · next hn =>
            rw [eq_false_of_ne_true hn]
            split <;> rfl
  constructor
  · refine ⟨by rw [hpf]; exact hw.pfRunId, by rw [hpf]; exact hw.ids, hnd,
      fun k hk => hw.sub k (by simp [hk]), fun k => ?_, fun k hk => ?_,
      fun k hk hnk => ?_⟩
    · rw [hpf]
      by_cases hkj : k = j
      · subst hkj
        rw [Portfolio.setRouter_self]
        exact ⟨hrun, hrid⟩
      · rw [Portfolio.setRouter_of_ne hkj]
        exact hw.identity k
    · have hkj : k ≠ j := fun heq => hnj (heq ▸ hk)
      rw [hother k hkj]
      exact hw.todo k (by simp [hk])
    · by_cases hkj : k = j
      · subst hkj
        rw [hpf, Portfolio.setRouter_self, ← hfrozen]
        exact ⟨hself, id⟩
      · rw [hpf, Portfolio.setRouter_of_ne hkj, Durable.rowState, hother k hkj]
        exact hw.done k hk (by simp [hkj, hnk])
  · refine trans_of _ (halong.mono fun _ _ => SameTables.keeps) ?_
    have hw' : w' = { mem := w'.mem, disk := w'.disk
                      past := w₁.past ++ [w₁.disk] } := by
      rw [← hpast]
    rw [hw']
    refine .commit _ _ ?_
    by_cases hij : iid = j
    · subst hij
      refine Keeps.of_frozen (fun st hf hst' => ?_) (by rw [hdisk])
      have hfr := frozenRow_of_rowState hst'
      rw [Durable.rowState, hrow] at hst'
      rw [hrow] at hfr
      rw [hself, hst, if_pos (hfr.trans hf), hst']
      rfl
    · refine .of_eq ?_ (by rw [hdisk])
      rw [hdisk]
      exact rowState_upsert_ne (fun heq => hij (heq.trans hrid))

/-- One turn of the order loop, once every router had its turn. -/
theorem Classified.adopting (ok : State → Submission → Prop)
    (iid : InstrumentId) {o : OrderRow} {rows : List PositionLocalRow}
    (hrows : ∀ j, rows.find? (fun r => r.instrumentId = j) =
      db₀.positionLocal runId j)
    (h : Classified ex snap rows o w w') (hw : Adopting runId c₀ db₀ [] w) :
    Adopting runId c₀ db₀ [] w' ∧ World.Along (Keeps ok runId iid) w w' := by
  cases h with
  | done h => exact ⟨hw, refl_of _ w⟩
  | relabelled rep status h hstatus hno =>
      refine ⟨⟨hw.pfRunId, hw.ids, hw.nodup, hw.sub, hw.identity, by simp,
        hw.done⟩, ?_⟩
      exact .commit _ _ (.of_eq rfl rfl)
  | restored rep st r db h hrests hst hr hdb =>
      have hrun : r.runId = runId := by rw [hr]; exact (hw.identity _).1
      have hrid : r.instrumentId = o.instrumentId := by
        rw [hr]; exact (hw.identity _).2
      have hself : Durable.rowState runId o.instrumentId
          { w.disk with db := db } = some r.state := by
        rw [hdb]
        exact rowState_localRow hrun hrid
      have hrst : r.state = st := by rw [hr]; rfl
      -- the row waited, so it was not frozen, and neither is what it became
      have hpend : st.pending = true ∧
          frozenRow (db₀.positionLocal runId o.instrumentId) = false := by
        rw [restoredState] at hst
        split at hst
        · rw [hrows, Option.filter_eq_some_iff] at hst
          obtain ⟨hrow, hp⟩ := hst
          cases hd : db₀.positionLocal runId o.instrumentId with
          | none => rw [hd] at hrow; cases hrow
          | some row =>
              rw [hd] at hrow
              refine ⟨hp, ?_⟩
              have hf := pending_not_frozen hp
              rw [← Option.some.inj hrow] at hf
              exact eq_false_of_ne_true hf
        · cases hst
      have hid : o.instrumentId ∈ c₀.pf.ids := by
        rw [restoredState, hw.ids] at hst
        split at hst
        · next hid => exact hid
        · cases hst
      have hother : ∀ k, k ≠ o.instrumentId →
          Durable.rowState runId k { w.disk with db := db } =
            w.disk.rowState runId k := by
        intro k hk
        rw [hdb]
        exact rowState_upsert_ne fun heq => hk (heq.trans hrid)
      constructor
      · refine ⟨hw.pfRunId, hw.ids, List.nodup_nil, by simp, fun k => ?_, by simp,
          fun k hk _ => ?_⟩
        · show ((w.mem.pf.setRouter o.instrumentId r).router k).runId = runId ∧
            ((w.mem.pf.setRouter o.instrumentId r).router k).instrumentId = k
          by_cases hk : k = o.instrumentId
          · subst hk
            rw [Portfolio.setRouter_self]
            exact ⟨hrun, hrid⟩
          · rw [Portfolio.setRouter_of_ne hk]
            exact hw.identity k
        · show Durable.rowState runId k { w.disk with db := db } =
              some ((w.mem.pf.setRouter o.instrumentId r).router k).state ∧
            (((w.mem.pf.setRouter o.instrumentId r).router k).state.frozen =
                true → frozenRow (db₀.positionLocal runId k) = true)
          by_cases hko : k = o.instrumentId
          · subst hko
            rw [Portfolio.setRouter_self]
            refine ⟨hself, fun hf => ?_⟩
            rw [hrst] at hf
            exact absurd hf (pending_not_frozen hpend.1)
          · rw [Portfolio.setRouter_of_ne hko, hother k hko]
            exact hw.done k hk (by simp)
      · refine trans_of _ (.commit w.mem { w.disk with db := db } ?_)
          (.commit _ _ (.of_eq rfl rfl))
        by_cases hio : iid = o.instrumentId
        · subst hio
          refine .of_active (hw.done _ hid (by simp)).1 fun hf => ?_
          rw [(hw.done _ hid (by simp)).2 hf] at hpend
          cases hpend.2
        · exact .of_eq (hother iid hio) rfl

/-- What touches no table leaves the routers where they stand. -/
theorem Adopting.calm (hw : Adopting runId c₀ db₀ rest w)
    (h : SameTables w.disk w'.disk) (hpf : w'.mem.pf = w.mem.pf) :
    Adopting runId c₀ db₀ rest w' where
  pfRunId := by rw [hpf]; exact hw.pfRunId
  ids := by rw [hpf]; exact hw.ids
  nodup := hw.nodup
  sub := hw.sub
  identity := by rw [hpf]; exact hw.identity
  todo := fun j hj => h.positionLocal.trans (hw.todo j hj)
  done := by
    rw [hpf]
    intro j hj hn
    rw [Durable.rowState, h.positionLocal]
    exact hw.done j hj hn

/-- Started routers stand at the beginning of the loop. -/
theorem Started.adopting {c : Recovery S} {d : Durable V}
    {past : List (Durable V)} (h : Started runId c) :
    Adopting runId c d.db c.pf.ids { mem := c, disk := d, past := past } where
  pfRunId := h.pfRunId
  ids := rfl
  nodup := h.ids
  sub := fun _ hj => hj
  identity := by
    intro j
    obtain ⟨strategy, strategyState, categories, limits, exposure, hr⟩ :=
      h.router j
    rw [show (World.mem (δ := Durable V) ⟨c, d, past⟩) = c from rfl, hr]
    exact ⟨rfl, rfl⟩
  todo := fun _ _ => rfl
  done := fun _ hj hn => absurd hj hn

/-- What recovery does keeps a frozen row and leaves the routers where they
stand. -/
theorem recovers_adopting {w₀ : World (Durable V) (Recovery S)}
    {rows : List PositionLocalRow}
    (hrows : rows = db₀.getPositionsLocal runId) :
    Recovers ex snap rows runId
      (fun st w => Adopting runId c₀ db₀ st.todo w ∧
        World.Along (Keeps ok runId iid) w₀ w)
      (fun w => World.Along (Keeps ok runId iid) w₀ w) := by
  have hfind : ∀ j, rows.find? (fun r => r.instrumentId = j) =
      db₀.positionLocal runId j := by
    intro j
    rw [hrows]
    exact find_getPositionsLocal runId j db₀
  have hsame : ∀ {w w' : World (Durable V) (Recovery S)},
      World.Along (Keeps ok runId iid) w₀ w → World.Along SameTables w w' →
      World.Along (Keeps ok runId iid) w₀ w' :=
    fun h ha => trans_of _ h (ha.mono fun _ _ => SameTables.keeps)
  exact
    { calm := fun hi h => ⟨hi.1.calm h.along.between.1 h.pf, hsame hi.2 h.along⟩
      turn := by
        intro j rest w w' hi h
        rw [hfind] at h
        obtain ⟨ha, hl⟩ := h.adopting ok iid hi.1
        exact ⟨ha, trans_of _ hi.2 hl⟩
      unknown := id
      guard := fun hi h => ⟨hi.1.calm h.along.between.1 h.pf, hsame hi.2 h.along⟩
      orders := id
      classify := by
        intro o rest w w' hi h
        obtain ⟨ha, hl⟩ := h.adopting ok iid hfind hi.1
        exact ⟨ha, trans_of _ hi.2 hl⟩
      foreign := id
      cancel := fun hi h => ⟨hi.1.calm h.along.between.1 h.pf, hsame hi.2 h.along⟩
      turnRaised := fun hi ha _ => hsame hi.2 ha
      guardRaised := fun hi ha _ _ _ => hsame hi.2 ha
      cancelRaised := fun hi ha _ => hsame hi.2 ha
      raised := fun he h => hsame he h.along }

/-- A started process recovers along a frozen row, and when recovery returns
every router is what its row says. -/
theorem recovering_keeps {c : Recovery S} {d : Durable V}
    (h : Started runId c) :
    Prog.wp (recover ex)
      (fun _ w' => Adopting runId c d.db [] w' ∧
        World.Along (Keeps ok runId iid) ⟨c, d, []⟩ w')
      (fun _ w' => World.Along (Keeps ok runId iid) ⟨c, d, []⟩ w')
      { mem := c, disk := d, past := [] } := by
  have hcall : World.Along (Keeps ok runId iid)
      (⟨c, d, []⟩ : World (Durable V) (Recovery S))
      (called ⟨c, d, []⟩ (ex.snapshot d.venue).2) := .commit _ _ (.of_eq rfl rfl)
  have hstart : Adopting runId c d.db c.pf.ids
      (called ⟨c, d, []⟩ (ex.snapshot d.venue).2) :=
    h.adopting (d := { d with venue := (ex.snapshot d.venue).2 })
  exact recover_rule rfl h.pfRunId.symm rfl (fun _ _ => hcall) fun snap _ =>
    ⟨⟨hstart, hcall⟩, recovers_adopting rfl⟩

end Recovery

end Polyperps
