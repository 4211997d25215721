import Polyperps.Proofs.OrderIds
import Polyperps.Proofs.Retries

/-!
# What a shutdown leaves when executor calls fail

The loop of a shutdown has no isolation: a router whose turn raises ends it.
What a turn awaits is followed here over the venue alone (`turn`), each call
once, in the code's order, down into the handlers. A submit that raises
freezes its router before anything else is awaited, so the router that raises
is safe itself; the ones after it are left as they were. The shutdown freezes
every router just when no turn raises while one behind it is still active.
-/

namespace Polyperps

open ProgramLogic InstrumentRouter

variable {V S : Type} {ex : Executor V}

namespace Stranding

/-- Whether a submit raises out of `_submit_with_recovery`, and the venue it
leaves; `otherwise` is what follows a timeout with nothing landed. -/
def attempt (ex : Executor V) (req : OrderRequest) (sizeBefore : Decimal)
    (otherwise : V → Bool × V) (v : V) : Bool × V :=
  match ex.submit req v with
  | (.ok _, v) => (false, v)
  | (.error e, v) =>
      if e.isTimeout then
        match ex.snapshot v with
        | (.error _, v) => (true, v)
        | (.ok snap, v) =>
            if landed req snap sizeBefore then (false, v) else otherwise v
      else (true, v)

/-- Whether `_submit_with_recovery` raises. -/
def submit (ex : Executor V) (req : OrderRequest) (sizeBefore : Decimal) :
    V → Bool × V :=
  attempt ex req sizeBefore (attempt ex req sizeBefore fun v => (false, v))

/-- Whether taking the exchange's size raises: the snapshot, or the stop of a
position that has none. -/
def adopt (ex : Executor V) (iid : InstrumentId) (limits : RiskLimits)
    (v : V) : Bool × V :=
  match ex.snapshot v with
  | (.error _, v) => (true, v)
  | (.ok snap, v) =>
      match (snap.position iid).filter (·.size ≠ 0), snap.stop iid with
      | some pos, none =>
          if pos.entryPrice ≤ 0 then (true, v)
          else
            match ex.placeStop pos.instrumentId
              (stopPrice (decide (0 < pos.size)) pos.entryPrice limits) v with
            | (.ok _, v) => (false, v)
            | (.error e, v) => (decide (e.kind ≠ .shadowRefused), v)
      | _, _ => (false, v)

/-- The order that flattens what the venue holds. -/
def flattening (r : InstrumentRouter S) (held : Decimal) (now : DateTime) :
    OrderRequest where
  clientOrderId := nextCid r
  instrumentId := r.instrumentId
  side := if 0 < held then .sell else .buy
  quantity := |held|
  reduceOnly := true
  ts := now

/-- Whether sending that order raises: its submit does, and then the handler
of that. -/
def exit (ex : Executor V) (r : InstrumentRouter S) (held : Decimal) (v : V) :
    Bool × V :=
  match submit ex (flattening r held (ex.clock v)) r.size v with
  | (false, v) => (false, v)
  | (true, v) => adopt ex r.instrumentId r.limits v

/-- Whether a router's turn of the shutdown raises, and the venue it
leaves. -/
def turn (ex : Executor V) (r : InstrumentRouter S) (held : Decimal) (v : V) :
    Bool × V :=
  if held ≠ 0 ∧ (r.state = .opened ∨ r.state = .halted ∨ r.state = .flat) then
    exit ex r held v
  else (false, v)

/-- No turn raises while a router behind it is active. -/
def spares (ex : Executor V) (router : InstrumentId → InstrumentRouter S)
    (held : InstrumentId → Decimal) : List InstrumentId → V → Bool
  | [], _ => true
  | j :: rest, v =>
      let (raises, v) := turn ex (router j) (held j) v
      if raises then rest.all fun k => (router k).state.frozen
      else spares ex router held rest v

end Stranding

/-- A program that raises or returns as the outcome says, at its venue, and
leaves a memory that satisfies `P` either way. -/
def ComesTo {α μ : Type} (m : Act V μ α) (out : Bool × V) (P : μ → Prop)
    (w : World (Durable V) μ) : Prop :=
  Prog.wp m (fun _ w' => out = (false, w'.disk.venue) ∧ P w'.mem)
    (fun _ w' => out = (true, w'.disk.venue) ∧ P w'.mem) w

section Router

variable {w : World (Durable V) (InstrumentRouter S)}

theorem submitAttempt_comesTo {attempt : ℕ} {req : OrderRequest}
    {sizeBefore : Decimal} {out : V → Bool × V}
    {otherwise : Act V (InstrumentRouter S) (Option OrderAck)}
    (ho : ∀ w' : World (Durable V) (InstrumentRouter S), w'.mem = w.mem →
      ComesTo otherwise (out w'.disk.venue) (· = w.mem) w') :
    ComesTo (submitAttempt ex attempt req sizeBefore otherwise)
      (Stranding.attempt ex req sizeBefore out w.disk.venue) (· = w.mem) w := by
  unfold ComesTo submitAttempt Stranding.attempt
  simp only [Prog.wp_catching, Prog.wp_bind, Prog.wp_mem, wp_callSubmit]
  cases ex.submit req w.disk.venue with
  | mk answer v =>
  cases answer with
  | ok ack => exact ⟨rfl, rfl⟩
  | error e =>
      dsimp only
      rw [Prog.wp_ite]
      split
      · simp only [Prog.wp_bind, wp_call, sent_venue]
        cases ex.snapshot v with
        | mk answer v =>
        cases answer with
        | error e => exact ⟨rfl, rfl⟩
        | ok snap =>
            dsimp only
            rw [Prog.wp_ite]
            split
            · exact ⟨rfl, rfl⟩
            · exact ho _ rfl
      · exact ⟨rfl, rfl⟩

theorem submitWithRecovery_comesTo {req : OrderRequest}
    {sizeBefore : Decimal} :
    ComesTo (submitWithRecovery ex req sizeBefore)
      (Stranding.submit ex req sizeBefore w.disk.venue) (· = w.mem) w := by
  refine submitAttempt_comesTo fun w' hw' => ?_
  unfold ComesTo
  rw [Prog.wp_bind, wp_alert, ← hw']
  exact submitAttempt_comesTo fun w'' hw'' => ⟨rfl, hw''⟩

theorem adopt_comesTo :
    ComesTo (call ex.snapshot >>= fun snap => InstrumentRouter.adopt ex snap)
      (Stranding.adopt ex w.mem.instrumentId w.mem.limits w.disk.venue)
      (·.state = w.mem.state) w := by
  unfold ComesTo Stranding.adopt
  rw [Prog.wp_bind, wp_call]
  cases ex.snapshot w.disk.venue with
  | mk answer v =>
  cases answer with
  | error e => exact ⟨rfl, rfl⟩
  | ok snap =>
      dsimp only
      unfold InstrumentRouter.adopt
      simp only [Prog.wp_bind, Prog.wp_modifyMem, Prog.wp_mem, called_mem]
      cases (snap.position w.mem.instrumentId).filter (·.size ≠ 0) with
      | none => exact ⟨rfl, rfl⟩
      | some pos =>
          simp only [Prog.wp_bind, Prog.wp_modifyMem]
          unfold adoptStop
          rw [Prog.wp_bind, Prog.wp_mem]
          dsimp only
          cases snap.stop w.mem.instrumentId with
          | some trigger => exact ⟨rfl, rfl⟩
          | none =>
              simp only [Prog.wp_catching, Prog.wp_bind, placeExchangeStop,
                Prog.wp_ite]
              split
              · exact ⟨rfl, rfl⟩
              simp only [wp_call, called_venue]
              cases ex.placeStop pos.instrumentId
                (stopPrice (decide (0 < pos.size)) pos.entryPrice w.mem.limits)
                v with
              | mk answer v =>
              cases answer with
              | ok u => exact ⟨rfl, rfl⟩
              | error e =>
                  dsimp only
                  by_cases hs : e.kind = .shadowRefused
                  · rw [if_pos hs, decide_eq_false (not_not.mpr hs)]
                    exact ⟨rfl, rfl⟩
                  · rw [if_neg hs, decide_eq_true hs]
                    exact ⟨rfl, rfl⟩

/-- The handler of a submit that raised freezes the router, and comes to what
the adoption comes to. -/
theorem submitFailed_comesTo {cid : ClientOrderId} {e : Exc}
    (h : w.mem.state.pending = true) :
    ComesTo (submitFailed ex cid e)
      (Stranding.adopt ex w.mem.instrumentId w.mem.limits w.disk.venue)
      (·.state = .halted) w := by
  have hadopt : ∀ w₁ : World (Durable V) (InstrumentRouter S),
      w₁.mem.instrumentId = w.mem.instrumentId →
      w₁.mem.limits = w.mem.limits → w₁.disk.venue = w.disk.venue →
      w₁.mem.state = .halted →
      ComesTo (call ex.snapshot >>= fun snap => InstrumentRouter.adopt ex snap)
        (Stranding.adopt ex w.mem.instrumentId w.mem.limits w.disk.venue)
        (·.state = .halted) w₁ := by
    intro w₁ hi hl hv hs
    rw [← hi, ← hl, ← hv, ← hs]
    exact adopt_comesTo
  unfold ComesTo submitFailed halt
  simp only [Prog.wp_bind, wp_updateOrder, wp_alert, Prog.wp_mem, wrote_mem,
    updated_mem, Prog.wp_ite, if_neg (pending_not_frozen h),
    Prog.wp_modifyMem, wp_setState]
  exact Prog.wp_bind.mp (hadopt _ rfl rfl (by simp) rfl)

/-- The flattening order raises out of `_send` just when its submit and the
handler of that raise; then its router is halted. -/
theorem send_comesTo (hfree : ∀ x ∈ w.disk.db.decisions,
      x.key ≠ (w.mem.runId, w.mem.instrumentId, w.mem.dseq + 1))
    {intent : Intent} {held : Decimal} {target : Option Decimal}
    (hreq : w.mem.orderRequest (nextCid w.mem) intent (ex.clock w.disk.venue) =
      Stranding.flattening w.mem held (ex.clock w.disk.venue)) :
    Prog.wp (send ex intent target [])
      (fun _ w' => Stranding.exit ex w.mem held w.disk.venue =
        (false, w'.disk.venue))
      (fun _ w' => Stranding.exit ex w.mem held w.disk.venue =
        (true, w'.disk.venue) ∧ w'.mem.state = .halted) w := by
  unfold send Stranding.exit
  simp only [Prog.wp_bind, Prog.wp_mem, Prog.wp_attempt]
  rcases announce_cases ex intent target [] w with hok | ⟨-, x, hx, hkey⟩
  swap
  · exact absurd hkey (hfree x hx)
  rw [Prog.wp_of_ok hok, hreq]
  have hwait : intent.waiting.pending = true := by
    unfold Intent.waiting
    split <;> rfl
  refine Prog.wp_mono submitWithRecovery_comesTo (fun ack w₁ h₁ => ?_)
    (fun e w₁ h₁ => ?_)
  · rw [show Stranding.submit ex _ w.mem.size w.disk.venue = _ from h₁.1]
    refine Prog.wp_mono acknowledge_spec (fun _ w₂ h₂ => ?_)
      (fun _ _ hf => hf.elim)
    rw [h₂.1]
  · rw [show Stranding.submit ex _ w.mem.size w.disk.venue = _ from h₁.1]
    have hmem : w₁.mem = waiting w.mem intent (ex.clock w.disk.venue) := h₁.2
    have hfailed : ComesTo (submitFailed ex (Stranding.flattening w.mem held
        (ex.clock w.disk.venue)).clientOrderId e) _ _ w₁ :=
      submitFailed_comesTo (by rw [hmem]; exact hwait)
    rw [hmem] at hfailed
    exact Prog.wp_mono hfailed (fun _ _ h => h.1) fun _ _ h => h

/-- A router's turn of the shutdown raises as its calls say, and leaves it
frozen. -/
theorem shutdown_comesTo (ex : Executor V) (mark held : Decimal)
    (hfree : ∀ x ∈ w.disk.db.decisions,
      x.key ≠ (w.mem.runId, w.mem.instrumentId, w.mem.dseq + 1)) :
    ComesTo (InstrumentRouter.shutdown ex mark (some held))
      (Stranding.turn ex w.mem held w.disk.venue)
      (·.state.frozen = true) w := by
  unfold ComesTo InstrumentRouter.shutdown Stranding.turn
  rw [Prog.wp_bind, Prog.wp_mem]
  simp only [Option.getD_some, Prog.wp_ite]
  split
  · next hdone =>
      have hno : ¬ (held ≠ 0 ∧ (w.mem.state = .opened ∨
          w.mem.state = .halted ∨ w.mem.state = .flat)) := by
        rcases hdone with hl | ⟨-, hz⟩
        · rw [hl]; simp
        · exact fun h => h.1 hz
      rw [if_neg hno]
      refine ⟨rfl, ?_⟩
      rcases hdone with hl | ⟨hl, -⟩ <;> rw [hl] <;> rfl
  · have hend : ∀ {out : Bool × V}
        {w₁ : World (Durable V) (InstrumentRouter S)},
        out = (false, w₁.disk.venue) →
        Prog.wp (if w.mem.state = .halted then setState ex .halted
            else alert ex .critical "kill_switch" [("action", "shutdown")] >>=
              fun _ => setState ex .halted)
          (fun _ w' => out = (false, w'.disk.venue) ∧
            w'.mem.state.frozen = true)
          (fun _ w' => out = (true, w'.disk.venue) ∧
            w'.mem.state.frozen = true) w₁ := by
      intro out w₁ hout
      rw [Prog.wp_ite]
      split <;> exact ⟨hout, rfl⟩
    split
    · rw [Prog.wp_bind, InstrumentRouter.exit, Prog.wp_bind, Prog.wp_mem]
      refine Prog.wp_mono (send_comesTo hfree rfl) (fun _ w₁ h₁ => hend h₁)
        (fun _ w₁ h₁ => ⟨h₁.1, by rw [h₁.2]; rfl⟩)
    · exact Prog.wp_ite.mp (hend rfl)

/-- The decision rows a change adds are of the router's own instrument. -/
theorem Change.decisions_own {g : State → State → Prop}
    {w' : World (Durable V) (InstrumentRouter S)} (h : Change ex g w w') :
    ∀ x ∈ w'.disk.db.decisions,
      x ∈ w.disk.db.decisions ∨ x.instrumentId = w.mem.instrumentId := by
  have hadded : ∀ {db : Db} {row : DecisionRow},
      row.instrumentId = w.mem.instrumentId →
      ∀ x ∈ (decidedDb db row).decisions,
        x ∈ db.decisions ∨ x.instrumentId = w.mem.instrumentId := by
    intro db row hrow x hx
    rcases List.mem_append.mp hx with hx | hx
    · exact Or.inl hx
    · rw [List.mem_singleton.mp hx]
      exact Or.inr hrow
  cases h with
  | note target verdicts text =>
      rcases record_cases ex target verdicts none none text w with
        hok | ⟨herr, -⟩
      · rw [hok]; exact hadded rfl
      · rw [herr]; exact fun _ hx => Or.inl hx
  | announce intent target verdicts h =>
      rcases announce_cases ex intent target verdicts w with hok | ⟨herr, -⟩
      · rw [hok]; exact hadded rfl
      · rw [herr]; exact fun _ hx => Or.inl hx
  | _ => exact fun _ hx => Or.inl hx

theorem Moves.decisions_own {g : State → State → Prop}
    {w' : World (Durable V) (InstrumentRouter S)} (h : Moves ex g w w') :
    ∀ x ∈ w'.disk.db.decisions,
      x ∈ w.disk.db.decisions ∨ x.instrumentId = w.mem.instrumentId := by
  induction h with
  | refl => exact fun _ hx => Or.inl hx
  | tail hm hc ih =>
      intro x hx
      rcases hc.decisions_own x hx with hx | hx
      · exact ih x hx
      · exact Or.inr (hx.trans (Moves.identity hm).2)

end Router

/-! ## The loop -/

section Portfolio

variable {runId : String} {w w' : World (Durable V) (Portfolio S)}

/-- Each router is its instrument's, and its next decision has a number of
its own. -/
structure Deciding (w : World (Durable V) (Portfolio S)) : Prop where
  ids : w.mem.ids.Nodup
  router : ∀ j ∈ w.mem.ids, (w.mem.router j).instrumentId = j
  free : ∀ j ∈ w.mem.ids, ∀ x ∈ w.disk.db.decisions,
    x.key ≠ ((w.mem.router j).runId, j, (w.mem.router j).dseq + 1)

/-- Every process of a run decides under numbers of its own. -/
theorem Numbered.deciding (h : Numbered runId w) : Deciding w where
  ids := h.running.ids
  router := fun j hj => (h.running.router j hj).2.1
  free := by
    intro j hj x hx hkey
    have hi := (h.running.router j hj).2.1
    have hle := (h.counts j hj).dseq x hx (congrArg Prod.fst hkey)
      ((congrArg (·.2.1) hkey).trans hi.symm)
    have hseq : x.seq = (w.mem.router j).dseq + 1 := congrArg (·.2.2) hkey
    omega

/-- One turn of the loop of `_shutdown`. -/
def shutdownTurn (ex : Executor V) (snapshot : AccountSnapshot)
    (histories : List (InstrumentId × List Bar)) (iid : InstrumentId) :
    Act V (Portfolio S) Unit := do
  let pf ← Prog.mem
  let pos := snapshot.position iid
  let mark := Portfolio.shutdownMark (histories.lookup iid) pos
    (pf.router iid).entry
  Portfolio.onRouter iid (InstrumentRouter.shutdown ex mark
    (some ((pos.map PositionView.size).getD 0)))

/-- Where the loop stands: the routers still to come are as they were. -/
structure Awaiting (w₀ : World (Durable V) (Portfolio S))
    (rest : List InstrumentId) (w : World (Durable V) (Portfolio S)) :
    Prop where
  ids : w.mem.ids = w₀.mem.ids
  nodup : rest.Nodup
  todo : ∀ j ∈ rest, w.mem.router j = w₀.mem.router j
  free : ∀ j ∈ rest, (w₀.mem.router j).instrumentId = j ∧
    ∀ x ∈ w.disk.db.decisions,
      x.key ≠ ((w₀.mem.router j).runId, j, (w₀.mem.router j).dseq + 1)
  done : ∀ j ∈ w₀.mem.ids, j ∉ rest → (w.mem.router j).state.frozen = true

/-- One turn: it raises as its calls say, and either way its router is frozen
and the ones behind it are as they were. -/
theorem Awaiting.turn (ex : Executor V) {w₀ : World (Durable V) (Portfolio S)}
    {iid : InstrumentId} {rest : List InstrumentId}
    (h : Awaiting w₀ (iid :: rest) w) (snapshot : AccountSnapshot)
    (histories : List (InstrumentId × List Bar)) :
    Prog.wp (shutdownTurn ex snapshot histories iid)
      (fun _ w' => Stranding.turn ex (w₀.mem.router iid) (snapshot.size iid)
        w.disk.venue = (false, w'.disk.venue) ∧ Awaiting w₀ rest w')
      (fun _ w' => (Stranding.turn ex (w₀.mem.router iid) (snapshot.size iid)
        w.disk.venue).1 = true ∧ Awaiting w₀ rest w') w := by
  obtain ⟨hnotin, hnodup⟩ := List.nodup_cons.mp h.nodup
  obtain ⟨hiid, hfree⟩ := h.free iid (by simp)
  have hrouter : (seen w iid).mem = w₀.mem.router iid := h.todo iid (by simp)
  unfold shutdownTurn
  rw [Prog.wp_bind, Prog.wp_mem, Portfolio.onRouter, Prog.wp_focus]
  obtain ⟨g, hmoves⟩ := shutdown_any ex (seen w iid)
    (Portfolio.shutdownMark (histories.lookup iid) (snapshot.position iid)
      (w.mem.router iid).entry) (some (snapshot.size iid))
  have hcomes := shutdown_comesTo (w := seen w iid) ex
    (Portfolio.shutdownMark (histories.lookup iid) (snapshot.position iid)
      (w.mem.router iid).entry) (snapshot.size iid)
    (by rw [hrouter, hiid]; exact hfree)
  have hnext : ∀ r : World (Durable V) (InstrumentRouter S),
      r.mem.state.frozen = true → Moves ex g (seen w iid) r →
      Awaiting w₀ rest (putBack w iid r) := by
    intro r hr hm
    refine ⟨h.ids, hnodup, fun j hj => ?_, fun j hj => ?_, fun j hj hn => ?_⟩
    · have hji : j ≠ iid := fun heq => hnotin (heq ▸ hj)
      exact (Portfolio.setRouter_of_ne hji).trans (h.todo j (by simp [hj]))
    · have hji : j ≠ iid := fun heq => hnotin (heq ▸ hj)
      obtain ⟨hj', hold⟩ := h.free j (by simp [hj])
      refine ⟨hj', fun x hx hkey => ?_⟩
      rcases Moves.decisions_own hm x hx with hx | hx
      · exact hold x hx hkey
      · rw [hrouter, hiid] at hx
        exact hji ((congrArg (·.2.1) hkey).symm.trans hx)
    · by_cases hji : j = iid
      · subst hji
        simpa [putBack] using hr
      · have hj' : (putBack w iid r).mem.router j = w.mem.router j :=
          Portfolio.setRouter_of_ne hji
        rw [hj']
        exact h.done j hj (by simp [hji, hn])
  rw [hrouter] at hcomes
  refine Prog.wp_mono (Prog.wp_and hcomes hmoves.wp) (fun _ r hr => ?_)
    (fun _ r hr => ?_)
  · exact ⟨hr.1.1, hnext r hr.1.2 hr.2⟩
  · exact ⟨congrArg Prod.fst hr.1.1, hnext r hr.1.2 hr.2⟩

/-- The loop freezes every router just when no turn raises while a router
behind it is active. -/
theorem Awaiting.loop {w₀ : World (Durable V) (Portfolio S)}
    {rest : List InstrumentId} (h : Awaiting w₀ rest w)
    (hsub : ∀ j ∈ rest, j ∈ w₀.mem.ids) (snapshot : AccountSnapshot)
    (histories : List (InstrumentId × List Bar)) :
    (∀ j ∈ w₀.mem.ids, ((Prog.forEach rest
        (shutdownTurn ex snapshot histories) w).2.mem.router j).state.frozen =
          true) ↔
      Stranding.spares ex w₀.mem.router snapshot.size rest w.disk.venue =
        true := by
  induction rest generalizing w with
  | nil => exact ⟨fun _ => rfl, fun _ j hj => h.done j hj nofun⟩
  | cons iid rest ih =>
      have hturn := h.turn ex snapshot histories
      have hsub' : ∀ j ∈ rest, j ∈ w₀.mem.ids := fun j hj => hsub j (by simp [hj])
      rw [Prog.forEach, Stranding.spares]
      cases hrun : shutdownTurn (S := S) ex snapshot histories iid w with
      | mk answer w₁ =>
      cases answer with
      | ok _ =>
          rw [Prog.wp_of_ok hrun] at hturn
          rw [Prog.bind_of_ok hrun, hturn.1]
          exact ih hturn.2 hsub'
      | error e =>
          rw [Prog.wp_of_error hrun] at hturn
          rw [Prog.bind_of_error hrun]
          dsimp only
          rw [if_pos hturn.1, List.all_eq_true]
          constructor
          · intro hall j hj
            rw [← hturn.2.todo j hj]
            exact hall j (hsub' j hj)
          · intro hrest j hj
            by_cases hjr : j ∈ rest
            · rw [hturn.2.todo j hjr]
              exact hrest j hjr
            · exact hturn.2.done j hj hjr

/-- **When a shutdown freezes every router.** Once its first snapshot is
there, and whatever every later call does: just when no router's turn raises
with an active router behind it. A turn raises only through its flattening
order, when the submit raises (or times out and the snapshot that would settle
it raises) and then the handler does: its own snapshot raises, or the position
it adopts has no stop on the venue and none can be placed. -/
theorem shutdown_freezes_iff (hw : Deciding w) {snapshot : AccountSnapshot}
    {v : V} (hsnapshot : ex.snapshot w.disk.venue = (.ok snapshot, v))
    (histories : List (InstrumentId × List Bar)) :
    (∀ j ∈ w.mem.ids, ((Portfolio.onBar ex histories .shutdown w).2.mem.router
        j).state.frozen = true) ↔
      Stranding.spares ex w.mem.router snapshot.size w.mem.ids v = true := by
  have hcall : call (μ := Portfolio S) ex.snapshot w =
      (.ok snapshot, called w v) := by
    simp only [call, Prog.commit, hsnapshot, called]
  have hstart : ∀ w₁ : World (Durable V) (Portfolio S), w₁.mem = w.mem →
      w₁.disk.db.decisions = w.disk.db.decisions →
      Awaiting w w.mem.ids w₁ := by
    intro w₁ hmem hdec
    exact ⟨by rw [hmem], hw.ids, fun j _ => by rw [hmem],
      fun j hj => ⟨hw.router j hj, by rw [hdec]; exact hw.free j hj⟩,
      fun j hj hn => absurd hj hn⟩
  rw [Portfolio.onBar, Prog.bind_of_ok hcall, if_pos rfl, Portfolio.shutdown,
    Prog.mem_bind_apply]
  have hemit : ∀ a : Alert, emit (μ := Portfolio S) w.mem.runId a (called w v) =
      (.ok (), wrote (called w v) (w.disk.db.insertAlert w.mem.runId a)) :=
    fun _ => rfl
  split
  · rw [called_mem, Prog.bind_of_ok (hemit _)]
    exact (hstart (wrote (called w v) _) (by rfl) (by rfl)).loop
      (fun _ hj => hj) snapshot histories
  · exact (hstart (called w v) rfl rfl).loop (fun _ hj => hj) snapshot histories

end Portfolio

section Unreachable

/-- A long of one on instruments 1 and 2, neither with a stop. -/
def pairSnapshot : AccountSnapshot where
  equity := 1000
  positions := [1, 2].map fun iid =>
    { instrumentId := iid, size := 1, entryPrice := 100, notional := 100
      leverage := 1, liquidationPrice := none, unrealisedPnl := 0
      cumulativeFunding := 0 }
  openOrders := []
  stops := []
  inLiquidation := false
  ts := 0

/-- A venue that answers one snapshot and is unreachable from then on. -/
def unreachable : Executor ℕ where
  name := "live"
  submit _ v := (.error ⟨.other "ConnectError", "unreachable"⟩, v)
  cancel _ v := (.error ⟨.other "ConnectError", "unreachable"⟩, v)
  placeStop _ _ v := (.error ⟨.other "ConnectError", "unreachable"⟩, v)
  cancelStop _ v := (.error ⟨.other "ConnectError", "unreachable"⟩, v)
  snapshot v :=
    (if v = 0 then .ok pairSnapshot
      else .error ⟨.other "ConnectError", "unreachable"⟩, v + 1)
  clock _ := 0

/-- Two open routers, one behind the other. -/
def openPair : World (Durable ℕ) (Portfolio Unit) where
  mem :=
    { runId := "run", startEquity := none, ids := [1, 2]
      router := fun iid =>
        { InstrumentRouter.fresh "run" iid Site.idleStrategy () []
            limitsDefault exposureDefault with
          state := .opened, size := 1, entry := some 100
          stopTrigger := some 85 }
      lastPnlLevel := none, fundingSeen := fun _ => none
      refusedReported := [] }
  disk :=
    { db := { Db.empty with positionsLocal := [1, 2].map fun iid =>
        ⟨"run", iid, .opened, 1, some 100, some 85, 0, 0⟩ }
      venue := 0, submitted := [], refusedDecisions := [] }
  past := []

theorem openPair_deciding : Deciding openPair where
  ids := by decide
  router := fun _ _ => rfl
  free := by simp [openPair, Db.empty]

/-- The first router's turn raises and the second router stays open. -/
theorem shutdown_strands :
    ¬ ∀ j ∈ openPair.mem.ids, ((Portfolio.onBar unreachable [] .shutdown
      openPair).2.mem.router j).state.frozen = true := by
  decide +kernel

theorem shutdown_freezes_iff_unreachable :
    ((∀ j ∈ openPair.mem.ids, ((Portfolio.onBar unreachable [] .shutdown
        openPair).2.mem.router j).state.frozen = true) ↔
      Stranding.spares unreachable openPair.mem.router pairSnapshot.size
        openPair.mem.ids 1 = true) ∧
      (Portfolio.onBar unreachable [] .shutdown openPair).1.toBool = false :=
  ⟨shutdown_freezes_iff openPair_deciding rfl [], by decide +kernel⟩

end Unreachable

end Polyperps
