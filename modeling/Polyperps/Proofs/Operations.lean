import Polyperps.Proofs.Changes

/-!
# What a portfolio operation can do

An operation holds the lock, so it is a chain of router changes, each on one
router of the portfolio, and of things that touch no router. `Deed` lists
them, and every operation is shown to be such a chain. A router is never
driven past its own guards: the only deed that is not firm is a shutdown,
which happens on a shutdown bar and nowhere else, at the size the venue's
snapshot gave.
-/

namespace Polyperps

open ProgramLogic Portfolio

variable {V S α : Type} {ex : Executor V}

/-- The world of one router of a portfolio. -/
def seen (w : World (Durable V) (Portfolio S)) (iid : InstrumentId) :
    World (Durable V) (InstrumentRouter S) :=
  { mem := w.mem.router iid, disk := w.disk, past := w.past }

/-- The portfolio's world after its router's world became `r`. -/
def putBack (w : World (Durable V) (Portfolio S)) (iid : InstrumentId)
    (r : World (Durable V) (InstrumentRouter S)) :
    World (Durable V) (Portfolio S) :=
  { mem := w.mem.setRouter iid r.mem, disk := r.disk, past := r.past }

@[simp] theorem seen_disk {w : World (Durable V) (Portfolio S)}
    {iid : InstrumentId} : (seen w iid).disk = w.disk := rfl

@[simp] theorem seen_moments {w : World (Durable V) (Portfolio S)}
    {iid : InstrumentId} : (seen w iid).moments = w.moments := rfl

@[simp] theorem seen_putBack {w : World (Durable V) (Portfolio S)}
    {iid : InstrumentId} {r : World (Durable V) (InstrumentRouter S)} :
    seen (putBack w iid r) iid = r := by
  simp [seen, putBack]

@[simp] theorem putBack_seen {w : World (Durable V) (Portfolio S)}
    {iid : InstrumentId} : putBack w iid (seen w iid) = w := by
  have hr : (fun j => if j = iid then w.mem.router iid else w.mem.router j) =
      w.mem.router := by
    funext j
    split
    · next h => rw [h]
    · rfl
  simp only [putBack, seen, setRouter, hr]

@[simp] theorem putBack_putBack {w : World (Durable V) (Portfolio S)}
    {iid : InstrumentId} {r r' : World (Durable V) (InstrumentRouter S)} :
    putBack (putBack w iid r) iid r' = putBack w iid r' := by
  simp only [putBack, setRouter, World.mk.injEq, Portfolio.mk.injEq,
    true_and, and_true]
  funext j
  split <;> rfl

@[simp] theorem putBack_ids {w : World (Durable V) (Portfolio S)}
    {iid : InstrumentId} {r : World (Durable V) (InstrumentRouter S)} :
    (putBack w iid r).mem.ids = w.mem.ids := rfl

@[simp] theorem putBack_runId {w : World (Durable V) (Portfolio S)}
    {iid : InstrumentId} {r : World (Durable V) (InstrumentRouter S)} :
    (putBack w iid r).mem.runId = w.mem.runId := rfl

/-- One thing an operation does; `down` says which routers it may shut down,
and at which size. -/
inductive Deed (ex : Executor V)
    (down : InstrumentId → Option Decimal → Prop) :
    World (Durable V) (Portfolio S) → World (Durable V) (Portfolio S) → Prop
  | own {w} (pf' : Portfolio S) (hrun : pf'.runId = w.mem.runId)
      (hids : pf'.ids = w.mem.ids) (hrouter : pf'.router = w.mem.router) :
      Deed ex down w { w with mem := pf' }
  | alert {w} (a : Alert) :
      Deed ex down w (wrote w (w.disk.db.insertAlert w.mem.runId a))
  | venue {w} (v : V) : Deed ex down w (called w v)
  | router {w} (iid : InstrumentId) (hid : iid ∈ w.mem.ids)
      {r : World (Durable V) (InstrumentRouter S)}
      (h : Change ex firm (seen w iid) r) : Deed ex down w (putBack w iid r)
  | shutdown {w} (iid : InstrumentId) (hid : iid ∈ w.mem.ids)
      (mark : Decimal) (exchangeSize : Option Decimal)
      (hdown : down iid exchangeSize) :
      Deed ex down w (putBack w iid
        (InstrumentRouter.shutdown ex mark exchangeSize (seen w iid)).2)

def Deeds (ex : Executor V) (down : InstrumentId → Option Decimal → Prop) :
    World (Durable V) (Portfolio S) → World (Durable V) (Portfolio S) → Prop :=
  Relation.ReflTransGen (Deed ex down)

instance {down : InstrumentId → Option Decimal → Prop} : Std.Refl (Deeds (S := S) ex down) :=
  inferInstanceAs (Std.Refl (Relation.ReflTransGen _))

instance {down : InstrumentId → Option Decimal → Prop} : IsTrans _ (Deeds (S := S) ex down) :=
  inferInstanceAs (IsTrans _ (Relation.ReflTransGen _))

variable {down : InstrumentId → Option Decimal → Prop}
  {w w' : World (Durable V) (Portfolio S)}

theorem Deeds.one (h : Deed ex down w w') : Deeds ex down w w' := .single h

theorem Deeds.mono {down' : InstrumentId → Option Decimal → Prop}
    (hd : ∀ iid x, down iid x → down' iid x) (h : Deeds ex down w w') :
    Deeds ex down' w w' := by
  refine Relation.ReflTransGen.mono (fun _ _ h => ?_) _ _ h
  cases h with
  | own pf' hrun hids hrouter => exact .own pf' hrun hids hrouter
  | alert a => exact .alert a
  | venue v => exact .venue v
  | router iid hid h => exact .router iid hid h
  | shutdown iid hid mark exchangeSize hdown =>
      exact .shutdown iid hid mark exchangeSize (hd _ _ hdown)

/-- The set of routers is fixed by an operation. -/
theorem Deed.ids (h : Deed ex down w w') : w'.mem.ids = w.mem.ids := by
  cases h with
  | own pf' hrun hids hrouter => exact hids
  | alert a => rfl
  | venue v => rfl
  | router iid hid h => rfl
  | shutdown iid hid mark exchangeSize hdown => rfl

theorem Deed.runId (h : Deed ex down w w') : w'.mem.runId = w.mem.runId := by
  cases h with
  | own pf' hrun hids hrouter => exact hrun
  | alert a => rfl
  | venue v => rfl
  | router iid hid h => rfl
  | shutdown iid hid mark exchangeSize hdown => rfl

theorem Deeds.ids (h : Deeds ex down w w') : w'.mem.ids = w.mem.ids := by
  induction h with
  | refl => rfl
  | tail _ hd ih => rw [hd.ids, ih]

/-- A chain of a router's changes is a chain of the portfolio's deeds. -/
theorem Moves.deeds {iid : InstrumentId} (hid : iid ∈ w.mem.ids)
    {r : World (Durable V) (InstrumentRouter S)}
    (h : Moves ex firm (seen w iid) r) : Deeds ex down w (putBack w iid r) := by
  induction h with
  | refl => rw [putBack_seen]; exact refl_of _ w
  | @tail r₁ r₂ _ hc ih =>
      have hd : Deed ex down (putBack w iid r₁)
          (putBack (putBack w iid r₁) iid r₂) :=
        Deed.router (w := putBack w iid r₁) iid hid
          (by rw [seen_putBack]; exact hc)
      rw [putBack_putBack] at hd
      exact ih.tail hd

/-- A router's method is made of the portfolio's deeds. -/
theorem onRouter_deeds {iid : InstrumentId} (hid : iid ∈ w.mem.ids)
    {m : Act V (InstrumentRouter S) α}
    (h : m.Steps (Moves ex firm) (seen w iid)) :
    (onRouter iid m).Steps (Deeds ex down) w := h.deeds hid

/-- A loop whose body is made of deeds wherever the set of routers is the
one it started with. -/
theorem forEach_deeds {ι : Type} {xs : List ι}
    {body : ι → Act V (Portfolio S) Unit} (w : World (Durable V) (Portfolio S))
    (h : ∀ x ∈ xs, ∀ w', w'.mem.ids = w.mem.ids →
      (body x).Steps (Deeds ex down) w') :
    (Prog.forEach xs body).Steps (Deeds ex down) w := by
  refine Prog.Steps.forEach
    (fun rest w' => w'.mem.ids = w.mem.ids ∧ ∀ x ∈ rest, x ∈ xs)
    (fun x rest w' hi => ?_) ⟨rfl, fun _ hx => hx⟩
  have hx := h x (hi.2 x (by simp)) w' hi.1
  exact ⟨hx, Deeds.ids hx |>.trans hi.1, fun y hy => hi.2 y (by simp [hy])⟩

theorem forRouters_deeds {m : InstrumentId → Act V (Portfolio S) Unit}
    (h : ∀ iid (w' : World (Durable V) (Portfolio S)), iid ∈ w'.mem.ids →
      (m iid).Steps (Deeds ex down) w') :
    (forRouters m).Steps (Deeds ex down) w := by
  refine Prog.Steps.mem_bind (forEach_deeds w fun iid hid w' hids => ?_)
  exact h iid w' (by rw [hids]; exact hid)

theorem pfEmit_deeds {a : Alert} :
    (emit w.mem.runId a : Act V (Portfolio S) Unit).Steps (Deeds ex down) w :=
  Deeds.one (.alert a)

theorem pfCall_deeds {f : V → Except Exc α × V} :
    (call f : Act V (Portfolio S) α).Steps (Deeds ex down) w :=
  Deeds.one (.venue _)

theorem pfMemory_deeds {f : Portfolio S → Portfolio S}
    (h : ((f w.mem).runId, (f w.mem).ids, (f w.mem).router) =
      (w.mem.runId, w.mem.ids, w.mem.router)) :
    (Prog.modifyMem f : Act V (Portfolio S) Unit).Steps (Deeds ex down) w := by
  simp only [Prod.mk.injEq] at h
  exact Deeds.one (.own (f w.mem) h.1 h.2.1 h.2.2)

theorem pfClock_bind {R : World (Durable V) (Portfolio S) →
      World (Durable V) (Portfolio S) → Prop}
    {f : DateTime → Act V (Portfolio S) α}
    (h : (f (ex.clock w.disk.venue)).Steps R w) :
    (clock ex >>= f).Steps R w := h

/-- A call answers or raises, and leaves the venue where the executor put
it. -/
theorem call_cases {μ : Type} (f : V → Except Exc α × V)
    (w : World (Durable V) μ) :
    (∃ a, (f w.disk.venue).1 = .ok a ∧
      (call f : Act V μ α) w = (.ok a, called w (f w.disk.venue).2)) ∨
    ∃ e, (call f : Act V μ α) w = (.error e, called w (f w.disk.venue).2) := by
  cases h : (f w.disk.venue).1 with
  | ok a => exact Or.inl ⟨a, rfl, by rw [← h]; rfl⟩
  | error e => exact Or.inr ⟨e, by rw [← h]; rfl⟩

/-! ## The operations -/

theorem checkFunding_deeds {histories : List (InstrumentId × List Bar)}
    {snapshot : AccountSnapshot} :
    (checkFunding histories snapshot : Act V (Portfolio S) Unit).Steps
      (Deeds ex down) w := by
  unfold checkFunding
  refine forEach_deeds w fun ih _ w' _ => ?_
  obtain ⟨iid, history⟩ := ih
  refine Prog.Steps.mem_bind ?_
  dsimp only
  split
  · refine Prog.Steps.bind (pfMemory_deeds rfl) fun _ => ?_
    split
    · exact Prog.Steps.pure
    split
    · exact Prog.Steps.pure
    split
    · exact Prog.Steps.pure
    · exact pfEmit_deeds
  · exact pfMemory_deeds rfl

theorem shutdown_deeds {snapshot : AccountSnapshot}
    {histories : List (InstrumentId × List Bar)}
    (hdown : ∀ iid, down iid (some (snapshot.size iid))) :
    (Portfolio.shutdown ex snapshot histories).Steps
      (Deeds (S := S) ex down) w := by
  unfold Portfolio.shutdown
  refine Prog.Steps.mem_bind ?_
  have hloop : ∀ w' : World (Durable V) (Portfolio S),
      (forRouters fun iid => do
        let pf ← Prog.mem
        let pos := snapshot.position iid
        let mark := shutdownMark (histories.lookup iid) pos
          (pf.router iid).entry
        onRouter iid (InstrumentRouter.shutdown ex mark
          (some ((pos.map PositionView.size).getD 0)))).Steps
        (Deeds (S := S) ex down) w' := fun w' =>
    forRouters_deeds fun iid w₁ hid =>
      Prog.Steps.mem_bind (Deeds.one (.shutdown iid hid _ _ (hdown iid)))
  dsimp only
  split
  · exact Prog.Steps.bind pfEmit_deeds fun _ => hloop _
  · exact hloop _

theorem pfOnBar_deeds {histories : List (InstrumentId × List Bar)}
    {kill : KillAction}
    (hdown : kill = .shutdown → ∀ snap, (ex.snapshot w.disk.venue).1 = .ok snap →
      ∀ iid, down iid (some (snap.size iid))) :
    (Portfolio.onBar ex histories kill).Steps (Deeds (S := S) ex down) w := by
  unfold Portfolio.onBar
  rcases call_cases ex.snapshot w with ⟨snapshot, hok, hcall⟩ | ⟨e, hcall⟩
  swap
  · exact Prog.Steps.bind_error hcall pfCall_deeds
  refine Prog.Steps.bind_ok hcall pfCall_deeds ?_
  split
  · next h => exact shutdown_deeds (hdown h snapshot hok)
  refine Prog.Steps.bind checkFunding_deeds fun _ => ?_
  refine forEach_deeds _ fun ih _ w' _ => ?_
  obtain ⟨iid, history⟩ := ih
  refine Prog.Steps.mem_bind ?_
  split
  · next h =>
    exact onRouter_deeds h.1
      (onBar_moves.mono fun _ h => h.mono fun _ _ => closing_le_firm)
  · exact Prog.Steps.pure

theorem watchPnl_deeds {snapshot : AccountSnapshot} :
    (watchPnl snapshot : Act V (Portfolio S) Unit).Steps
      (Deeds ex down) w := by
  unfold watchPnl
  refine Prog.Steps.mem_bind ?_
  split
  · exact Prog.Steps.pure
  dsimp only
  split
  · split
    · exact Prog.Steps.bind pfEmit_deeds fun _ => pfMemory_deeds rfl
    · exact pfMemory_deeds rfl
  · exact pfMemory_deeds rfl

theorem pfOnFast_deeds {marks : List (InstrumentId × Decimal)} :
    (Portfolio.onFast ex marks).Steps (Deeds (S := S) ex down) w := by
  unfold Portfolio.onFast
  refine Prog.Steps.bind pfCall_deeds fun snapshot => ?_
  refine Prog.Steps.bind ?_ fun _ => ?_
  · exact forRouters_deeds fun iid w' hid =>
      onRouter_deeds hid checkPending_moves
  refine Prog.Steps.bind ?_ fun _ => ?_
  · refine forEach_deeds _ fun im _ w' _ => ?_
    obtain ⟨iid, mark⟩ := im
    refine Prog.Steps.mem_bind ?_
    split
    · next h => exact onRouter_deeds h onFast_moves
    · exact Prog.Steps.pure
  · exact Prog.Steps.bind watchPnl_deeds fun _ => Prog.Steps.pure

theorem mismatchAlert_deeds {m : Mismatch} {level : Level} {kind : String}
    {extra : List (String × String)} :
    (mismatchAlert ex m level kind extra).Steps (Deeds (S := S) ex down) w :=
  Prog.Steps.mem_bind (pfClock_bind pfEmit_deeds)

theorem pfPlaceStop_deeds {pos : PositionView} {limits : RiskLimits} :
    (placeExchangeStop ex pos limits).Steps (Deeds (S := S) ex down) w := by
  unfold placeExchangeStop
  split
  · exact Prog.Steps.raise
  · exact Prog.Steps.bind pfCall_deeds fun _ => Prog.Steps.pure

theorem pfPlaceStop_mem {pos : PositionView} {limits : RiskLimits} :
    (placeExchangeStop ex pos limits w).2.mem = w.mem := by
  unfold placeExchangeStop
  split
  · rfl
  · rw [Prog.bind_pure_snd]
    rfl

theorem guardPosition_deeds {m : Mismatch} {iid : InstrumentId}
    {snapshot : AccountSnapshot} :
    (guardPosition ex m iid snapshot).Steps (Deeds (S := S) ex down) w := by
  unfold guardPosition
  refine Prog.Steps.mem_bind ?_
  split
  · exact Prog.Steps.raise
  refine Prog.Steps.bind pfPlaceStop_deeds fun trigger => ?_
  have halerts : ∀ w₁ : World (Durable V) (Portfolio S),
      w₁.mem.runId = w.mem.runId →
      (mismatchAlert ex m .warn "stop_missing"
          [("trigger", Decimal.str trigger)] >>= fun _ => clock ex >>= fun ts =>
        emit w.mem.runId
          { level := .info, kind := "stop_placed", instrumentId := some iid
            detail := [("trigger", Decimal.str trigger)], ts }).Steps
        (Deeds (S := S) ex down) w₁ := by
    intro w₁ hrun
    refine Prog.Steps.bind mismatchAlert_deeds fun _ => ?_
    refine pfClock_bind ?_
    rw [← hrun]
    exact pfEmit_deeds
  dsimp only
  split
  · next hid =>
    refine Prog.Steps.bind (onRouter_deeds (by rw [pfPlaceStop_mem]; exact hid)
      (Prog.Steps.bind (memory_moves (.kept rfl)) fun _ => persist_moves))
      fun _ => halerts _ ?_
    show (placeExchangeStop ex _ _ w).2.mem.runId = _
    rw [pfPlaceStop_mem]
  · exact halerts _ (by rw [pfPlaceStop_mem])

theorem respond_deeds {m : Mismatch} {snapshot : AccountSnapshot} :
    (respond ex m snapshot).Steps (Deeds (S := S) ex down) w := by
  unfold respond
  refine Prog.Steps.mem_bind ?_
  split
  · split
    · next hid =>
      exact onRouter_deeds hid
        (halt_moves.mono fun _ h => h.mono fun _ _ hh => hh.1)
    · exact mismatchAlert_deeds
  · exact Prog.Steps.bind pfCall_deeds fun _ => mismatchAlert_deeds
  · exact guardPosition_deeds
  · split
    · exact Prog.Steps.raise
    · exact Prog.Steps.bind pfCall_deeds fun _ => mismatchAlert_deeds
  · exact mismatchAlert_deeds

theorem reconcile_deeds :
    (reconcile ex).Steps (Deeds (S := S) ex down) w := by
  unfold reconcile
  refine Prog.Steps.bind pfCall_deeds fun snapshot => ?_
  refine Prog.Steps.mem_bind (Prog.Steps.disk_bind (Prog.Steps.disk_bind ?_))
  dsimp only
  refine Prog.Steps.bind ?_ fun _ => ?_
  · refine forEach_deeds _ fun m _ w' _ => ?_
    refine Prog.Steps.catching respond_deeds fun e => ?_
    refine Prog.Steps.mem_bind ?_
    split
    · exact Prog.Steps.raise
    split
    · exact Prog.Steps.pure
    · exact Prog.Steps.bind (pfMemory_deeds rfl) fun _ => mismatchAlert_deeds
  · exact Prog.Steps.bind (pfMemory_deeds rfl) fun _ => Prog.Steps.pure

theorem dispatch_deeds {ev : Event} :
    (dispatch ex ev).Steps (Deeds (S := S) ex down) w := by
  unfold dispatch
  split
  · exact Prog.Steps.bind reconcile_deeds fun _ => Prog.Steps.pure
  · refine Prog.Steps.mem_bind ?_
    split
    · next hid => exact onRouter_deeds hid handleFill_moves
    · exact Prog.Steps.pure
  · exact forRouters_deeds fun iid w' hid =>
      onRouter_deeds hid handleOrderUpdate_moves

/-- The shutdowns of an operation: on a shutdown bar, every router at the size
the snapshot gave. -/
def Portfolio.Op.downs (ex : Executor V) (venue : V) (op : Op)
    (iid : InstrumentId) (exchangeSize : Option Decimal) : Prop :=
  ∃ histories snap, op = .onBar histories .shutdown ∧
    (ex.snapshot venue).1 = .ok snap ∧ exchangeSize = some (snap.size iid)

theorem perform_deeds (ex : Executor V) (op : Op)
    (w : World (Durable V) (Portfolio S)) :
    (perform ex op).Steps (Deeds ex (op.downs ex w.disk.venue)) w := by
  cases op with
  | onBar histories kill =>
      refine pfOnBar_deeds fun hkill snap hsnap iid => ?_
      exact ⟨histories, snap, by rw [hkill], hsnap, rfl⟩
  | onFast marks =>
      exact Prog.Steps.bind pfOnFast_deeds fun _ => Prog.Steps.pure
  | dispatch ev => exact dispatch_deeds
  | reconcileNow =>
      exact Prog.Steps.bind reconcile_deeds fun _ => Prog.Steps.pure

end Polyperps
