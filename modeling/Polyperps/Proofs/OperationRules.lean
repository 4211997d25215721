import Polyperps.Proofs.Operations

/-!
# Rules for the operations

An operation of the portfolio is its routers' methods, each on its own router,
with alerts, awaits and a few fields of the portfolio in between. A relation
that keeps the set of routers and that what is in between respects (`Passive`)
holds over an operation as soon as it holds over the methods the operation
calls. One rule for each operation.
-/

namespace Polyperps.Portfolio

open ProgramLogic InstrumentRouter

variable {V S : Type} {ex : Executor V}
  {R : World (Durable V) (Portfolio S) → World (Durable V) (Portfolio S) →
    Prop}
  {w : World (Durable V) (Portfolio S)} {snap : AccountSnapshot}

/-- What an operation does between its routers' methods respects `R`. -/
structure Passive (ex : Executor V)
    (R : World (Durable V) (Portfolio S) → World (Durable V) (Portfolio S) →
      Prop) : Prop where
  ids : ∀ {w w'}, R w w' → w'.mem.ids = w.mem.ids
  alert : ∀ w runId a, R w (wrote w (w.disk.db.insertAlert runId a))
  venue : ∀ w v, R w (called w v)
  pnl : ∀ w level, R w { w with mem := { w.mem with lastPnlLevel := level } }
  refused : ∀ w ms, R w { w with mem := { w.mem with refusedReported := ms } }
  guarded : ∀ w iid trigger, iid ∈ w.mem.ids →
    (onRouter iid do
      Prog.modifyMem fun r => { r with stopTrigger := some trigger }
      persist ex : Act V (Portfolio S) Unit).Steps R w

/-- The end of a tick: the marks, and the account's losses. -/
def marksThen (ex : Executor V) (marks : List (InstrumentId × Decimal))
    (snap : AccountSnapshot) : Act V (Portfolio S) AccountSnapshot := do
  Prog.forEach marks fun (iid, mark) => do
    let pf ← Prog.mem
    if iid ∈ pf.ids then
      onRouter iid (InstrumentRouter.onFast ex mark snap)
    else pure ()
  watchPnl snap
  return snap

theorem onFast_eq (ex : Executor V)
    (marks : List (InstrumentId × Decimal)) :
    (Portfolio.onFast ex marks : Act V (Portfolio S) AccountSnapshot) =
      call ex.snapshot >>= fun snap =>
        (forRouters fun iid => onRouter iid (checkPending ex snap)) >>=
          fun _ => marksThen ex marks snap := rfl

theorem mismatchAlert_rule (hp : Passive ex R) {m : Mismatch} {level : Level}
    {kind : String} {extra : List (String × String)} :
    (mismatchAlert ex m level kind extra).Steps R w :=
  Prog.Steps.mem_bind (pfClock_bind (hp.alert _ _ _))

variable [Std.Refl R] [IsTrans _ R]

theorem forEach_rule {ι : Type} (hp : Passive ex R) {xs : List ι}
    {body : ι → Act V (Portfolio S) Unit}
    (h : ∀ x ∈ xs, ∀ w', w'.mem.ids = w.mem.ids → (body x).Steps R w') :
    (Prog.forEach xs body).Steps R w := by
  refine Prog.Steps.forEach
    (fun rest w' => w'.mem.ids = w.mem.ids ∧ ∀ x ∈ rest, x ∈ xs)
    (fun x rest w' hi => ?_) ⟨rfl, fun _ hx => hx⟩
  have hx := h x (hi.2 x (by simp)) w' hi.1
  exact ⟨hx, (hp.ids hx).trans hi.1, fun y hy => hi.2 y (by simp [hy])⟩

theorem forRouters_rule (hp : Passive ex R)
    {m : InstrumentId → Act V (Portfolio S) Unit}
    (h : ∀ iid w', iid ∈ w'.mem.ids → (m iid).Steps R w') :
    (forRouters m).Steps R w := by
  refine Prog.Steps.mem_bind (forEach_rule hp fun iid hid w' hids => ?_)
  exact h iid w' (by rw [hids]; exact hid)

theorem watchPnl_rule (hp : Passive ex R) :
    (watchPnl snap : Act V (Portfolio S) Unit).Steps R w := by
  unfold watchPnl
  refine Prog.Steps.mem_bind ?_
  split
  · exact Prog.Steps.pure
  dsimp only
  split
  · split
    · exact Prog.Steps.bind (hp.alert _ _ _) fun _ => hp.pnl _ _
    · exact hp.pnl _ _
  · exact hp.pnl _ _

/-! ## Reconciliation -/

theorem guardPosition_rule (hp : Passive ex R) {m : Mismatch}
    {iid : InstrumentId} : (guardPosition ex m iid snap).Steps R w := by
  unfold guardPosition
  refine Prog.Steps.mem_bind ?_
  split
  · exact Prog.Steps.raise
  refine Prog.Steps.bind ?_ fun trigger => ?_
  · unfold placeExchangeStop
    split
    · exact Prog.Steps.raise
    · exact Prog.Steps.bind (hp.venue _ _) fun _ => Prog.Steps.pure
  have halerts : ∀ w₁ : World (Durable V) (Portfolio S),
      (mismatchAlert ex m .warn "stop_missing"
          [("trigger", Decimal.str trigger)] >>= fun _ => clock ex >>= fun ts =>
        emit w.mem.runId
          { level := .info, kind := "stop_placed", instrumentId := some iid
            detail := [("trigger", Decimal.str trigger)], ts }).Steps R w₁ :=
    fun w₁ => Prog.Steps.bind (mismatchAlert_rule hp)
      fun _ => pfClock_bind (hp.alert _ _ _)
  dsimp only
  split
  · next hid =>
    refine Prog.Steps.bind (hp.guarded _ _ _ ?_) fun _ => halerts _
    rw [pfPlaceStop_mem]
    exact hid
  · exact halerts _

theorem respond_rule (hp : Passive ex R)
    (hhalt : ∀ w iid reason, iid ∈ w.mem.ids →
      (onRouter iid (halt ex reason)).Steps R w) {m : Mismatch} :
    (respond ex m snap).Steps R w := by
  unfold respond
  refine Prog.Steps.mem_bind ?_
  split
  · split
    · next hid => exact hhalt _ _ _ hid
    · exact mismatchAlert_rule hp
  · exact Prog.Steps.bind (hp.venue _ _) fun _ => mismatchAlert_rule hp
  · exact guardPosition_rule hp
  · split
    · exact Prog.Steps.raise
    · exact Prog.Steps.bind (hp.venue _ _) fun _ => mismatchAlert_rule hp
  · exact mismatchAlert_rule hp

theorem reconcile_rule (hp : Passive ex R)
    (hhalt : ∀ w iid reason, iid ∈ w.mem.ids →
      (onRouter iid (halt ex reason)).Steps R w) :
    (reconcile ex).Steps R w := by
  unfold reconcile
  refine Prog.Steps.bind (hp.venue _ _) fun snapshot => ?_
  refine Prog.Steps.mem_bind (Prog.Steps.disk_bind (Prog.Steps.disk_bind ?_))
  dsimp only
  refine Prog.Steps.bind ?_ fun _ => ?_
  · refine forEach_rule hp fun m _ w' _ => ?_
    refine Prog.Steps.catching (respond_rule hp hhalt) fun e => ?_
    refine Prog.Steps.mem_bind ?_
    split
    · exact Prog.Steps.raise
    split
    · exact Prog.Steps.pure
    · exact Prog.Steps.bind (hp.refused _ _) fun _ => mismatchAlert_rule hp
  · exact Prog.Steps.bind (hp.refused _ _) fun _ => Prog.Steps.pure

/-! ## The bar and the tick -/

theorem shutdown_rule (hp : Passive ex R)
    {histories : List (InstrumentId × List Bar)}
    (hshutdown : ∀ w iid mark size, iid ∈ w.mem.ids →
      (onRouter iid (InstrumentRouter.shutdown ex mark size)).Steps R w) :
    (Portfolio.shutdown ex snap histories).Steps R w := by
  have hloop : ∀ w' : World (Durable V) (Portfolio S),
      (forRouters fun iid => do
        let pf ← Prog.mem
        let pos := snap.position iid
        let mark :=
          shutdownMark (histories.lookup iid) pos (pf.router iid).entry
        onRouter iid
          (InstrumentRouter.shutdown ex mark
            (some ((pos.map PositionView.size).getD 0)))).Steps R w' :=
    fun w' => forRouters_rule hp fun iid w'' hid =>
      Prog.Steps.mem_bind (hshutdown _ _ _ _ hid)
  unfold Portfolio.shutdown
  refine Prog.Steps.mem_bind ?_
  dsimp only
  split
  · exact Prog.Steps.bind (hp.alert _ _ _) fun _ => hloop _
  · exact hloop _

theorem onBar_rule (hp : Passive ex R)
    {histories : List (InstrumentId × List Bar)} {kill : KillAction}
    (hfunding : ∀ w snap, (checkFunding histories snap).Steps R w)
    (hshutdown : ∀ w iid mark size, iid ∈ w.mem.ids →
      (onRouter iid (InstrumentRouter.shutdown ex mark size)).Steps R w)
    (hbar : ∀ w iid history snap pending, iid ∈ w.mem.ids →
      (onRouter iid
        (InstrumentRouter.onBar ex history snap kill pending)).Steps R w) :
    (Portfolio.onBar ex histories kill).Steps R w := by
  unfold Portfolio.onBar
  refine Prog.Steps.bind (hp.venue _ _) fun snapshot => ?_
  split
  · exact shutdown_rule hp hshutdown
  refine Prog.Steps.bind (hfunding _ _) fun _ => ?_
  refine forEach_rule hp fun entry _ w' _ => ?_
  obtain ⟨iid, history⟩ := entry
  refine Prog.Steps.mem_bind ?_
  split
  · next h => exact hbar _ _ _ _ _ h.1
  · exact Prog.Steps.pure

/-- What a tick does after its pending loop. -/
theorem marks_rule (hp : Passive ex R)
    {marks : List (InstrumentId × Decimal)}
    (hmark : ∀ w iid mark snap, iid ∈ w.mem.ids →
      (onRouter iid (InstrumentRouter.onFast ex mark snap)).Steps R w) :
    (marksThen ex marks snap).Steps R w := by
  unfold marksThen
  refine Prog.Steps.bind (forEach_rule hp fun im _ w' _ => ?_) fun _ => ?_
  · obtain ⟨iid, mark⟩ := im
    refine Prog.Steps.mem_bind ?_
    split
    · next hid => exact hmark _ _ _ _ hid
    · exact Prog.Steps.pure
  · exact Prog.Steps.bind (watchPnl_rule hp) fun _ => Prog.Steps.pure

/-- The pending loop of a tick is asked for as a whole, at the world it starts
in. -/
theorem onFast_rule (hp : Passive ex R)
    {marks : List (InstrumentId × Decimal)}
    (hpending : ∀ snap, (ex.snapshot w.disk.venue).1 = .ok snap →
      (forRouters fun iid => onRouter iid (checkPending ex snap)).Steps R
        (called w (ex.snapshot w.disk.venue).2))
    (hmark : ∀ w iid mark snap, iid ∈ w.mem.ids →
      (onRouter iid (InstrumentRouter.onFast ex mark snap)).Steps R w) :
    (Portfolio.onFast ex marks).Steps R w := by
  have hcalled : (call ex.snapshot : Act V (Portfolio S) _).Steps R w :=
    hp.venue _ _
  rw [onFast_eq]
  rcases call_cases ex.snapshot w with ⟨snapshot, hok, hcall⟩ | ⟨e, hcall⟩
  swap
  · exact Prog.Steps.bind_error hcall hcalled
  refine Prog.Steps.bind_ok hcall hcalled ?_
  exact Prog.Steps.bind (hpending snapshot hok) fun _ => marks_rule hp hmark

end Polyperps.Portfolio
