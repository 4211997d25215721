import Polyperps.Dashboard.Clean
import Polyperps.Proofs.Announced
import Polyperps.Proofs.HaltSurvives
import Polyperps.Proofs.OperationRules

/-!
# A clean run was never frozen

Over whole runs of processes, each stopped at any point. What `Announced`
proves of one router's methods holds of a portfolio's operations, of
`recover`, which freezes a router only where its row was frozen before, and of
the operator's `clear_halt`: a frozen row has had its critical alert. So where
the table took the critical alerts, `is_clean` does not only say that no router
is frozen now: none has been since the run began, whatever has been cleared
meanwhile. Where the table refused one, it may say less, because the alerter
goes on without it.
-/

namespace Polyperps

open ProgramLogic Portfolio

variable {V S α β μ : Type} {ex : Executor V} {runId : String}
  {rows : List PositionLocalRow} {iid : InstrumentId}
  {snap : AccountSnapshot}

/-! ## A portfolio and its routers -/

/-- Each router is its instrument's, and where it is frozen the alert was
emitted, as it was for each of the rows recovery has read. -/
structure Watched (runId : String) (rows : List PositionLocalRow)
    (pf : Portfolio S) (db : Db) : Prop where
  pfRunId : pf.runId = runId
  router : ∀ j ∈ pf.ids, (pf.router j).runId = runId ∧
    (pf.router j).instrumentId = j
  covered : ∀ j ∈ pf.ids, (pf.router j).state.frozen = true →
    db.Warned runId j
  heard : ∀ row ∈ rows, row.state.frozen = true →
    db.Warned runId row.instrumentId

theorem Watched.mono {pf : Portfolio S} {db db' : Db}
    (h : Watched runId rows pf db) (hsub : db.alerts ⊆ db'.alerts) :
    Watched runId rows pf db' where
  pfRunId := h.pfRunId
  router := h.router
  covered := fun j hj hf => (h.covered j hj hf).mono hsub
  heard := fun row hrow hf => (h.heard row hrow hf).mono hsub

/-- A router replaced by one of the same instrument. -/
theorem Watched.setRouter {pf : Portfolio S} {db db' : Db}
    {r : InstrumentRouter S} (h : Watched runId rows pf db)
    (hsub : db.alerts ⊆ db'.alerts) (hrun : r.runId = runId)
    (hid : r.instrumentId = iid)
    (hr : r.state.frozen = true → db'.Warned runId iid) :
    Watched runId rows (pf.setRouter iid r) db' where
  pfRunId := h.pfRunId
  router := by
    intro j hj
    by_cases hji : j = iid
    · subst hji
      rw [setRouter_self]
      exact ⟨hrun, hid⟩
    · rw [setRouter_of_ne hji]
      exact h.router j hj
  covered := by
    intro j hj
    by_cases hji : j = iid
    · subst hji
      rw [setRouter_self]
      exact hr
    · rw [setRouter_of_ne hji]
      exact fun hf => (h.covered j hj hf).mono hsub
  heard := (h.mono hsub).heard

/-- What is done to a portfolio, `part` of a larger memory, whose frozen
routers have had their alerts. -/
structure Watching (runId : String) (rows : List PositionLocalRow)
    (part : μ → Portfolio S) (w w' : World (Durable V) μ) : Prop where
  ids : (part w'.mem).ids = (part w.mem).ids
  along : Watched runId rows (part w.mem) w.disk.db →
    World.Along (Tells runId) w w'
  watched : Watched runId rows (part w.mem) w.disk.db →
    Watched runId rows (part w'.mem) w'.disk.db

section Watching

variable {part : μ → Portfolio S} {w : World (Durable V) μ}

instance : Std.Refl (Watching (V := V) runId rows part) :=
  ⟨fun w => ⟨rfl, fun _ => refl_of _ w, id⟩⟩

instance : IsTrans (World (Durable V) μ) (Watching runId rows part) :=
  ⟨fun _ _ _ h h' => ⟨h'.ids.trans h.ids,
    fun hw => trans_of _ (h.along hw) (h'.along (h.watched hw)),
    h'.watched ∘ h.watched⟩⟩

theorem Watched.of_same {pf pf' : Portfolio S} {db : Db}
    (h : Watched runId rows pf db) (hrun : pf'.runId = pf.runId)
    (hids : pf'.ids = pf.ids) (hrouter : pf'.router = pf.router) :
    Watched runId rows pf' db where
  pfRunId := hrun.trans h.pfRunId
  router := by
    rw [hids, hrouter]
    exact h.router
  covered := by
    rw [hids, hrouter]
    exact h.covered
  heard := h.heard

/-- Other fields change. -/
theorem Watching.memory {m : μ} (hrun : (part m).runId = (part w.mem).runId)
    (hids : (part m).ids = (part w.mem).ids)
    (hrouter : (part m).router = (part w.mem).router) :
    Watching runId rows part w { w with mem := m } :=
  ⟨hids, fun _ => .memory m, fun hw => hw.of_same hrun hids hrouter⟩

/-- A write that leaves the rows alone and loses no alert. -/
theorem Watching.commit {d : Durable V}
    (halerts : w.disk.db.alerts ⊆ d.db.alerts)
    (hrows : d.db.positionsLocal = w.disk.db.positionsLocal) :
    Watching runId rows part w
      { w with disk := d, past := w.past ++ [w.disk] } :=
  ⟨rfl, fun _ => .commit _ d (.of_rows halerts hrows),
    fun hw => hw.mono halerts⟩

theorem Watching.venue (v : V) : Watching runId rows part w (called w v) :=
  .commit (List.Subset.refl _) rfl

theorem Watching.alert (id : String) (a : Alert) :
    Watching runId rows part w (wrote w (w.disk.db.insertAlert id a)) :=
  .commit (List.subset_append_left _ _) rfl

/-- A router's fields change, into a state whose alert is there. -/
theorem Watching.replaced {m : μ} {r : InstrumentRouter S}
    (hid : iid ∈ (part w.mem).ids)
    (hpart : part m = (part w.mem).setRouter iid r)
    (hrun : r.runId = ((part w.mem).router iid).runId)
    (hiid : r.instrumentId = ((part w.mem).router iid).instrumentId)
    (hr : Watched runId rows (part w.mem) w.disk.db →
      r.state.frozen = true → w.disk.db.Warned runId iid) :
    Watching runId rows part w { w with mem := m } := by
  refine ⟨by rw [hpart]; rfl, fun _ => .memory m, fun hw => ?_⟩
  obtain ⟨hrun', hiid'⟩ := hw.router iid hid
  rw [hpart]
  exact hw.setRouter (List.Subset.refl _) (hrun.trans hrun')
    (hiid.trans hiid') (hr hw)

/-- A method of one of the routers. -/
theorem Watching.router {m : μ} {r : World (Durable V) (InstrumentRouter S)}
    (hid : iid ∈ (part w.mem).ids)
    (h : Announcing ⟨(part w.mem).router iid, w.disk, w.past⟩ r)
    (hpart : part m = (part w.mem).setRouter iid r.mem) :
    Watching runId rows part w
      { mem := m, disk := r.disk, past := r.past } := by
  refine ⟨by rw [hpart]; rfl, fun hw => ?_, fun hw => ?_⟩
  all_goals
    obtain ⟨hrun, hiid⟩ := hw.router iid hid
    have hcovered : Covered (⟨(part w.mem).router iid, w.disk, w.past⟩ :
        World (Durable V) (InstrumentRouter S)) := by
      intro hf
      rw [hrun, hiid]
      exact hw.covered iid hid hf
    have halong := h.along hcovered
    rw [show (World.mem (δ := Durable V) ⟨(part w.mem).router iid, w.disk,
      w.past⟩).runId = runId from hrun] at halong
  · exact halong.remember w.mem m
  · rw [hpart]
    refine hw.setRouter halong.between.1.alerts (h.runId.trans hrun)
      (h.instrumentId.trans hiid) fun hf => ?_
    have hwarned := h.covered hcovered hf
    rw [h.runId.trans hrun, h.instrumentId.trans hiid] at hwarned
    exact hwarned

end Watching

/-! ## The operations -/

section Operations

variable {w : World (Durable V) (Portfolio S)}

/-- `Watching` for a portfolio that runs. -/
def Watches (runId : String) :
    World (Durable V) (Portfolio S) → World (Durable V) (Portfolio S) → Prop :=
  Watching runId [] id

instance : Std.Refl (Watches (V := V) (S := S) runId) :=
  inferInstanceAs (Std.Refl (Watching _ _ _))

instance : IsTrans (World (Durable V) (Portfolio S)) (Watches runId) :=
  inferInstanceAs (IsTrans _ (Watching _ _ _))

theorem onRouter_watches {m : Act V (InstrumentRouter S) α}
    (hid : iid ∈ w.mem.ids) (h : m.Steps Announcing (seen w iid)) :
    (Portfolio.onRouter iid m).Steps (Watches runId) w :=
  Watching.router hid h rfl

theorem passive_watches (ex : Executor V) :
    Passive ex (Watches (S := S) runId) where
  ids := fun h => h.ids
  alert := fun w id a => Watching.alert id a
  venue := fun w v => Watching.venue v
  pnl := fun w level => Watching.memory rfl rfl rfl
  refused := fun w ms => Watching.memory rfl rfl rfl
  guarded := fun w iid trigger hid => by
    refine onRouter_watches hid ?_
    exact Prog.Steps.bind (memory_announcing rfl rfl rfl)
      fun _ => announcing_of_moves persist_moves

theorem checkFunding_watches (ex : Executor V)
    {histories : List (InstrumentId × List Bar)} :
    (checkFunding histories snap : Act V (Portfolio S) Unit).Steps
      (Watches runId) w := by
  have hseen : ∀ (w : World (Durable V) (Portfolio S))
      (kept : InstrumentId → Option Decimal),
      Watches runId w { w with mem := { w.mem with fundingSeen := kept } } :=
    fun w kept => Watching.memory rfl rfl rfl
  unfold checkFunding
  refine forEach_rule (passive_watches ex) fun entry _ w' _ => ?_
  obtain ⟨j, history⟩ := entry
  refine Prog.Steps.mem_bind ?_
  dsimp only
  split
  · refine Prog.Steps.bind (hseen _ _) fun _ => ?_
    split
    · exact Prog.Steps.pure
    split
    · exact Prog.Steps.pure
    split
    · exact Prog.Steps.pure
    · exact Watching.alert _ _
  · exact hseen _ _

theorem reconcile_watches :
    (reconcile ex).Steps (Watches (S := S) runId) w :=
  reconcile_rule (passive_watches ex) fun _ _ _ hid =>
    onRouter_watches hid halt_announcing

theorem dispatch_watches {ev : Event} :
    (dispatch ex ev).Steps (Watches (S := S) runId) w := by
  unfold dispatch
  split
  · exact Prog.Steps.bind reconcile_watches fun _ => Prog.Steps.pure
  · refine Prog.Steps.mem_bind ?_
    split
    · next hid =>
      exact onRouter_watches hid (announcing_of_moves handleFill_thaws)
    · exact Prog.Steps.pure
  · exact forRouters_rule (passive_watches ex) fun iid w' hid =>
      onRouter_watches hid (announcing_of_moves handleOrderUpdate_thaws)

theorem perform_watches (ex : Executor V) (op : Portfolio.Op) :
    (perform ex op).Steps (Watches (S := S) runId) w := by
  cases op with
  | onBar histories kill =>
      exact onBar_rule (passive_watches ex) (fun _ _ => checkFunding_watches ex)
        (fun _ _ _ _ hid => onRouter_watches hid shutdown_announcing)
        (fun _ _ _ _ _ hid => onRouter_watches hid onBar_announcing)
  | onFast marks =>
      refine Prog.Steps.bind ?_ fun _ => Prog.Steps.pure
      refine onFast_rule (passive_watches ex) (fun snap _ => ?_)
        (fun _ _ _ _ hid => onRouter_watches hid onFast_announcing)
      exact forRouters_rule (passive_watches ex) fun iid w' hid =>
        onRouter_watches hid (announcing_of_moves checkPending_thaws)
  | dispatch ev => exact dispatch_watches
  | reconcileNow =>
      exact Prog.Steps.bind reconcile_watches fun _ => Prog.Steps.pure

end Operations

/-! ## Recovery -/

section Recovery

open Recovery

variable {w : World (Durable V) (Recovery S)} {row : Option PositionLocalRow}

/-- `Watching` for a recovery that has read `rows`. -/
def Hears (runId : String) (rows : List PositionLocalRow) :
    World (Durable V) (Recovery S) → World (Durable V) (Recovery S) → Prop :=
  Watching runId rows Recovery.pf

instance : Std.Refl (Hears (V := V) (S := S) runId rows) :=
  inferInstanceAs (Std.Refl (Watching _ _ _))

instance : IsTrans (World (Durable V) (Recovery S)) (Hears runId rows) :=
  inferInstanceAs (IsTrans _ (Watching _ _ _))

/-- A sequence about one router, which stays one of the portfolio's. -/
theorem bind_hears {m : Act V (Recovery S) β}
    {f : β → Act V (Recovery S) α} (hid : iid ∈ w.mem.pf.ids)
    (hm : m.Steps (Hears runId rows) w)
    (hf : ∀ b w', iid ∈ w'.mem.pf.ids → (f b).Steps (Hears runId rows) w') :
    (m >>= f).Steps (Hears runId rows) w := by
  have hids : (m w).2.mem.pf.ids = w.mem.pf.ids := Watching.ids hm
  exact Prog.Steps.bind hm fun b => hf b _ (by rw [hids]; exact hid)

theorem report_hears {f : RecoveryReport → RecoveryReport} :
    (report f : Act V (Recovery S) Unit).Steps (Hears runId rows) w :=
  Watching.memory rfl rfl rfl

theorem alert_hears {level : Level} {kind : String}
    {i : Option InstrumentId} {detail : List (String × String)} :
    (Recovery.alert ex level kind i detail).Steps (Hears (S := S) runId rows)
      w :=
  Watching.alert _ _

theorem reportStop_hears {trigger : Decimal} :
    (reportStop ex iid trigger).Steps (Hears (S := S) runId rows) w :=
  Prog.Steps.bind report_hears fun _ => alert_hears

theorem placeStop_hears {pos : PositionView} {limits : RiskLimits} :
    (placeExchangeStop ex pos limits).Steps (Hears (S := S) runId rows) w := by
  unfold placeExchangeStop
  split
  · exact Prog.Steps.raise
  · exact Prog.Steps.bind (Watching.venue _) fun _ => Prog.Steps.pure

/-- Fields of a router that are not its state. -/
theorem modified_hears {f : InstrumentRouter S → InstrumentRouter S}
    (hid : iid ∈ w.mem.pf.ids)
    (hf : ∀ r, ((f r).runId, (f r).instrumentId, (f r).state) =
      (r.runId, r.instrumentId, r.state)) :
    (Recovery.onRouter iid (Prog.modifyMem f) :
      Act V (Recovery S) Unit).Steps (Hears runId rows) w := by
  have h := hf (w.mem.pf.router iid)
  simp only [Prod.mk.injEq] at h
  refine Watching.replaced hid rfl h.1 h.2.1 fun hw hfrozen => ?_
  exact hw.covered iid hid (h.2.2 ▸ hfrozen)

/-- The row a router loads is one of those whose alerts are there. -/
theorem loadRow_hears (hid : iid ∈ w.mem.pf.ids)
    (hrow : ∀ r, row = some r → r ∈ rows ∧ r.instrumentId = iid) :
    (loadRow row iid : Act V (Recovery S) Unit).Steps (Hears runId rows)
      w := by
  unfold loadRow
  split
  · exact Prog.Steps.pure
  · next r =>
    obtain ⟨hmem, hiid⟩ := hrow r rfl
    refine Prog.Steps.disk_bind ?_
    refine Watching.replaced hid rfl rfl rfl fun hw hfrozen => ?_
    rw [← hiid]
    exact hw.heard r hmem hfrozen

theorem takeStop_hears {pos : PositionView} (hid : iid ∈ w.mem.pf.ids) :
    (takeStop ex snap iid pos).Steps (Hears (S := S) runId rows) w := by
  unfold takeStop
  split
  · exact modified_hears hid fun _ => rfl
  refine Prog.Steps.mem_bind ?_
  refine bind_hears hid placeStop_hears fun trigger w₁ hid₁ => ?_
  exact Prog.Steps.bind (modified_hears hid₁ fun _ => rfl)
    fun _ => reportStop_hears

/-- A frozen router keeps its state, any other comes to one that is not. -/
theorem taken_hears {f : InstrumentRouter S → InstrumentRouter S}
    (hid : iid ∈ w.mem.pf.ids)
    (hf : ∀ r, ((f r).runId, (f r).instrumentId) =
      (r.runId, r.instrumentId) ∧
        ((f r).state = r.state ∨ ¬(f r).state.frozen = true)) :
    (Recovery.onRouter iid (Prog.modifyMem f) :
      Act V (Recovery S) Unit).Steps (Hears runId rows) w := by
  obtain ⟨h, hstate⟩ := hf (w.mem.pf.router iid)
  simp only [Prod.mk.injEq] at h
  refine Watching.replaced hid rfl h.1 h.2 fun hw hfrozen => ?_
  rcases hstate with hstate | hstate
  · exact hw.covered iid hid (hstate ▸ hfrozen)
  · exact absurd hfrozen hstate

theorem takeVenue_hears (hid : iid ∈ w.mem.pf.ids) :
    (takeVenue ex snap row iid).Steps (Hears (S := S) runId rows) w := by
  unfold takeVenue
  split
  · next pos _ =>
    have htake : ∀ w₁ : World (Durable V) (Recovery S),
        iid ∈ w₁.mem.pf.ids →
        (Recovery.onRouter iid (Prog.modifyMem fun r =>
            { r with
              size := pos.size, entry := some pos.entryPrice
              cumulativeFunding := pos.cumulativeFunding
              state := if frozenRow row then r.state else .opened }) >>=
          fun _ => takeStop ex snap iid pos).Steps (Hears runId rows) w₁ := by
      intro w₁ hid₁
      refine bind_hears hid₁ (taken_hears hid₁ fun r => ⟨rfl, ?_⟩)
        fun _ w₂ hid₂ => takeStop_hears hid₂
      dsimp only
      split
      · exact Or.inl rfl
      · exact Or.inr (by simp [State.frozen])
    unfold takePosition
    dsimp only
    split
    · exact bind_hears hid (Prog.Steps.bind report_hears fun _ => alert_hears)
        fun _ w₁ hid₁ => htake w₁ hid₁
    · exact htake w hid
  · refine taken_hears hid fun r => ⟨rfl, ?_⟩
    dsimp only
    split
    · exact Or.inl rfl
    · exact Or.inr (by simp [State.frozen])

theorem recoverRouter_hears (hid : iid ∈ w.mem.pf.ids) :
    (recoverRouter ex snap rows iid).Steps (Hears (S := S) runId rows) w := by
  unfold recoverRouter
  refine bind_hears hid report_hears fun _ w₁ hid₁ => ?_
  dsimp only
  refine bind_hears hid₁ (loadRow_hears hid₁ fun r hr => ?_)
    fun _ w₂ hid₂ => ?_
  · exact ⟨List.mem_of_find?_eq_some hr, by simpa using List.find?_some hr⟩
  refine bind_hears hid₂ (takeVenue_hears hid₂) fun _ w₃ hid₃ => ?_
  refine Prog.Steps.bind
    (Watching.router hid₃ (announcing_of_moves persist_moves) rfl)
    fun _ => ?_
  exact Prog.Steps.mem_bind report_hears

theorem guardUnknown_hears {pos : PositionView} :
    (guardUnknown ex snap pos).Steps (Hears (S := S) runId rows) w := by
  unfold guardUnknown
  refine Prog.Steps.mem_bind ?_
  split
  · exact Prog.Steps.pure
  refine Prog.Steps.bind report_hears fun _ => ?_
  refine Prog.Steps.bind alert_hears fun _ => ?_
  split
  · exact Prog.Steps.pure
  · exact Prog.Steps.bind placeStop_hears fun _ => reportStop_hears

/-- A router that waits again is not frozen. -/
theorem restorePending_hears {o : OrderRow} :
    (restorePending ex rows o).Steps (Hears (S := S) runId rows) w := by
  unfold restorePending
  refine Prog.Steps.mem_bind ?_
  split
  · exact Prog.Steps.pure
  split
  swap
  · exact Prog.Steps.pure
  next h =>
  obtain ⟨hid, hpending⟩ := h
  refine Watching.router hid ?_ rfl
  show (InstrumentRouter.adoptPending ex _ _).Steps Announcing _
  unfold InstrumentRouter.adoptPending
  rw [if_pos hpending]
  refine clock_bind ?_
  refine Prog.Steps.bind (memory_announcing rfl rfl rfl) fun _ => ?_
  refine announcing_of_moves (setState_moves (thawing_active ?_))
  exact pending_not_frozen hpending

theorem classifyOrder_hears {o : OrderRow} :
    (classifyOrder ex snap rows o).Steps (Hears (S := S) runId rows) w := by
  have hwrite : ∀ (status : RowStatus) (now : DateTime)
      (w₁ : World (Durable V) (Recovery S)),
      (write (Db.upsertOrder { o with status, updatedAt := now }) :
        Act V (Recovery S) Unit).Steps (Hears runId rows) w₁ :=
    fun _ _ _ => Watching.commit (List.Subset.refl _) rfl
  unfold classifyOrder
  split
  swap
  · exact Prog.Steps.pure
  refine Prog.Steps.bind report_hears fun _ => ?_
  split
  · refine Prog.Steps.bind restorePending_hears fun _ => ?_
    refine Prog.Steps.disk_bind ?_
    exact Prog.Steps.bind (hwrite _ _ _) fun _ => report_hears
  · refine Prog.Steps.disk_bind ?_
    exact Prog.Steps.bind (hwrite _ _ _) fun _ => report_hears

theorem cancelForeign_hears {oid : ClientOrderId} :
    (cancelForeign ex oid).Steps (Hears (S := S) runId rows) w := by
  unfold cancelForeign
  refine Prog.Steps.mem_bind ?_
  split
  · exact Prog.Steps.pure
  · exact Prog.Steps.bind (Watching.venue _) fun _ => report_hears

/-- A loop each turn of which may start anywhere. -/
theorem loop_hears {ι : Type} {xs : List ι}
    {body : ι → Act V (Recovery S) Unit}
    (h : ∀ x w', (body x).Steps (Hears runId rows) w') :
    (Prog.forEach xs body).Steps (Hears runId rows) w :=
  Prog.Steps.forEach (fun _ _ => True) (fun x _ w' _ => ⟨h x w', trivial⟩)
    trivial

theorem adoptAll_hears
    (hrows : w.disk.db.getPositionsLocal w.mem.pf.runId = rows) :
    (adoptAll ex snap).Steps (Hears (S := S) runId rows) w := by
  unfold adoptAll
  refine Prog.Steps.mem_bind (Prog.Steps.disk_bind ?_)
  rw [hrows]
  refine Prog.Steps.bind ?_ fun _ => ?_
  · refine Prog.Steps.forEach (fun rest w' => ∀ iid ∈ rest,
      iid ∈ w'.mem.pf.ids) (fun iid rest w' hi => ?_) fun _ h => h
    have h : (recoverRouter ex snap rows iid).Steps (Hears runId rows) w' :=
      recoverRouter_hears (hi iid (by simp))
    have hids : (recoverRouter ex snap rows iid w').2.mem.pf.ids =
        w'.mem.pf.ids := Watching.ids h
    refine ⟨h, fun j hj => ?_⟩
    rw [hids]
    exact hi j (by simp [hj])
  refine Prog.Steps.bind report_hears fun _ => ?_
  refine Prog.Steps.bind (loop_hears fun _ _ => guardUnknown_hears) fun _ => ?_
  refine Prog.Steps.bind report_hears fun _ => ?_
  refine Prog.Steps.disk_bind ?_
  refine Prog.Steps.bind (loop_hears fun _ _ => classifyOrder_hears) fun _ => ?_
  refine Prog.Steps.bind report_hears fun _ => ?_
  exact Prog.Steps.bind (loop_hears fun _ _ => cancelForeign_hears)
    fun _ => Watching.memory rfl rfl rfl

theorem recordFindings_hears {text : Option String} :
    (recordFindings ex text).Steps (Hears (S := S) runId rows) w :=
  Watching.commit (List.Subset.refl _) rfl

theorem recover_hears
    (hrows : w.disk.db.getPositionsLocal w.mem.pf.runId = rows) :
    (recover ex).Steps (Hears (S := S) runId rows) w := by
  unfold recover
  rcases call_cases ex.snapshot w with ⟨snap, -, hcall⟩ | ⟨e, hcall⟩
  swap
  · refine Prog.Steps.bind_error (by simp only [Prog.catching, hcall]; rfl) ?_
    exact Prog.Steps.catching (Watching.venue _) fun _ => Prog.Steps.raise
  refine Prog.Steps.bind_ok (by simp only [Prog.catching, hcall]; rfl)
    (Prog.Steps.catching (Watching.venue _) fun _ => Prog.Steps.raise) ?_
  refine Prog.Steps.bind ?_ fun _ => ?_
  · refine Prog.Steps.catching (adoptAll_hears hrows) fun e => ?_
    unfold failed
    refine Prog.Steps.bind recordFindings_hears fun _ => ?_
    refine Prog.Steps.mem_bind ?_
    exact Prog.Steps.bind alert_hears fun _ => Prog.Steps.raise
  refine Prog.Steps.bind recordFindings_hears fun _ => ?_
  exact Prog.Steps.mem_bind alert_hears

end Recovery

/-! ## Runs -/

namespace Site

open KeyedTable

variable {s₀ s s' : Site V S} {h : Happening V S} {ds ms : List (Durable V)}
  {d : Durable V} {pf : Portfolio S}

/-- What a chain of commits passes through, seen from both its ends. -/
theorem both_of_along {R : Durable V → Durable V → Prop} [Std.Refl R]
    [IsTrans _ R] {m : μ} {w' : World (Durable V) μ}
    (h : World.Along R ⟨m, d, []⟩ w') :
    ∀ a ∈ w'.moments, R d a ∧ R a w'.disk := by
  intro a ha
  rcases h.between.2 a ha with ha | ha
  · rw [show a = d by simpa [World.moments] using ha]
    exact ⟨refl_of R d, h.between.1⟩
  · exact ha

/-- A process is what its rows say, and its rows have had their alerts. -/
theorem watched_of_running (hr : Running runId ⟨pf, d, []⟩)
    (htold : d.db.Told runId) : Watched runId [] pf d.db where
  pfRunId := hr.pfRunId
  router := fun j hj => ⟨(hr.router j hj).1, (hr.router j hj).2.1⟩
  covered := by
    intro j hj hf
    obtain ⟨row, hrow, hst⟩ := Option.map_eq_some_iff.mp
      (hr.router j hj).2.2
    obtain ⟨hmem, hkey⟩ := lookup_mem hrow
    obtain ⟨hrun, hid⟩ := Prod.mk.inj hkey
    rw [← hid]
    refine htold row (List.mem_filter.mpr ⟨hmem, decide_eq_true hrun⟩) ?_
    rw [hst]
    exact hf
  heard := by simp

theorem recovering_tells {c : Recovery S} (hc : Started runId c)
    (htold : d.db.Told runId) :
    World.Along (Tells runId) ⟨c, d, []⟩ (recovering ex d c).2 := by
  have hsteps : (recover ex).Steps
      (Hears runId (d.db.getPositionsLocal runId)) ⟨c, d, []⟩ :=
    recover_hears (by rw [hc.pfRunId])
  refine Watching.along hsteps ⟨hc.pfRunId, fun j _ => ?_, fun j _ hf => ?_,
    htold⟩
  all_goals obtain ⟨_, _, _, _, _, hr⟩ := hc.router j
  · rw [hr]
    exact ⟨rfl, rfl⟩
  · rw [hr] at hf
    cases hf

theorem operating_tells {op : Portfolio.Op}
    (hr : Running runId ⟨pf, d, []⟩) (htold : d.db.Told runId) :
    World.Along (Tells runId) ⟨pf, d, []⟩ (operating ex d pf op) :=
  Watching.along (perform_watches ex op) (watched_of_running hr htold)

theorem clearing_tells (hid : iid ∈ pf.ids)
    (hr : Running runId ⟨pf, d, []⟩) (htold : d.db.Told runId) :
    World.Along (Tells runId) ⟨pf, d, []⟩ (clearing ex d pf iid) :=
  Watching.along (onRouter_watches hid clearHalt_announcing)
    (watched_of_running hr htold)

/-- A happening passes through disks that have lost no alert, and none of
which has a row that froze without one. -/
theorem Step.tells (hstep : Step ex runId s h ms s') (hs : Steady runId s)
    (htold : s.disk.db.Told runId) :
    ∀ d ∈ ms, Tells runId s.disk d ∧ Tells runId d s'.disk := by
  cases hstep with
  | start hc => exact both_of_along (recovering_tells hc htold)
  | @startCut d d' c ms hc hcut =>
      have halong : World.Along (Tells runId) ⟨c, d, []⟩
          (recovering ex d c).2 := recovering_tells hc htold
      exact fun d hd => ⟨(both_of_along halong d (hcut.subset hd)).1,
        halong.cut hcut d (List.mem_cons_of_mem _ hd)⟩
  | perform => exact both_of_along (operating_tells (hs _ rfl) htold)
  | @cut d d' pf op ms hcut =>
      have halong : World.Along (Tells runId) ⟨pf, d, []⟩
          (operating ex d pf op) := operating_tells (hs pf rfl) htold
      exact fun d hd => ⟨(both_of_along halong d (hcut.subset hd)).1,
        halong.cut hcut d (List.mem_cons_of_mem _ hd)⟩
  | clearHalt hid =>
      exact both_of_along (clearing_tells hid (hs _ rfl) htold)
  | stop =>
      intro d hd
      rw [List.mem_singleton.mp hd]
      exact ⟨refl_of _ _, refl_of _ _⟩
  | venue v =>
      intro d hd
      rw [List.mem_singleton.mp hd]
      exact ⟨.of_eq rfl rfl, refl_of _ _⟩
  | strategies states =>
      intro d hd
      rw [List.mem_singleton.mp hd]
      exact ⟨refl_of _ _, refl_of _ _⟩

/-- The last disk a happening passes through is the one it leaves. -/
theorem Step.disk_mem (hstep : Step ex runId s h ms s') : s'.disk ∈ ms := by
  cases hstep with
  | start hc => exact World.mem_moments_self _
  | perform => exact World.mem_moments_self _
  | clearHalt hid => exact World.mem_moments_self _
  | _ => simp

/-- At every moment of a run the frozen rows have had their alerts, and what
alerts there were are there in the end. -/
theorem Run.told {may : Site V S → Happening V S → Prop}
    (hrun : Run ex runId may s₀ ds s) (hs : Steady runId s₀)
    (htold : s₀.disk.db.Told runId) :
    s.disk.db.Told runId ∧ ∀ d ∈ ds, d.db.Told runId ∧
      d.db.alerts ⊆ s.disk.db.alerts := by
  induction hrun with
  | here =>
      refine ⟨htold, fun d hd => ?_⟩
      rw [List.mem_singleton.mp hd]
      exact ⟨htold, List.Subset.refl _⟩
  | next hrun _ hstep ih =>
      obtain ⟨hlast, hall⟩ := ih
      have hms := hstep.tells (hrun.steady hs) hlast
      have hend := (hms _ hstep.disk_mem).1
      refine ⟨hend.told hlast, fun d hd => ?_⟩
      rcases List.mem_append.mp hd with hd | hd
      · obtain ⟨hd₁, hd₂⟩ := hall d hd
        exact ⟨hd₁, List.Subset.trans hd₂ hend.alerts⟩
      · exact ⟨(hms d hd).1.told hlast, (hms d hd).2.alerts⟩

/-- **A clean run was never frozen.** In any run of processes over a database
whose frozen rows have had their alerts, such as an empty one: at no moment is
a router of the run frozen, in its row or in a process that runs, without a
critical alert of its instrument having been emitted. If the run is clean in
the end by a table that took the critical alerts, it was clean at every moment,
whatever its table had taken by then and whatever was cleared meanwhile. -/
theorem clean_never_frozen (h₀ : s₀.process = none)
    (htold : s₀.disk.db.Told runId)
    (hrun : Run ex runId anything s₀ ds s) :
    (∀ d ∈ ds, ∀ p ∈ d.db.getPositionsLocal runId, p.state.frozen = true →
        d.db.Warned runId p.instrumentId) ∧
      (∀ pf, s.process = some pf → ∀ iid ∈ pf.ids,
        (pf.router iid).state.frozen = true →
          s.disk.db.Warned runId iid) ∧
      ∀ table, s.disk.db.TookCritical runId table →
        (s.disk.db.withAlerts table).isClean runId = true →
          ∀ d ∈ ds, ∀ table', table' ⊆ d.db.alerts →
            (d.db.withAlerts table').isClean runId = true := by
  have hs₀ : Steady runId s₀ := steady_of_none h₀
  obtain ⟨hlast, hall⟩ := hrun.told hs₀ htold
  refine ⟨fun d hd => (hall d hd).1, fun pf hpf => ?_,
    fun table htook hclean d hd table' hsub => ?_⟩
  · exact (watched_of_running (hrun.steady hs₀ pf hpf) hlast).covered
  obtain ⟨htold, halerts⟩ := hall d hd
  -- a critical alert of any moment is in the table in the end
  have hquiet : ∀ a, (runId, a) ∈ d.db.alerts → a.level ≠ .critical :=
    fun a ha hcritical => (Db.isClean_iff.mp hclean).2 a
      (htook a (halerts ha) hcritical) hcritical
  refine Db.isClean_iff.mpr ⟨fun p hp => ?_, fun a ha => hquiet a (hsub ha)⟩
  refine eq_false_of_ne_true fun hf => ?_
  obtain ⟨a, ha, hcritical, -⟩ := htold p hp hf
  exact hquiet a ha hcritical

section Cleared

/-- A venue that holds one contract, over a new database. -/
def newDisk : Durable Unit := { haltedDisk with db := Db.empty }

/-- The process that recovers from there. -/
@[irreducible] def newProcess : World (Durable Unit) (Recovery Unit) :=
  (recovering holding newDisk oneRouter).2

/-- That process after a tick. -/
@[irreducible] def quietTick : World (Durable Unit) (Portfolio Unit) :=
  operating holding newProcess.disk newProcess.mem.pf (.onFast [(1, 100)])

/-- That process after a shutdown bar. -/
@[irreducible] def barred : World (Durable Unit) (Portfolio Unit) :=
  operating holding newProcess.disk newProcess.mem.pf (.onBar [] .shutdown)

theorem newProcess_step : Step holding "run" ⟨newDisk, none⟩
    (.start oneRouter) newProcess.moments
    ⟨newProcess.disk, some newProcess.mem.pf⟩ := by
  rw [newProcess]
  exact .started oneRouter_started (by decide +kernel)

theorem quietTick_step : Step holding "run"
    ⟨newProcess.disk, some newProcess.mem.pf⟩
    (.perform (.onFast [(1, 100)])) quietTick.moments
    ⟨quietTick.disk, some quietTick.mem⟩ := by
  rw [quietTick]
  exact .perform

theorem barred_step : Step holding "run"
    ⟨newProcess.disk, some newProcess.mem.pf⟩
    (.perform (.onBar [] .shutdown)) barred.moments
    ⟨barred.disk, some barred.mem⟩ := by
  rw [barred]
  exact .perform

/-- The tick leaves the run clean, at every moment of it. The shutdown bar
freezes the router, and its alert was emitted. -/
theorem clean_never_frozen_holding :
    (∀ d ∈ quietTick.moments, d.db.isClean "run" = true) ∧
      (barred.mem.router 1).state = .halted ∧
      barred.disk.db.Warned "run" 1 := by
  have htold : newDisk.db.Told "run" := fun p hp => by cases hp
  have hquiet := clean_never_frozen rfl htold
    (.next (.next .here (h := .start oneRouter) trivial newProcess_step)
      (h := .perform (.onFast [(1, 100)])) trivial quietTick_step)
  have hloud := clean_never_frozen rfl htold
    (.next (.next .here (h := .start oneRouter) trivial newProcess_step)
      (h := .perform (.onBar [] .shutdown)) trivial barred_step)
  have hhalted : (barred.mem.router 1).state = .halted := by decide +kernel
  refine ⟨fun d hd => ?_, hhalted, ?_⟩
  · -- the table has all that was emitted
    refine hquiet.2.2 quietTick.disk.db.alerts (fun _ ha _ => ha) ?_ d
      (List.mem_append_right _ hd) d.db.alerts (List.Subset.refl _)
    decide +kernel
  · refine hloud.2.1 _ rfl 1 ?_ ?_
    · decide +kernel
    · rw [hhalted]
      rfl

/-- Where the table refused the alerts, the mark is clean again once the halt
is cleared. -/
example : (barred.disk.db.withAlerts []).isClean "run" = false ∧
    ((clearing holding barred.disk barred.mem 1).disk.db.withAlerts
      []).isClean "run" = true := by
  decide +kernel

end Cleared

end Site

end Polyperps
