import Polyperps.Proofs.HaltSurvives
import Polyperps.Proofs.Reconciles

/-!
# State and size tell one story

The state, the size, the entry price and the pending order of a router are set
apart from one another, by fills, cancels, rejections, adoptions, halts and
recovery. `Coherent` is what they have in common after every operation; inside
one, a fill moves the size before the state follows, and an adoption forgets
the pending order before it settles the state, so what a method keeps on the
way is stated of `Fits` for a weaker predicate.

An average price is the one thing that could raise between a fill and its
state. It divides by a filled quantity, so no row may record a negative one
(`Tallied`), at any moment a process can be stopped at.
-/

namespace Polyperps

open ProgramLogic InstrumentRouter

variable {V S α : Type} {ex : Executor V}

/-- A size has an entry price, and only a size has one. -/
def Priced (r : InstrumentRouter S) : Prop := r.entry.isSome ↔ r.size ≠ 0

structure Coherent (r : InstrumentRouter S) : Prop where
  priced : Priced r
  opened : r.state = .opened → r.size ≠ 0
  flat : r.state = .flat → r.size = 0
  waiting : r.state.pending = true →
    r.pendingCid.isSome ∧ r.pendingSince.isSome

/-- No order row has a negative filled quantity. -/
def Tallied (db : Db) : Prop := ∀ o ∈ db.orders, 0 ≤ o.filledQuantity

/-- No moment of a run had one. -/
def Tallies {μ : Type} (w : World (Durable V) μ) : Prop :=
  ∀ d ∈ w.moments, Tallied d.db

/-- A venue whose snapshots, stop calls and cancels succeed, with an entry
price for every position. -/
structure Dependable (ex : Executor V) : Prop where
  snapshot : ∀ v, ∃ snap, (ex.snapshot v).1 = .ok snap ∧
    ∀ p ∈ snap.positions, p.size ≠ 0 → 0 < p.entryPrice
  placeStop : ∀ iid trigger v, (ex.placeStop iid trigger v).1 = .ok ()
  cancelStop : ∀ iid v, (ex.cancelStop iid v).1 = .ok ()
  cancel : ∀ cid v, (ex.cancel cid v).1 = .ok ()

/-- The router satisfies `P`, and no moment had a negative quantity. -/
structure Fits (P : InstrumentRouter S → Prop)
    (w : World (Durable V) (InstrumentRouter S)) : Prop where
  router : P w.mem
  tallies : Tallies w

variable {P : InstrumentRouter S → Prop} {r r' : InstrumentRouter S}
  {w : World (Durable V) (InstrumentRouter S)} {snap : AccountSnapshot}

/-! ## What the steps of a method keep -/

section Steps

/-- The fields coherence is about. -/
theorem Coherent.same (h : Coherent r)
    (heq : (r'.state, r'.size, r'.entry, r'.pendingCid, r'.pendingSince) =
      (r.state, r.size, r.entry, r.pendingCid, r.pendingSince)) :
    Coherent r' := by
  simp only [Prod.mk.injEq] at heq
  obtain ⟨h1, h2, h3, h4, h5⟩ := heq
  refine ⟨?_, ?_, ?_, ?_⟩
  · unfold Priced
    rw [h2, h3]
    exact h.priced
  · rw [h1, h2]
    exact h.opened
  · rw [h1, h2]
    exact h.flat
  · rw [h1, h4, h5]
    exact h.waiting

/-- A state entered that fits the size and waits for nothing. -/
theorem Priced.coherent (h : Priced r) (hopened : r.state = .opened → r.size ≠ 0)
    (hflat : r.state = .flat → r.size = 0) (hidle : r.state.pending = false) :
    Coherent r :=
  ⟨h, hopened, hflat, fun hp => by rw [hidle] at hp; cases hp⟩

/-- A frozen state fits every size. -/
theorem Priced.frozen (h : Priced r) (hf : r.state.frozen = true) :
    Coherent r := by
  refine h.coherent (fun ho => ?_) (fun ho => ?_) ?_
  · rw [ho] at hf; cases hf
  · rw [ho] at hf; cases hf
  · revert hf
    cases r.state <;> simp [State.frozen, State.pending]

theorem Tallied.of_orders {db db' : Db} (h : Tallied db)
    (horders : db'.orders = db.orders) : Tallied db' := by
  rw [Tallied, horders]
  exact h

theorem Tallied.upserted {db : Db} (h : Tallied db) {o : OrderRow}
    (ho : 0 ≤ o.filledQuantity) : Tallied (db.upsertOrder o) := by
  intro x hx
  rcases KeyedTable.mem_upsert hx with hx | rfl | ⟨y, -, -, rfl⟩
  · exact h x hx
  · exact ho
  · exact ho

section Worlds

variable {μ : Type} {w : World (Durable V) μ}

theorem Tallies.now (h : Tallies w) : Tallied w.disk.db :=
  h _ w.mem_moments_self

theorem Tallies.commit (h : Tallies w) {m : μ} {d : Durable V}
    (hd : Tallied d.db) :
    Tallies { mem := m, disk := d, past := w.past ++ [w.disk] } := by
  intro d' hd'
  rw [World.moments_commit] at hd'
  rcases List.mem_append.mp hd' with hd' | hd'
  · exact h d' hd'
  · rw [List.mem_singleton.mp hd']
    exact hd

theorem Tallies.wrote (h : Tallies w) {db : Db} (hdb : Tallied db) :
    Tallies (Polyperps.wrote w db) :=
  h.commit (d := { w.disk with db }) hdb

theorem Tallies.called (h : Tallies w) {v : V} :
    Tallies (Polyperps.called w v) :=
  h.commit (d := { w.disk with venue := v }) h.now

end Worlds

theorem Fits.memory (h : Fits P w) {r' : InstrumentRouter S}
    {Q : InstrumentRouter S → Prop} (hr : Q r') :
    Fits Q { w with mem := r' } := ⟨hr, h.tallies⟩

theorem Fits.alerted (h : Fits P w) {runId : String} {a : Alert} :
    Fits P (wrote w (w.disk.db.insertAlert runId a)) :=
  ⟨h.router, h.tallies.wrote (h.tallies.now.of_orders rfl)⟩

theorem Fits.persisted (h : Fits P w) {row : PositionLocalRow} :
    Fits P (wrote w (w.disk.db.upsertPositionLocal row)) :=
  ⟨h.router, h.tallies.wrote (h.tallies.now.of_orders rfl)⟩

theorem Fits.awaited (h : Fits P w) {v : V} : Fits P (called w v) :=
  ⟨h.router, h.tallies.called⟩

theorem Fits.entered (h : Fits P w) {st : State} {now : DateTime}
    {Q : InstrumentRouter S → Prop} (hr : Q { w.mem with state := st }) :
    Fits Q (entered w st now) :=
  ⟨hr, Tallies.wrote (w := { w with mem := { w.mem with state := st } })
    h.tallies (h.tallies.now.of_orders rfl)⟩

theorem Fits.updated (h : Fits P w) {cid : ClientOrderId} {skip : Bool}
    {changes : OrderRow → OrderRow}
    (hc : ∀ o ∈ w.disk.db.orders, 0 ≤ (changes o).filledQuantity) :
    Fits P (((updatedDb ex cid skip changes w.disk).map (wrote w)).getD w) := by
  refine ⟨by rw [updated_mem]; exact h.router, ?_⟩
  unfold updatedDb
  cases hrow : w.disk.db.getOrder cid with
  | none => exact h.tallies
  | some row =>
      rw [Option.filter]
      split
      · refine h.tallies.wrote (h.tallies.now.upserted ?_)
        exact hc row (KeyedTable.lookup_mem hrow).1
      · exact h.tallies

/-- An update that leaves the filled quantity alone. -/
theorem Fits.relabelled (h : Fits P w) {cid : ClientOrderId} {skip : Bool}
    {changes : OrderRow → OrderRow}
    (hc : ∀ o, (changes o).filledQuantity = o.filledQuantity) :
    Fits P (((updatedDb ex cid skip changes w.disk).map (wrote w)).getD w) :=
  h.updated fun o ho => by rw [hc]; exact h.tallies.now o ho

end Steps

/-- Both outcomes of a method satisfy `P`. -/
abbrev Fitting (P : InstrumentRouter S → Prop)
    (m : Act V (InstrumentRouter S) α)
    (w : World (Durable V) (InstrumentRouter S)) : Prop :=
  Prog.wp m (fun _ w' => Fits P w') (fun _ w' => Fits P w') w

/-! ## The methods -/

section Methods

/-- A decision row changes nothing coherence is about, taken or refused. -/
theorem record_fits (h : Fits P w)
    (hP : ∀ r : InstrumentRouter S, P r → P { r with dseq := r.dseq + 1 })
    {target : Option Decimal} {verdicts : List (String × String)}
    {intent : Option Intent} {cid : Option ClientOrderId} {text : String} :
    Fitting P (record ex target verdicts intent cid text) w := by
  refine Prog.wp_state.mpr ⟨?_, ?_⟩
  · rw [state_record]
    exact hP _ h.router
  · rcases record_cases ex target verdicts intent cid text w with heq | ⟨heq, -⟩
    · rw [heq]
      exact Tallies.wrote (w := { w with mem := _ }) h.tallies
        (h.tallies.now.of_orders rfl)
    · rw [heq]
      exact Tallies.commit (w := w) h.tallies (d := { w.disk with
        refusedDecisions := _ }) h.tallies.now

theorem skip_fits (h : Fits Coherent w) {target : Option Decimal}
    {note : String} : Fitting Coherent (skip ex target note) w :=
  record_fits h fun _ hr => hr.same rfl

theorem replaceStop_fits (hex : Dependable ex) (h : Fits Coherent w) :
    Fitting Coherent (replaceStop ex) w := by
  unfold Fitting replaceStop
  rw [Prog.wp_bind, Prog.wp_mem]
  split
  · exact h
  next entry _ =>
  rw [Prog.wp_ite]
  split
  · exact h
  rw [Prog.wp_catching, Prog.wp_bind]
  refine wp_call_ok (hex.placeStop _ _ _) ?_
  rw [Prog.wp_bind, Prog.wp_modifyMem, Prog.wp_bind, wp_persist, wp_alert]
  refine ((h.awaited.memory ?_).persisted).alerted
  exact h.router.same rfl

/-- The size and entry an adoption gives: the position's, or none. -/
theorem adopt_fits (hex : Dependable ex)
    (hsnap : ∀ p ∈ snap.positions, p.size ≠ 0 → 0 < p.entryPrice)
    (h : Fits P w) :
    Prog.wp (adopt ex snap)
      (fun _ w' => Fits Priced w' ∧ w'.mem.state = w.mem.state)
      (fun _ _ => False) w := by
  unfold adopt
  rw [Prog.wp_bind, Prog.wp_modifyMem, Prog.wp_bind, Prog.wp_mem]
  dsimp only
  split
  · rw [Prog.wp_bind, Prog.wp_modifyMem, wp_persist]
    exact ⟨(h.memory (by simp [Priced])).persisted, rfl⟩
  next pos hpos =>
  have hne : pos.size ≠ 0 := by
    simpa using (Option.filter_eq_some_iff.mp hpos).2
  have hmem : pos ∈ snap.positions :=
    List.mem_of_find?_eq_some (Option.filter_eq_some_iff.mp hpos).1
  rw [Prog.wp_bind, Prog.wp_modifyMem, Prog.wp_bind, adoptStop, Prog.wp_bind,
    Prog.wp_mem]
  split
  · rw [Prog.wp_modifyMem, wp_persist]
    exact ⟨(h.memory (by simp [Priced, hne])).persisted, rfl⟩
  · rw [Prog.wp_catching, Prog.wp_bind, placeExchangeStop,
      if_neg (not_le.mpr (hsnap pos hmem hne)), Prog.wp_bind]
    refine wp_call_ok (hex.placeStop _ _ _) ?_
    rw [Prog.wp_pure, Prog.wp_modifyMem, wp_persist]
    exact ⟨((h.memory (Q := fun _ => True) trivial).awaited.memory
      (by simp [Priced, hne])).persisted, rfl⟩

theorem settleState_fits (h : Fits Priced w) :
    Prog.wp (settleState ex) (fun _ w' => Fits Coherent w')
      (fun _ _ => False) w := by
  unfold settleState
  rw [Prog.wp_bind, Prog.wp_mem, Prog.wp_ite]
  split
  · next hf => exact ⟨h.router.frozen hf, h.tallies⟩
  · rw [wp_setState]
    refine h.entered (Priced.coherent h.router ?_ ?_ ?_)
    · dsimp only
      split
      · next hne => exact fun _ => hne
      · nofun
    · dsimp only
      split
      · nofun
      · next hz => exact fun _ => not_not.mp hz
    · dsimp only
      split <;> rfl

theorem flattenStrategy_fits (h : Fits Coherent w) :
    Fitting Coherent (flattenStrategy : Act V (InstrumentRouter S) Unit) w :=
  h.memory (h.router.same rfl)

theorem adoptAndSettle_fits (hex : Dependable ex)
    (hsnap : ∀ p ∈ snap.positions, p.size ≠ 0 → 0 < p.entryPrice)
    (h : Fits P w) : Fitting Coherent (adoptAndSettle ex snap) w := by
  unfold Fitting adoptAndSettle
  rw [Prog.wp_bind]
  refine Prog.wp_mono (adopt_fits hex hsnap h) (fun _ w₁ h₁ => ?_)
    fun _ _ hf => hf.elim
  rw [Prog.wp_bind]
  refine Prog.wp_mono (settleState_fits h₁.1) (fun _ w₂ h₂ => ?_)
    fun _ _ hf => hf.elim
  rw [Prog.wp_bind, Prog.wp_mem, Prog.wp_ite]
  split
  · rw [Prog.wp_bind]
    refine wp_call_ok (hex.cancelStop _ _) ?_
    exact flattenStrategy_fits h₂.awaited
  · exact h₂.memory (h₂.router.same rfl)

theorem checkPending_fits (hex : Dependable ex)
    (hsnap : ∀ p ∈ snap.positions, p.size ≠ 0 → 0 < p.entryPrice)
    (h : Fits Coherent w) : Fitting Coherent (checkPending ex snap) w := by
  unfold Fitting checkPending
  rw [Prog.wp_bind, Prog.wp_mem, Prog.wp_bind, wp_clock]
  split
  · exact h
  rw [Prog.wp_ite]
  split
  · exact h
  rw [Prog.wp_ite]
  split
  · exact h
  rw [Prog.wp_bind, wp_alert]
  dsimp only
  split
  · exact adoptAndSettle_fits hex hsnap h.alerted
  · rw [Prog.wp_bind, wp_updateOrder]
    exact adoptAndSettle_fits hex hsnap (h.alerted.relabelled (by intro; rfl))

/-- A halt leaves a frozen state, whatever it was. -/
theorem halt_fits {reason : String} (h : Fits Priced w) :
    Prog.wp (halt ex reason)
      (fun _ w' => Fits Priced w' ∧ w'.mem.state.frozen = true)
      (fun _ _ => False) w := by
  unfold halt
  rw [Prog.wp_bind, Prog.wp_mem, Prog.wp_ite]
  split
  · next hf => exact ⟨h, hf⟩
  · rw [Prog.wp_bind, wp_alert, Prog.wp_bind, Prog.wp_modifyMem, wp_setState]
    refine ⟨Fits.entered (P := Priced) ?_ ?_, rfl⟩
    · exact h.alerted.memory h.router
    · exact h.router

/-! ### Sending -/

/-- Submitting an order touches no field of the router and no row. -/
theorem submitAttempt_fits (hex : Dependable ex) {attempt : ℕ}
    {req : OrderRequest} {sizeBefore : Decimal}
    {otherwise : Act V (InstrumentRouter S) (Option OrderAck)}
    (h : Fits P w) (hother : ∀ w', Fits P w' → Fitting P otherwise w') :
    Fitting P (submitAttempt ex attempt req sizeBefore otherwise) w := by
  have hsent : ∀ v, Fits P (sent w req w.mem.dseq v) := fun v =>
    ⟨h.router, Tallies.commit (w := w) h.tallies (d := { w.disk with
      venue := v, submitted := _ }) h.tallies.now⟩
  unfold Fitting submitAttempt
  rw [Prog.wp_catching, Prog.wp_bind, Prog.wp_mem, Prog.wp_bind,
    wp_callSubmit]
  split
  · exact hsent _
  next e v _ =>
  rw [Prog.wp_ite]
  split
  · obtain ⟨snap, hsnap, -⟩ := hex.snapshot v
    rw [Prog.wp_bind]
    refine wp_call_ok hsnap ?_
    rw [Prog.wp_ite]
    split
    · simp only [Prog.wp_bind, wp_alert, wp_clock, Prog.wp_pure]
      exact (hsent v).awaited.alerted
    · exact hother _ (hsent v).awaited
  · exact hsent _

theorem submitWithRecovery_fits (hex : Dependable ex) {req : OrderRequest}
    {sizeBefore : Decimal} (h : Fits P w) :
    Fitting P (submitWithRecovery ex req sizeBefore) w := by
  refine submitAttempt_fits hex h fun w' h' => ?_
  unfold Fitting
  rw [Prog.wp_bind, wp_alert]
  exact submitAttempt_fits hex h'.alerted fun w' h' => h'

theorem submitFailed_fits (hex : Dependable ex) {cid : ClientOrderId} {e : Exc}
    (h : Fits Priced w) : Fitting Coherent (submitFailed ex cid e) w := by
  unfold Fitting submitFailed
  rw [Prog.wp_bind, wp_updateOrder, Prog.wp_bind, wp_alert, Prog.wp_bind]
  refine Prog.wp_mono (halt_fits ?_) (fun _ w₁ h₁ => ?_) fun _ _ hf => hf.elim
  · exact (h.relabelled (by intro; rfl)).alerted
  obtain ⟨snap, hsnap, hpriced⟩ := hex.snapshot w₁.disk.venue
  rw [Prog.wp_bind]
  refine wp_call_ok hsnap ?_
  refine Prog.wp_mono (adopt_fits hex hpriced h₁.1.awaited) (fun _ w₂ h₂ => ?_)
    fun _ _ hf => hf.elim
  refine ⟨h₂.1.router.frozen ?_, h₂.1.tallies⟩
  rw [h₂.2]
  exact h₁.2

/-- The answer to an order sent from the state `prior`, at a size that state
fits. -/
theorem acknowledge_fits {cid : ClientOrderId} {prior : State}
    {intent : Intent} {ack : Option OrderAck}
    (hprior : Coherent { w.mem with state := prior, pendingCid := none })
    (h : Fits Coherent w) :
    Fitting Coherent (acknowledge ex cid prior intent ack) w := by
  unfold Fitting acknowledge
  split
  · rw [Prog.wp_bind, wp_updateOrder]
    refine Prog.wp_mono (halt_fits ?_) (fun _ w₁ h₁ => ?_)
      fun _ _ hf => hf.elim
    · exact (h.memory h.router.priced).relabelled (by intro; rfl)
    · exact ⟨h₁.1.router.frozen h₁.2, h₁.1.tallies⟩
  split
  · rw [Prog.wp_bind, wp_updateOrder, Prog.wp_bind, wp_alert, Prog.wp_bind,
      Prog.wp_modifyMem, wp_setState]
    refine Fits.entered (P := fun _ => True) ?_ ?_
    · exact (Fits.alerted (P := Coherent)
        (h.relabelled (by intro; rfl))).memory trivial
    · rw [wrote_mem, updated_mem]
      exact hprior
  · rw [wp_updateOrder]
    exact h.relabelled (by intro; rfl)

/-- An order announced is waited for; a refused decision row announces
nothing. -/
theorem announce_fits {intent : Intent} {target : Option Decimal}
    {verdicts : List (String × String)} (h : Fits Coherent w) :
    Prog.wp (announce ex intent target verdicts)
      (fun _ w' => Fits Coherent w' ∧ w'.mem.size = w.mem.size ∧
        w'.mem.entry = w.mem.entry)
      (fun _ w' => Fits Coherent w') w := by
  rcases announce_cases ex intent target verdicts w with hok | ⟨herr, -⟩
  · rw [Prog.wp_of_ok hok]
    have hwaits : intent.waiting.pending = true := by
      unfold Intent.waiting
      split <;> rfl
    have hidle : ∀ st : State, st.pending = false → intent.waiting ≠ st := by
      rintro st hst rfl
      rw [hst] at hwaits
      cases hwaits
    refine ⟨⟨⟨h.router.priced, fun ho => ?_, fun ho => ?_, fun _ => ⟨rfl, rfl⟩⟩,
      ?_⟩, rfl, rfl⟩
    · exact absurd ho (hidle _ rfl)
    · exact absurd ho (hidle _ rfl)
    · have hdecided : Tallied (decidedDb w.disk.db
          (intentRow ex intent target verdicts w)) :=
        h.tallies.now.of_orders rfl
      have hannounced : Tallied (announcedDb ex intent target verdicts w) :=
        hdecided.upserted le_rfl
      exact ((Tallies.wrote (w := { w with mem := _ }) h.tallies
        hdecided).wrote hannounced).wrote (hannounced.of_orders rfl)
  · rw [Prog.wp_of_error herr]
    refine ⟨h.router.same rfl, ?_⟩
    exact Tallies.commit (w := w) h.tallies (d := { w.disk with
      refusedDecisions := _ }) h.tallies.now

/-- An order is sent from a state that waits for nothing. -/
theorem send_fits (hex : Dependable ex) {intent : Intent}
    {target : Option Decimal} {verdicts : List (String × String)}
    (h : Fits Coherent w) (hidle : w.mem.state.pending = false) :
    Fitting Coherent (send ex intent target verdicts) w := by
  unfold Fitting send
  rw [Prog.wp_bind, Prog.wp_mem, Prog.wp_bind]
  refine Prog.wp_mono (announce_fits h) (fun req w₁ h₁ => ?_) fun _ _ h₁ => h₁
  rw [Prog.wp_bind, Prog.wp_attempt]
  -- the submit keeps the size and entry the order was sent at
  have hsub : Fitting (fun r => Coherent r ∧ r.size = w.mem.size ∧
      r.entry = w.mem.entry) (submitWithRecovery ex req w.mem.size) w₁ :=
    submitWithRecovery_fits hex ⟨⟨h₁.1.router, h₁.2⟩, h₁.1.tallies⟩
  refine Prog.wp_mono hsub (fun ack w₂ h₂ => ?_) fun e w₂ h₂ => ?_
  · refine acknowledge_fits ?_ ⟨h₂.router.1, h₂.tallies⟩
    refine Priced.coherent h₂.router.1.priced ?_ ?_ hidle
    · rw [h₂.router.2.1]
      exact h.router.opened
    · rw [h₂.router.2.1]
      exact h.router.flat
  · exact submitFailed_fits hex ⟨h₂.router.1.priced, h₂.tallies⟩

theorem exit_fits (hex : Dependable ex) {mark size : Decimal}
    {reason : String} {target : Option Decimal} (h : Fits Coherent w)
    (hidle : w.mem.state.pending = false) :
    Fitting Coherent (exit ex mark reason target size) w := by
  unfold Fitting exit
  rw [Prog.wp_bind, Prog.wp_mem]
  exact send_fits hex h hidle

theorem shutdown_fits (hex : Dependable ex) {mark : Decimal}
    {exchangeSize : Option Decimal} (h : Fits Coherent w) :
    Fitting Coherent (shutdown ex mark exchangeSize) w := by
  have hhalt : ∀ w₁ : World (Durable V) (InstrumentRouter S),
      Fits Coherent w₁ → Fitting Coherent (setState ex .halted) w₁ :=
    fun w₁ h₁ => h₁.entered (Priced.frozen h₁.router.priced rfl)
  have hrest : ∀ w₁ : World (Durable V) (InstrumentRouter S),
      Fits Coherent w₁ → Fitting Coherent (do
        if w.mem.state = .halted then pure ()
          else alert ex .critical "kill_switch" [("action", "shutdown")]
        setState ex .halted) w₁ := by
    intro w₁ h₁
    unfold Fitting
    rw [Prog.wp_ite]
    split
    · exact hhalt w₁ h₁
    · rw [Prog.wp_bind, wp_alert]
      exact hhalt _ h₁.alerted
  unfold Fitting shutdown
  rw [Prog.wp_bind, Prog.wp_mem]
  dsimp only
  rw [Prog.wp_ite]
  split
  · exact h
  rw [Prog.wp_ite]
  split
  · next hc =>
    have hidle : w.mem.state.pending = false := by
      rcases hc.2 with h | h | h <;> rw [h] <;> rfl
    rw [Prog.wp_bind]
    exact Prog.wp_mono (exit_fits hex h hidle) (fun _ w₁ h₁ => hrest w₁ h₁)
      fun _ _ h₁ => h₁
  · exact hrest w h

/-! ### The bar cycle and the fast loop -/

theorem enter_fits (hex : Dependable ex) {mark target : Decimal}
    {snapshot : AccountSnapshot} {kill : KillAction} {pending : List Intent}
    (h : Fits Coherent w) (hidle : w.mem.state.pending = false) :
    Fitting Coherent (enter ex mark target snapshot kill pending) w := by
  have hrecord : ∀ target verdicts text,
      Fitting Coherent (record ex target verdicts none none text) w :=
    fun _ _ _ => record_fits h fun _ hr => hr.same rfl
  unfold Fitting enter
  rw [Prog.wp_ite]
  split
  · exact skip_fits h
  rw [Prog.wp_bind, Prog.wp_mem, Prog.wp_bind]
  cases divide w.mem.limits.notionalUsd mark with
  | error e => exact h
  | ok perContract =>
    rw [Prog.wp_ofExcept_ok]
    dsimp only
    rw [Prog.wp_bind]
    cases vetEntry _ mark snapshot w.mem.limits pending with
    | error e => exact h
    | ok entryVerdict =>
      rw [Prog.wp_ofExcept_ok, Prog.wp_bind]
      cases vetExposure _ _ _ _ _ pending with
      | error e => exact h
      | ok exposureVerdict =>
        rw [Prog.wp_ofExcept_ok, Prog.wp_bind]
        cases applyGuards _ _ with
        | error e => exact h
        | ok merged =>
          rw [Prog.wp_ofExcept_ok]
          obtain ⟨final, labels⟩ := merged
          cases final with
          | none => exact hrecord _ _ _
          | some final => exact send_fits hex h hidle

theorem holdOrExit_fits (hex : Dependable ex) {mark target : Decimal}
    (h : Fits Coherent w) (hidle : w.mem.state.pending = false) :
    Fitting Coherent (holdOrExit ex mark target) w := by
  unfold Fitting holdOrExit
  rw [Prog.wp_bind, Prog.wp_mem]
  dsimp only
  rw [Prog.wp_ite]
  split
  · exact exit_fits hex h hidle
  · exact skip_fits h

theorem onBar_fits (hex : Dependable ex) {history : List Bar}
    {snapshot : AccountSnapshot} {kill : KillAction} {pending : List Intent}
    (h : Fits Coherent w) :
    Fitting Coherent (onBar ex history snapshot kill pending) w := by
  unfold Fitting onBar
  rw [Prog.wp_bind, Prog.wp_mem, Prog.wp_ite]
  split
  · exact skip_fits h
  next hst =>
  have hidle : w.mem.state.pending = false := by simp_all
  split
  · exact h
  split
  · exact skip_fits h
  rw [Prog.wp_ite]
  split
  · exact shutdown_fits hex h
  rw [Prog.wp_ite]
  split
  · rw [Prog.wp_ite]
    split
    · exact exit_fits hex h hidle
    · exact skip_fits h
  rw [Prog.wp_ite]
  split
  · exact skip_fits h
  rw [Prog.wp_bind, askTarget, Prog.wp_bind, Prog.wp_mem, Prog.wp_bind,
    Prog.wp_modifyMem, Prog.wp_pure, Prog.wp_ite]
  have h₁ : Fits Coherent { w with mem := { w.mem with strategyState :=
      (w.mem.strategy.target w.mem.strategyState history).2 } } :=
    h.memory (h.router.same rfl)
  split
  · exact enter_fits hex h₁ hidle
  · exact holdOrExit_fits hex h₁ hidle

theorem watchMargin_fits {pos : PositionView} {mark : Decimal}
    (h : Fits Coherent w) :
    Prog.wp (watchMargin ex pos mark)
      (fun _ w' => Fits Coherent w' ∧ w'.mem.state = w.mem.state)
      (fun _ w' => Fits Coherent w') w := by
  unfold watchMargin
  split
  · exact ⟨h, rfl⟩
  rw [Prog.wp_bind]
  cases divide _ mark with
  | error e => exact h
  | ok distance =>
    have hlevel : ∀ (w₁ : World (Durable V) (InstrumentRouter S))
        (level : Option Level), Fits Coherent w₁ →
        Fits Coherent { w₁ with mem := { w₁.mem with
          lastMarginLevel := level } } :=
      fun w₁ _ h₁ => h₁.memory (h₁.router.same rfl)
    rw [Prog.wp_ofExcept_ok, Prog.wp_bind, Prog.wp_mem, Prog.wp_bind, wp_clock]
    dsimp only
    split
    · rw [Prog.wp_ite]
      split
      · rw [Prog.wp_bind, wp_emit, Prog.wp_modifyMem]
        exact ⟨hlevel _ _ h.alerted, rfl⟩
      · rw [Prog.wp_modifyMem]
        exact ⟨hlevel _ _ h, rfl⟩
    · rw [Prog.wp_modifyMem]
      exact ⟨hlevel _ _ h, rfl⟩

theorem onFast_fits (hex : Dependable ex) {mark : Decimal}
    {snapshot : AccountSnapshot} (h : Fits Coherent w) :
    Fitting Coherent (onFast ex mark snapshot) w := by
  unfold Fitting onFast
  rw [Prog.wp_bind, Prog.wp_mem, Prog.wp_ite]
  split
  · exact h
  next hst =>
  have hopen : w.mem.state = .opened := not_not.mp hst
  rw [Prog.wp_ite]
  split
  · rw [Prog.wp_bind, wp_alert, wp_setState]
    exact h.alerted.entered (Priced.frozen h.router.priced rfl)
  split
  · exact h
  rw [Prog.wp_bind]
  refine Prog.wp_mono (watchMargin_fits h) (fun _ w₁ h₁ => ?_)
    fun _ _ h₁ => h₁
  have hidle : w₁.mem.state.pending = false := by
    rw [h₁.2, hopen]
    rfl
  rw [Prog.wp_bind]
  cases checkOpen _ mark w.mem.limits with
  | error e => exact h₁.1
  | ok flatten =>
    rw [Prog.wp_ofExcept_ok, Prog.wp_ite]
    split
    · exact exit_fits hex h₁.1 hidle
    rw [Prog.wp_ite]
    split
    · exact exit_fits hex h₁.1 hidle
    · exact h₁.1

/-! ### Events -/

theorem handleOrderUpdate_fits {ev : OrderUpdate} (h : Fits Coherent w) :
    Fitting Coherent (handleOrderUpdate ex ev) w := by
  unfold Fitting handleOrderUpdate
  rw [Prog.wp_bind, Prog.wp_mem, Prog.wp_ite]
  split
  · rw [Prog.wp_bind, wp_updateOrder, Prog.wp_bind, wp_alert, Prog.wp_bind,
      Prog.wp_modifyMem]
    refine Prog.wp_mono (settleState_fits ?_) (fun _ _ h₁ => h₁)
      fun _ _ hf => hf.elim
    refine Fits.memory (P := Coherent)
      (Fits.alerted (h.relabelled (by intro; rfl))) ?_
    show Priced _
    rw [wrote_mem, updated_mem]
    exact h.router.priced
  rw [Prog.wp_bind, Prog.wp_disk]
  split
  · exact h
  rw [Prog.wp_ite]
  split
  · exact h
  · rw [wp_updateOrder]
    exact h.relabelled (by intro; rfl)

/-- A router whose size a fill has just moved: the state does not follow
yet. -/
structure Moved (r : InstrumentRouter S) : Prop where
  priced : Priced r
  waiting : r.state.pending = true →
    r.pendingCid.isSome ∧ r.pendingSince.isSome

/-- The entry price a fill leaves is there if a size is. -/
theorem filled_priced (ev : FillUpdate) (h : Priced r) :
    Priced (filled ev r) := by
  unfold Priced filled at *
  dsimp only
  split
  · split <;> simp_all
  · next hc =>
    simp only [not_or, not_not] at hc
    split
    · simp [hc.2.1]
    · simp [h, hc.1, hc.2.1]

theorem filled_moved (ev : FillUpdate) (h : Coherent r) :
    Moved (filled ev r) := ⟨filled_priced ev h.priced, h.waiting⟩

/-- An average price over nonnegative and positive quantities is there. -/
theorem averagePrice_ok {row : OrderRow} {ev : FillUpdate}
    (hrow : 0 ≤ row.filledQuantity) (hev : 0 < ev.quantity) :
    ∃ avg, averagePrice row ev = .ok avg := by
  unfold averagePrice
  split
  · exact ⟨_, rfl⟩
  split
  · exact ⟨_, rfl⟩
  · exact ⟨_, divide_of_ne_zero (by positivity)⟩

/-- The row of the order takes the fill. -/
theorem recordOurs_fits {row : Option OrderRow} {ev : FillUpdate}
    (h : Fits P w) (hrow : ∀ o, row = some o → 0 ≤ o.filledQuantity)
    (hev : 0 < ev.quantity) :
    Prog.wp (recordOurs ex row ev) (fun _ w' => Fits P w')
      (fun _ _ => False) w := by
  unfold recordOurs
  split
  · exact h
  next o =>
  obtain ⟨avg, havg⟩ := averagePrice_ok (hrow o rfl) hev
  rw [recordFill, havg, Prog.wp_bind, Prog.wp_ofExcept_ok, wp_updateOrder]
  exact h.updated fun _ _ => add_nonneg (hrow o rfl) hev.le

theorem fillFlattened_fits (hex : Dependable ex) {ev : FillUpdate}
    {ours : Bool} (h : Fits Priced w) (hsize : w.mem.size = 0) :
    Fitting Coherent (fillFlattened ex ev ours) w := by
  unfold Fitting fillFlattened
  rw [Prog.wp_bind, Prog.wp_mem]
  dsimp only
  rw [Prog.wp_bind, Prog.wp_modifyMem, Prog.wp_bind]
  refine wp_call_ok (hex.cancelStop _ _) ?_
  -- from here on the fields are settled but for the state
  have htail : ∀ w₁ : World (Durable V) (InstrumentRouter S),
      Fits Coherent w₁ → Fitting Coherent (flattenStrategy >>= fun _ =>
        if ¬ (w.mem.state = .exitPending ∧
            w.mem.pendingCid = some ev.clientOrderId) ∧ ours = false ∧
            w.mem.state ≠ .liquidated then
          alert ex .warn "stop_fired" [("price", Decimal.str ev.price),
            ("quantity", Decimal.str ev.quantity)]
        else pure ()) w₁ := by
    intro w₁ h₁
    unfold Fitting
    rw [Prog.wp_bind]
    refine Prog.wp_mono (flattenStrategy_fits h₁) (fun _ w₂ h₂ => ?_)
      fun _ _ h₂ => h₂
    rw [Prog.wp_ite]
    split
    · exact h₂.alerted
    · exact h₂
  have hcalled : Fits Priced (called
      { w with mem := { w.mem with pendingCid := none, stopTrigger := none } }
      (ex.cancelStop w.mem.instrumentId w.disk.venue).2) := by
    refine Fits.awaited ?_
    exact h.memory h.router
  rw [Prog.wp_ite]
  split
  · next hf =>
    rw [Prog.wp_bind, wp_persist]
    refine htail _ (Fits.persisted ⟨hcalled.router.frozen hf, hcalled.tallies⟩)
  · rw [Prog.wp_bind, wp_setState]
    refine htail _ (hcalled.entered (Priced.coherent hcalled.router nofun
      (fun _ => hsize) rfl))

theorem afterFill_fits (hex : Dependable ex) {sizeBefore : Decimal}
    {ours : Bool} {ev : FillUpdate} (h : Fits Moved w) :
    Fitting Coherent (afterFill ex sizeBefore ours ev) w := by
  have hpriced : Fits Priced w := ⟨h.router.priced, h.tallies⟩
  unfold Fitting afterFill
  rw [Prog.wp_bind, Prog.wp_mem, Prog.wp_ite]
  split
  · next hc =>
    rw [Prog.wp_bind, Prog.wp_modifyMem, Prog.wp_bind, wp_setState]
    refine replaceStop_fits hex (Fits.entered (P := Priced) ?_ ?_)
    · exact h.memory h.router.priced
    · exact Priced.coherent h.router.priced (fun _ => hc.2.2) nofun rfl
  rw [Prog.wp_ite]
  split
  · next hz => exact fillFlattened_fits hex hpriced hz
  next hne =>
  rw [Prog.wp_ite]
  split
  · next hf =>
    rw [Prog.wp_bind, wp_alert]
    exact replaceStop_fits hex
      (Fits.alerted ⟨h.router.priced.frozen hf, h.tallies⟩)
  have hcoherent : w.mem.state ≠ .flat → Fits Coherent w := fun hflat =>
    ⟨⟨h.router.priced, fun _ => hne, fun hf => absurd hf hflat,
      h.router.waiting⟩, h.tallies⟩
  rw [Prog.wp_ite]
  split
  · next hc => exact hcoherent hc.2
  rw [Prog.wp_bind, wp_alert, Prog.wp_ite]
  split
  · rw [Prog.wp_bind, wp_setState]
    exact replaceStop_fits hex (hpriced.alerted.entered
      (Priced.coherent h.router.priced (fun _ => hne) nofun rfl))
  · next hflat => exact (hcoherent hflat).alerted

theorem countFill_fits (hex : Dependable ex) {row : Option OrderRow}
    {ev : FillUpdate} (h : Fits Coherent w)
    (hrow : ∀ o, row = some o → 0 ≤ o.filledQuantity)
    (hev : 0 < ev.quantity) :
    Fitting Coherent (countFill ex row ev) w := by
  unfold Fitting countFill
  rw [Prog.wp_bind, Prog.wp_mem, applyFill, Prog.wp_bind, Prog.wp_bind,
    Prog.wp_modifyMem, wp_persist, Prog.wp_bind]
  have hmoved : Fits Moved { w with mem := filled ev w.mem } :=
    h.memory (filled_moved ev h.router)
  exact Prog.wp_mono (recordOurs_fits hmoved.persisted hrow hev)
    (fun _ w₁ h₁ => afterFill_fits hex h₁) fun _ _ hf => hf.elim

theorem lateFill_fits (hex : Dependable ex) {row : OrderRow} {ev : FillUpdate}
    (h : Fits Coherent w) (hrow : 0 ≤ row.filledQuantity)
    (hev : 0 < ev.quantity) : Fitting Coherent (lateFill ex row ev) w := by
  have hadopt : ∀ w₁ : World (Durable V) (InstrumentRouter S),
      Fits Coherent w₁ → Fitting Coherent (call ex.snapshot >>= fun snap =>
        adoptAndSettle ex snap) w₁ := by
    intro w₁ h₁
    obtain ⟨snap, hsnap, hpriced⟩ := hex.snapshot w₁.disk.venue
    unfold Fitting
    rw [Prog.wp_bind]
    refine wp_call_ok hsnap ?_
    exact adoptAndSettle_fits hex hpriced h₁.awaited
  unfold Fitting lateFill
  rw [Prog.wp_bind, Prog.wp_mem, Prog.wp_bind, wp_alert, Prog.wp_bind,
    wp_updateOrder]
  refine hadopt _ (h.alerted.updated ?_)
  exact fun _ _ => add_nonneg hrow hev.le

theorem handleFill_fits (hex : Dependable ex) {ev : FillUpdate}
    (h : Fits Coherent w) (hev : 0 < ev.quantity) :
    Fitting Coherent (handleFill ex ev) w := by
  unfold Fitting handleFill
  rw [Prog.wp_bind, Prog.wp_mem, Prog.wp_ite]
  split
  · exact h
  rw [Prog.wp_bind, Prog.wp_disk]
  cases hrow : w.disk.db.getOrder ev.clientOrderId with
  | none => exact countFill_fits hex h (by simp) hev
  | some row =>
      have hq := h.tallies.now row (KeyedTable.lookup_mem hrow).1
      dsimp only
      rw [Prog.wp_ite]
      split
      · exact lateFill_fits hex h hq hev
      · refine countFill_fits hex h ?_ hev
        rintro o ⟨⟩
        exact hq

theorem clearHalt_fits (h : Fits Coherent w) :
    Fitting Coherent (clearHalt ex) w := by
  unfold Fitting clearHalt
  rw [Prog.wp_bind, Prog.wp_mem, wp_setState]
  refine h.entered (Priced.coherent h.router.priced ?_ ?_ ?_)
  · dsimp only
    split
    · next hne => exact fun _ => hne
    · nofun
  · dsimp only
    split
    · nofun
    · next hz => exact fun _ => not_not.mp hz
  · dsimp only
    split <;> rfl

end Methods

/-! ## The operations -/

section Operations

open Portfolio

/-- Every router is coherent, and no moment had a negative quantity. -/
structure Coheres (w : World (Durable V) (Portfolio S)) : Prop where
  router : ∀ iid, Coherent (w.mem.router iid)
  tallies : Tallies w

/-- Both outcomes leave every router coherent. -/
abbrev Cohering (m : Act V (Portfolio S) α)
    (w : World (Durable V) (Portfolio S)) : Prop :=
  Prog.wp m (fun _ w' => Coheres w') (fun _ w' => Coheres w') w

variable {w : World (Durable V) (Portfolio S)} {iid : InstrumentId}

theorem Coheres.seen (h : Coheres w) (iid : InstrumentId) :
    Fits Coherent (Polyperps.seen w iid) := ⟨h.router iid, h.tallies⟩

theorem Coheres.putBack (h : Coheres w) (iid : InstrumentId)
    {r : World (Durable V) (InstrumentRouter S)} (hr : Fits Coherent r) :
    Coheres (Polyperps.putBack w iid r) := by
  refine ⟨fun j => ?_, hr.tallies⟩
  show Coherent (if j = iid then r.mem else w.mem.router j)
  split
  · exact hr.router
  · exact h.router j

theorem onRouter_coheres {m : Act V (InstrumentRouter S) α} (h : Coheres w)
    (hm : Fitting Coherent m (seen w iid)) : Cohering (onRouter iid m) w := by
  unfold Cohering onRouter
  rw [Prog.wp_focus]
  exact Prog.wp_mono hm (fun _ _ hr => h.putBack _ hr) fun _ _ hr => h.putBack _ hr

theorem forRouters_coheres {m : InstrumentId → Act V (Portfolio S) Unit}
    (h : Coheres w) (hm : ∀ iid w', Coheres w' → Cohering (m iid) w') :
    Cohering (forRouters m) w := by
  unfold Cohering forRouters
  rw [Prog.wp_bind, Prog.wp_mem]
  exact Prog.wp_forEach_mem Coheres (fun iid _ w' h' => hm iid w' h') h

theorem Coheres.alerted (h : Coheres w) {runId : String} {a : Alert} :
    Coheres (wrote w (w.disk.db.insertAlert runId a)) :=
  ⟨h.router, h.tallies.wrote (h.tallies.now.of_orders rfl)⟩

theorem Coheres.awaited (h : Coheres w) {v : V} : Coheres (called w v) :=
  ⟨h.router, h.tallies.called⟩

/-- What changes no router. -/
theorem Coheres.memory (h : Coheres w) {pf : Portfolio S}
    (hrouter : pf.router = w.mem.router) :
    Coheres { w with mem := pf } :=
  ⟨fun iid => by rw [hrouter]; exact h.router iid, h.tallies⟩

theorem checkFunding_coheres {histories : List (InstrumentId × List Bar)}
    {snapshot : AccountSnapshot} (h : Coheres w) :
    Prog.wp (checkFunding histories snapshot) (fun _ w' => Coheres w')
      (fun _ w' => Coheres w') w := by
  unfold checkFunding
  refine Prog.wp_forEach_mem Coheres (fun ih _ w' h' => ?_) h
  obtain ⟨iid, history⟩ := ih
  rw [Prog.wp_bind, Prog.wp_mem]
  dsimp only
  split
  · next pos rate _ _ =>
    rw [Prog.wp_bind, Prog.wp_modifyMem]
    have h₁ : Coheres { w' with mem := { w'.mem with
        fundingSeen := fun j => if j = iid then some pos.cumulativeFunding
          else w'.mem.fundingSeen j } } := h'.memory rfl
    split
    · exact h₁
    rw [Prog.wp_ite]
    split
    · exact h₁
    split
    · exact h₁
    · rw [wp_emit]
      exact h₁.alerted
  · rw [Prog.wp_modifyMem]
    exact h'.memory rfl

theorem pfShutdown_coheres (hex : Dependable ex) {snapshot : AccountSnapshot}
    {histories : List (InstrumentId × List Bar)} (h : Coheres w) :
    Cohering (Portfolio.shutdown ex snapshot histories) w := by
  have hloop : ∀ w' : World (Durable V) (Portfolio S), Coheres w' →
      Cohering (forRouters fun iid => do
        let pf ← Prog.mem
        let pos := snapshot.position iid
        let mark := shutdownMark (histories.lookup iid) pos
          (pf.router iid).entry
        onRouter iid (InstrumentRouter.shutdown ex mark
          (some ((pos.map PositionView.size).getD 0)))) w' := by
    refine fun w' h' => forRouters_coheres h' fun iid w₁ h₁ => ?_
    unfold Cohering
    rw [Prog.wp_bind, Prog.wp_mem]
    exact onRouter_coheres h₁ (shutdown_fits hex (h₁.seen iid))
  unfold Cohering Portfolio.shutdown
  rw [Prog.wp_bind, Prog.wp_mem]
  dsimp only
  rw [Prog.wp_ite]
  split
  · rw [Prog.wp_bind, wp_emit]
    exact hloop _ h.alerted
  · exact hloop _ h

theorem pfOnBar_coheres (hex : Dependable ex)
    {histories : List (InstrumentId × List Bar)} {kill : KillAction}
    (h : Coheres w) : Cohering (Portfolio.onBar ex histories kill) w := by
  obtain ⟨snap, hsnap, -⟩ := hex.snapshot w.disk.venue
  unfold Cohering Portfolio.onBar
  rw [Prog.wp_bind]
  refine wp_call_ok hsnap ?_
  rw [Prog.wp_ite]
  split
  · exact pfShutdown_coheres hex h.awaited
  rw [Prog.wp_bind]
  refine Prog.wp_mono (checkFunding_coheres h.awaited) (fun _ w₁ h₁ => ?_)
    fun _ _ h₁ => h₁
  refine Prog.wp_forEach_mem Coheres (fun ih _ w' h' => ?_) h₁
  obtain ⟨iid, history⟩ := ih
  rw [Prog.wp_bind, Prog.wp_mem, Prog.wp_ite]
  split
  · exact onRouter_coheres h' (onBar_fits hex (h'.seen iid))
  · exact h'

theorem watchPnl_coheres {snapshot : AccountSnapshot} (h : Coheres w) :
    Cohering (watchPnl snapshot) w := by
  unfold Cohering watchPnl
  rw [Prog.wp_bind, Prog.wp_mem]
  split
  · exact h
  dsimp only
  split
  · rw [Prog.wp_ite]
    split
    · rw [Prog.wp_bind, wp_emit, Prog.wp_modifyMem]
      exact h.alerted.memory rfl
    · rw [Prog.wp_modifyMem]
      exact h.memory rfl
  · rw [Prog.wp_modifyMem]
    exact h.memory rfl

theorem pfOnFast_coheres (hex : Dependable ex)
    {marks : List (InstrumentId × Decimal)} (h : Coheres w) :
    Cohering (Portfolio.onFast ex marks) w := by
  obtain ⟨snap, hsnap, hpriced⟩ := hex.snapshot w.disk.venue
  unfold Cohering Portfolio.onFast
  rw [Prog.wp_bind]
  refine wp_call_ok hsnap ?_
  rw [Prog.wp_bind]
  refine Prog.wp_mono (forRouters_coheres h.awaited fun iid w' h' =>
    onRouter_coheres h' (checkPending_fits hex hpriced (h'.seen iid)))
    (fun _ w₁ h₁ => ?_) fun _ _ h₁ => h₁
  rw [Prog.wp_bind]
  refine Prog.wp_mono (Prog.wp_forEach_mem Coheres (fun im _ w' h' => ?_) h₁)
    (fun _ w₂ h₂ => ?_) fun _ _ h₂ => h₂
  · obtain ⟨iid, mark⟩ := im
    rw [Prog.wp_bind, Prog.wp_mem, Prog.wp_ite]
    split
    · exact onRouter_coheres h' (onFast_fits hex (h'.seen iid))
    · exact h'
  · rw [Prog.wp_bind]
    exact Prog.wp_mono (watchPnl_coheres h₂) (fun _ _ h₃ => h₃)
      fun _ _ h₃ => h₃

theorem guardPosition_coheres {m : Mismatch} {snapshot : AccountSnapshot}
    (h : Coheres w) : Cohering (guardPosition ex m iid snapshot) w := by
  unfold Cohering guardPosition
  rw [Prog.wp_bind, Prog.wp_mem]
  split
  · exact h
  next pos _ =>
  rw [Prog.wp_bind]
  generalize (if iid ∈ w.mem.ids then (w.mem.router iid).limits
    else limitsDefault) = limits
  unfold placeExchangeStop
  rw [Prog.wp_ite]
  split
  · exact h
  rw [Prog.wp_bind, wp_call]
  split
  swap
  · exact h.awaited
  rw [Prog.wp_pure, Prog.wp_ite]
  split
  · rw [Prog.wp_bind, onRouter, Prog.wp_focus, Prog.wp_bind,
      Prog.wp_modifyMem, wp_persist]
    simp only [Prog.wp_bind, wp_mismatchAlert, wp_clock, wp_emit]
    refine Coheres.alerted (Coheres.alerted ?_)
    refine Coheres.putBack h.awaited iid (r := wrote
      { mem := _, disk := _, past := _ } _) (Fits.persisted ?_)
    exact Fits.memory (h.awaited.seen iid)
      (Coherent.same (h.router iid) (by rfl))
  · simp only [Prog.wp_bind, wp_mismatchAlert, wp_clock, wp_emit]
    exact h.awaited.alerted.alerted

theorem respond_coheres {m : Mismatch} {snapshot : AccountSnapshot}
    (h : Coheres w) : Cohering (respond ex m snapshot) w := by
  have hreport : ∀ (w₁ : World (Durable V) (Portfolio S)) level kind extra,
      Coheres w₁ → Cohering (mismatchAlert ex m level kind extra) w₁ :=
    fun w₁ _ _ _ h₁ => h₁.alerted
  unfold Cohering respond
  rw [Prog.wp_bind, Prog.wp_mem]
  split
  · next iid _ _ =>
    rw [Prog.wp_ite]
    split
    · refine onRouter_coheres h ?_
      have hp : Fits Priced (seen w iid) := ⟨(h.router iid).priced, h.tallies⟩
      exact Prog.wp_mono (halt_fits hp)
        (fun _ w₁ h₁ => ⟨h₁.1.router.frozen h₁.2, h₁.1.tallies⟩)
        fun _ _ hf => hf.elim
    · exact hreport _ _ _ _ h
  · rw [Prog.wp_bind, wp_call]
    split
    · exact hreport _ _ _ _ h.awaited
    · exact h.awaited
  · exact guardPosition_coheres h
  · rw [Prog.wp_ite]
    split
    · exact h
    · rw [Prog.wp_bind, wp_call]
      split
      · exact hreport _ _ _ _ h.awaited
      · exact h.awaited
  · exact hreport _ _ _ _ h

theorem reconcile_coheres (hex : Dependable ex) (h : Coheres w) :
    Cohering (reconcile ex) w := by
  obtain ⟨snap, hsnap, -⟩ := hex.snapshot w.disk.venue
  unfold Cohering reconcile
  rw [Prog.wp_bind]
  refine wp_call_ok hsnap ?_
  simp only [Prog.wp_bind, Prog.wp_mem, Prog.wp_disk]
  refine Prog.wp_mono (Prog.wp_forEach_mem Coheres (fun m _ w' h' => ?_)
    h.awaited) (fun _ w₁ h₁ => ?_) fun _ _ h₁ => h₁
  · rw [Prog.wp_catching]
    refine Prog.wp_mono (respond_coheres h') (fun _ _ h₂ => h₂)
      fun e w₂ h₂ => ?_
    rw [Prog.wp_bind, Prog.wp_mem, Prog.wp_ite]
    split
    · exact h₂
    rw [Prog.wp_ite]
    split
    · exact h₂
    · rw [Prog.wp_bind, Prog.wp_modifyMem, wp_mismatchAlert]
      refine Coheres.alerted ?_
      exact h₂.memory rfl
  · exact h₁.memory rfl

/-- The fills an operation is handed add a quantity. -/
def Portfolio.Op.Filling (op : Op) : Prop :=
  ∀ ev, op = .dispatch (.fill ev) → 0 < ev.quantity

theorem perform_coheres (hex : Dependable ex) {op : Op}
    (hop : op.Filling) (h : Coheres w) : Cohering (perform ex op) w := by
  have hreconcile : ∀ w₁ : World (Durable V) (Portfolio S), Coheres w₁ →
      Cohering (reconcile ex >>= fun _ => pure ()) w₁ := by
    intro w₁ h₁
    unfold Cohering
    rw [Prog.wp_bind]
    exact Prog.wp_mono (reconcile_coheres hex h₁) (fun _ _ h₂ => h₂)
      fun _ _ h₂ => h₂
  cases op with
  | onBar histories kill => exact pfOnBar_coheres hex h
  | onFast marks =>
      unfold Cohering perform
      rw [Prog.wp_bind]
      exact Prog.wp_mono (pfOnFast_coheres hex h) (fun _ _ h₁ => h₁)
        fun _ _ h₁ => h₁
  | dispatch ev =>
      cases ev with
      | reconcileNow => exact hreconcile w h
      | fill ev =>
          unfold Cohering perform dispatch
          dsimp only
          rw [Prog.wp_bind, Prog.wp_mem, Prog.wp_ite]
          split
          · exact onRouter_coheres h
              (handleFill_fits hex (h.seen _) (hop ev rfl))
          · exact h
      | order ev =>
          exact forRouters_coheres h fun iid w' h' =>
            onRouter_coheres h' (handleOrderUpdate_fits (h'.seen iid))
  | reconcileNow => exact hreconcile w h

end Operations

/-! ## Recovery -/

section Recovering

open Recovery (frozenRow held)

variable {w w' : World (Durable V) (Recovery S)} {rows : List PositionLocalRow}
  {runId : String}

/-- What touches no order row brings no negative quantity. -/
theorem Tallies.along (h : Tallies w) (halong : World.Along SameTables w w') :
    Tallies w' := by
  induction halong with
  | refl => exact h
  | tail _ hstep ih =>
      cases hstep with
      | memory _ => exact ih
      | commit m d hd => exact ih.commit (ih.now.of_orders hd.orders)

/-- A router that took the venue's position is coherent, its row frozen or
not. -/
theorem taken_coherent (row : Option PositionLocalRow) (tables : Db)
    (iid : InstrumentId) (r : InstrumentRouter S) :
    Coherent (taken snap row tables iid r) := by
  have hpriced : Priced (taken snap row tables iid r) := by
    unfold Priced taken takenFrom
    cases hheld : held snap iid with
    | none => simp
    | some pos => simp [(held_instrument hheld).2]
  by_cases hf : frozenRow row = true
  · refine hpriced.frozen ?_
    rw [taken_state, if_pos hf]
    cases row with
    | none => cases hf
    | some row => exact hf
  · have hst := taken_state snap row tables iid r
    rw [if_neg hf] at hst
    refine hpriced.coherent (fun ho => ?_) (fun ho => ?_) ?_
    · unfold taken takenFrom
      cases hheld : held snap iid with
      | none => rw [hst, hheld] at ho; cases ho
      | some pos => exact (held_instrument hheld).2
    · unfold taken takenFrom
      cases hheld : held snap iid with
      | none => rfl
      | some pos => rw [hst, hheld] at ho; cases ho
    · rw [hst]
      cases held snap iid <;> rfl

/-- How far recovery has come, with the quantities of the orders still to be
looked at. -/
structure Restoring (st : Stage) (w : World (Durable V) (Recovery S)) :
    Prop where
  router : ∀ iid, Coherent (w.mem.pf.router iid)
  tallies : Tallies w
  due : ∀ rest, st = .orders rest → ∀ o ∈ rest, 0 ≤ o.filledQuantity

theorem setRouter_coherent {pf : Portfolio S} {iid : InstrumentId}
    (h : ∀ j, Coherent (pf.router j)) (hr : Coherent r) :
    ∀ j, Coherent ((pf.setRouter iid r).router j) := by
  intro j
  by_cases hj : j = iid
  · rw [hj, Portfolio.setRouter_self]
    exact hr
  · rw [Portfolio.setRouter_of_ne hj]
    exact h j

theorem Restoring.classified {o : OrderRow} {rest : List OrderRow}
    (hi : Restoring (.orders (o :: rest)) w)
    (h : Classified ex snap rows o w w') : Restoring (.orders rest) w' := by
  have ho := hi.due _ rfl o List.mem_cons_self
  have hdue : ∀ rest', Stage.orders rest = .orders rest' → ∀ x ∈ rest',
      0 ≤ x.filledQuantity := by
    rintro rest' ⟨⟩ x hx
    exact hi.due _ rfl x (List.mem_cons_of_mem o hx)
  cases h with
  | done _ => exact ⟨hi.router, hi.tallies, hdue⟩
  | relabelled rep status _ _ _ =>
      exact ⟨hi.router, Tallies.wrote (w := { w with mem := _ }) hi.tallies
        (hi.tallies.now.upserted ho), hdue⟩
  | restored rep st r db _ _ hst hr hdb =>
      -- the router waits again, and for this order
      have hpending : st.pending = true := by
        rw [restoredState] at hst
        split at hst
        · exact (Option.filter_eq_some_iff.mp hst).2
        · cases hst
      have hr' : Coherent r := by
        rw [hr]
        refine ⟨(hi.router o.instrumentId).priced, fun he => ?_, fun he => ?_,
          fun _ => ⟨rfl, rfl⟩⟩
        · rw [show st = .opened from he] at hpending; cases hpending
        · rw [show st = .flat from he] at hpending; cases hpending
      have hdb' : Tallied db := by
        rw [hdb]
        exact hi.tallies.now.of_orders rfl
      exact ⟨setRouter_coherent hi.router hr',
        (Tallies.wrote (w := { w with mem := _ }) hi.tallies hdb').wrote
          (hdb'.upserted ho), hdue⟩

theorem restoring_recovers :
    Recovers ex snap rows runId (Restoring (V := V) (S := S)) Tallies where
  calm := fun hi hc => ⟨by rw [hc.pf]; exact hi.router,
    hi.tallies.along hc.along, hi.due⟩
  turn := by
    intro j rest w w' hi h
    obtain ⟨w₁, now, halong, hdisk, hpast⟩ := h.written
    refine ⟨?_, ?_, nofun⟩
    · rw [h.pf]
      exact setRouter_coherent hi.router (taken_coherent _ _ _ _)
    · have h₁ := hi.tallies.along halong
      obtain ⟨mem, disk, past⟩ := w'
      dsimp only at hdisk hpast
      rw [hdisk, hpast]
      exact h₁.commit (d := { w₁.disk with db := _ }) (h₁.now.of_orders rfl)
  unknown := fun hi => ⟨hi.router, hi.tallies, nofun⟩
  guard := fun hi h => ⟨by rw [h.pf]; exact hi.router,
    hi.tallies.along h.along, nofun⟩
  orders := by
    intro w hi
    refine ⟨hi.router, hi.tallies, ?_⟩
    rintro rest ⟨⟩ o ho
    exact hi.tallies.now o (mem_listOrders.mp ho).1
  classify := fun hi h => hi.classified h
  foreign := fun hi => ⟨hi.router, hi.tallies, nofun⟩
  cancel := fun hi h => ⟨by rw [h.pf]; exact hi.router,
    hi.tallies.along h.along, nofun⟩
  turnRaised := fun hi halong _ => hi.tallies.along halong
  guardRaised := fun hi halong _ _ _ => hi.tallies.along halong
  cancelRaised := fun hi halong _ => hi.tallies.along halong
  raised := fun ht hc => ht.along hc.along

end Recovering

namespace Site

theorem fresh_coherent {runId : String} {iid : InstrumentId}
    {strategy : Strategy S} {strategyState : S}
    {categories : List (InstrumentId × String)} {limits : RiskLimits}
    {exposure : ExposureLimits} :
    Coherent (InstrumentRouter.fresh runId iid strategy strategyState
      categories limits exposure) :=
  ⟨by simp [Priced, InstrumentRouter.fresh], nofun, fun _ => rfl, nofun⟩

/-- A recovery that returns leaves every router coherent, and no recovery
brings a negative quantity. -/
theorem recovering_coheres (ex : Executor V) {runId : String} {d : Durable V} {c : Recovery S}
    (hc : Started runId c) (hd : Tallied d.db) :
    Prog.wp (recover ex)
      (fun _ w' => (∀ iid, Coherent (w'.mem.pf.router iid)) ∧ Tallies w')
      (fun _ w' => Tallies w') ⟨c, d, []⟩ := by
  have hstart : Tallies (⟨c, d, []⟩ : World (Durable V) (Recovery S)) := by
    intro d' hd'
    rw [List.mem_singleton.mp hd']
    exact hd
  refine Prog.wp_mono (recover_rule (w := ⟨c, d, []⟩) (I := Restoring)
    (E := Tallies) rfl hc.pfRunId.symm rfl (fun e _ => hstart.called)
    fun snap _ => ⟨⟨fun iid => ?_, hstart.called, nofun⟩, restoring_recovers⟩)
    (fun _ w' h => ⟨h.router, h.tallies⟩) fun _ _ h => h
  obtain ⟨_, _, _, _, _, hr⟩ := hc.router iid
  show Coherent (c.pf.router iid)
  rw [hr]
  exact fresh_coherent

/-- The fills a site is handed add a quantity. -/
def filling : Site V S → Happening V S → Prop
  | _, .perform op | _, .cut op => op.Filling
  | _, _ => True

/-- What holds between two happenings. -/
structure Coheres (s : Site V S) : Prop where
  router : ∀ pf, s.process = some pf → ∀ iid, Coherent (pf.router iid)
  tallied : Tallied s.disk.db

theorem Step.coheres {runId : String} {s s' : Site V S} {h : Happening V S}
    {ms : List (Durable V)} (hex : Dependable ex)
    (hstep : Step ex runId s h ms s') (hmay : filling s h)
    (hs : Coheres s) : Coheres s' := by
  have hop : ∀ (d : Durable V) (pf : Portfolio S) (op : Portfolio.Op),
      op.Filling → Coheres (⟨d, some pf⟩ : Site V S) →
      Polyperps.Coheres (operating ex d pf op) := by
    intro d pf op hfill hs
    have hw : Polyperps.Coheres (⟨pf, d, []⟩ : World (Durable V) (Portfolio S)) := by
      refine ⟨hs.router pf rfl, fun d' hd' => ?_⟩
      rw [List.mem_singleton.mp hd']
      exact hs.tallied
    exact Prog.wp_state.mp (perform_coheres hex hfill hw)
  cases hstep with
  | @start d c hc =>
      have hrec := recovering_coheres ex hc hs.tallied
      have htallies : Tallies (recovering ex d c).2 :=
        Prog.wp_state.mp (Prog.wp_mono hrec (fun _ _ h => h.2) fun _ _ h => h)
      refine ⟨fun pf hpf => ?_, htallies.now⟩
      unfold recovered at hpf
      split at hpf
      · next hret =>
        cases hpf
        exact (Prog.wp_returned hrec hret).1
      · cases hpf
  | @startCut d d' c ms hc hcut =>
      have htallies : Tallies (recovering ex d c).2 :=
        Prog.wp_state.mp (Prog.wp_mono (recovering_coheres ex hc
          hs.tallied) (fun _ _ h => h.2) fun _ _ h => h)
      exact ⟨nofun, htallies d' (hcut.subset (by simp))⟩
  | @perform d pf op =>
      have h := hop d pf op hmay hs
      refine ⟨?_, h.tallies.now⟩
      rintro pf' ⟨⟩
      exact h.router
  | @cut d d' pf op ms hcut =>
      have h := hop d pf op hmay hs
      exact ⟨nofun, h.tallies d' (hcut.subset (by simp))⟩
  | @clearHalt d pf iid hid =>
      have hw : Polyperps.Coheres
          (⟨pf, d, []⟩ : World (Durable V) (Portfolio S)) := by
        refine ⟨hs.router pf rfl, fun d' hd' => ?_⟩
        rw [List.mem_singleton.mp hd']
        exact hs.tallied
      have h : Polyperps.Coheres (clearing ex d pf iid) :=
        Prog.wp_state.mp (onRouter_coheres hw (clearHalt_fits (hw.seen iid)))
      refine ⟨?_, h.tallies.now⟩
      rintro pf' ⟨⟩
      exact h.router
  | stop => exact ⟨nofun, hs.tallied⟩
  | venue v => exact ⟨hs.router, hs.tallied⟩
  | @strategies d pf states =>
      refine ⟨?_, hs.tallied⟩
      rintro pf' ⟨⟩
      exact fun iid => (hs.router pf rfl iid).same rfl

/-- Whatever submits do, an open router has a size and an entry price, a flat
one neither, and one that waits for an order knows which and since when. -/
theorem routers_coherent {runId : String} (hex : Dependable ex)
    {s₀ s : Site V S} {ds : List (Durable V)} {pf : Portfolio S}
    (hstart : s₀.process = none) (htallied : Tallied s₀.disk.db)
    (hrun : Run ex runId filling s₀ ds s) (hpf : s.process = some pf) :
    ∀ iid,
      ((pf.router iid).state = .opened →
        (pf.router iid).size ≠ 0 ∧ (pf.router iid).entry.isSome) ∧
      ((pf.router iid).state = .flat →
        (pf.router iid).size = 0 ∧ (pf.router iid).entry = none) ∧
      ((pf.router iid).state.pending = true →
        (pf.router iid).pendingCid.isSome ∧
          (pf.router iid).pendingSince.isSome) := by
  have hs : Coheres s := by
    clear hpf
    induction hrun with
    | here => exact ⟨fun pf hpf => (by rw [hstart] at hpf; cases hpf), htallied⟩
    | next _ hmay hstep ih => exact hstep.coheres hex hmay ih
  intro iid
  have h := hs.router pf hpf iid
  refine ⟨fun ho => ⟨h.opened ho, h.priced.mpr (h.opened ho)⟩, fun hf => ?_,
    h.waiting⟩
  refine ⟨h.flat hf, ?_⟩
  have hnone : ¬ (pf.router iid).entry.isSome := fun he =>
    h.priced.mp he (h.flat hf)
  simpa using hnone

theorem resting_dependable : Dependable resting where
  snapshot := fun v => ⟨_, rfl, by simp⟩
  placeStop := fun _ _ _ => rfl
  cancelStop := fun _ _ => rfl
  cancel := fun _ _ => rfl

/-- The process that bought, after a fill of its order. -/
@[irreducible] def filledUp :
    World (Durable (List ClientOrderId)) (Portfolio Unit) :=
  operating resting bought.disk bought.mem
    (.dispatch (.fill ⟨"run-1-1", 1, .buy, 1, 100, 0, 0⟩))

theorem filledUp_step : Step resting "run" ⟨bought.disk, some bought.mem⟩
    (.perform (.dispatch (.fill ⟨"run-1-1", 1, .buy, 1, 100, 0, 0⟩)))
    filledUp.moments ⟨filledUp.disk, some filledUp.mem⟩ := by
  unfold filledUp
  exact .perform

theorem routers_coherent_filledUp :
    ((filledUp.mem.router 1).state = .opened →
      (filledUp.mem.router 1).size ≠ 0 ∧
        (filledUp.mem.router 1).entry.isSome) ∧
    ((filledUp.mem.router 1).state = .flat →
      (filledUp.mem.router 1).size = 0 ∧
        (filledUp.mem.router 1).entry = none) ∧
    ((filledUp.mem.router 1).state.pending = true →
      (filledUp.mem.router 1).pendingCid.isSome ∧
        (filledUp.mem.router 1).pendingSince.isSome) := by
  obtain ⟨_, hrun⟩ : ∃ ds, Run resting "run" filling ⟨noTables, none⟩ ds
      ⟨filledUp.disk, some filledUp.mem⟩ := by
    refine ⟨_, .next (.next (.next .here ?_ firstProcess_step) ?_ bought_step)
      ?_ filledUp_step⟩
    · trivial
    · rintro ev ⟨⟩
    · rintro ev ⟨⟩
      decide
  exact routers_coherent resting_dependable rfl (fun o ho => by cases ho) hrun
    rfl 1

end Site

end Polyperps
