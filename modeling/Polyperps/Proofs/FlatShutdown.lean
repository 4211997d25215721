import Polyperps.Proofs.PaperAccount
import Polyperps.Proofs.Restore
import Polyperps.Proofs.Stranded

/-!
# What a shutdown leaves once its fills are in

On the paper account, with every submit acknowledged. The flattening order is
sized by what the account holds, so the account ends flat; the fill it queues
is added to the router's own size, so the router ends at the difference of the
two. The loop is followed router by router (`Closing`), with the fills it
queues in a list of their own, and the delivery fill by fill (`Delivering`).
-/

namespace Polyperps

open ProgramLogic KeyedTable

/-! ## The account -/

namespace SimExecutor

/-- An account that answers every submit: its open positions are marked, no
failure is injected, and the cost of a fill can be computed. -/
structure Answering (s : SimExecutor) : Prop where
  keys : (s.pos.map Prod.fst).Nodup
  marked : ∀ iid, s.size iid ≠ 0 → (s.marks.lookup iid).isSome
  next : s.failNext = none
  queued : s.failQueue = []
  notional : s.notional ≠ 0

variable {s s' : SimExecutor} {iid : InstrumentId}

/-- What a fill queues. -/
def announced (ev : FillUpdate) : List Event :=
  [.order
    { clientOrderId := ev.clientOrderId, status := .filled
      filledQuantity := ev.quantity, ts := ev.ts },
   .fill ev]

/-- What submitting the order `cid` that flattens an instrument leaves. -/
structure Flattened (s s' : SimExecutor) (iid : InstrumentId)
    (cid : ClientOrderId) (ev : FillUpdate) : Prop where
  answering : Answering s'
  queue : s'.queue = s.queue ++ announced ev
  stops : s'.stops = s.stops
  cid : ev.clientOrderId = cid
  instrument : ev.instrumentId = iid
  delta : ev.delta = -s.size iid
  size : ∀ j, s'.size j = if j = iid then 0 else s.size j

/-- Saving writes none of the fields a trade reads. -/
theorem Flattened.saved {cid : ClientOrderId} {ev : FillUpdate}
    (h : Flattened s s' iid cid ev) : Flattened s (save s').2 iid cid ev := by
  show Flattened s (if s'.persists then _ else s') iid cid ev
  split
  · have ha := h.answering
    exact ⟨⟨ha.keys, ha.marked, ha.next, ha.queued, ha.notional⟩, h.queue,
      h.stops, h.cid, h.instrument, h.delta, h.size⟩
  · exact h

/-- The trade that takes a position to zero, its events queued. -/
theorem flattened_trade {order : OrderRequest} {mark fee : Decimal}
    {p : SimPos} (hs : Answering s) (hp : p.size = s.size order.instrumentId)
    (hdelta : order.side.sign * order.quantity = -s.size order.instrumentId) :
    let ev : FillUpdate :=
      { clientOrderId := order.clientOrderId
        instrumentId := order.instrumentId, side := order.side
        quantity := order.quantity, price := mark, fee, ts := s.now }
    let q := tradePosition id p (order.side.sign * order.quantity) mark
    Flattened s
      { s with
        n := s.n + 1
        cash := q.2.elim (s.cash - fee) fun x => s.cash - fee + x
        pos := assign order.instrumentId q.1
          (assign order.instrumentId (s.posOf order.instrumentId) s.pos)
        queue := s.queue ++ announced ev }
      order.instrumentId order.clientOrderId ev := by
  intro ev q
  have hzero : q.1.size = 0 := by
    rw [(tradePosition_conserves p _ mark).1, hdelta, hp]
    exact add_neg_cancel _
  have hsizes : ∀ iid, (((assign order.instrumentId q.1
      (assign order.instrumentId (s.posOf order.instrumentId)
        s.pos)).lookup iid).getD .zero).size =
        if iid = order.instrumentId then 0 else s.size iid := by
    intro iid
    rw [posOf_assign, posOf_assign]
    split
    · exact hzero
    · rfl
  refine ⟨⟨nodup_put (nodup_put hs.keys), fun iid h => ?_, hs.next, hs.queued,
    hs.notional⟩, rfl, rfl, rfl, rfl, hdelta, hsizes⟩
  refine hs.marked iid fun hflat => h ((hsizes iid).trans ?_)
  rw [hflat]
  split <;> rfl

/-- A reduce-only order for the whole position is acknowledged and fills. -/
theorem submit_flattens (order : OrderRequest) (hs : Answering s)
    (hreduce : order.reduceOnly = true)
    (hheld : s.size order.instrumentId ≠ 0)
    (hside : order.side =
      if 0 < s.size order.instrumentId then .sell else .buy)
    (hquantity : order.quantity = |s.size order.instrumentId|) :
    Prog.wp (submit id order)
      (fun ack s' => ack.status = .accepted ∧ ∃ ev,
        Flattened s s' order.instrumentId order.clientOrderId ev)
      (fun _ _ => False) s := by
  obtain ⟨mark, hmark⟩ := Option.isSome_iff_exists.mp (hs.marked _ hheld)
  have hnext : Prog.wp nextMode (fun mode s' => mode = none ∧ s' = s)
      (fun _ _ => False) s := by
    unfold nextMode
    rw [Prog.wp_bind, Prog.wp_get]
    split
    · next mode rest hq => rw [hs.queued] at hq; cases hq
    · refine ⟨hs.next, ?_⟩
      rw [← hs.next]
  have htakes : refusesReduce order (s.size order.instrumentId) = false := by
    rw [refusesReduce, hreduce, Bool.true_and, decide_eq_false_iff_not, not_or]
    refine ⟨hheld, ?_⟩
    rw [hside]
    split
    · next h => exact fun hiff => absurd (hiff.mp h) (by simp)
    · next h => exact fun hiff => h (hiff.mpr rfl)
  have hfill : fillQuantity id order (s.size order.instrumentId) =
      order.quantity := by
    rw [fillQuantity, if_pos hreduce, hquantity, id_eq, min_self]
  have hdelta : order.side.sign * order.quantity =
      -s.size order.instrumentId := by
    rw [hside, hquantity]
    split
    · next h => rw [abs_of_pos h, Side.sign, neg_one_mul]
    · next h => rw [abs_of_nonpos (not_lt.mp h), Side.sign, one_mul]
  obtain ⟨fee, hfee⟩ : ∃ c, fillCost (id (order.quantity * mark))
      s.notional s.spread s.fee s.impact id = .ok c :=
    fillCost_ok hs.notional _ _ _
  rw [submit, Prog.wp_bind]
  refine Prog.wp_mono hnext (fun mode s₁ h₁ => ?_) (fun _ _ hf => hf.elim)
  obtain ⟨rfl, rfl⟩ := h₁
  unfold submitMode
  rw [Prog.wp_bind, Prog.wp_get]
  dsimp only
  rw [Prog.wp_bind, ensurePos, Prog.wp_modify, htakes, if_neg (by simp), hfill]
  unfold execute fill fillAt markOf
  simp only [Prog.wp_bind, Prog.wp_modify, Prog.wp_get, hmark, Prog.wp_pure,
    hfee, Prog.wp_ofExcept_ok, wp_save, applyPosition]
  refine ⟨rfl, _, (flattened_trade hs ?_ hdelta).saved⟩
  exact congrArg SimPos.size posOf_assign_self

theorem save_stops (s : SimExecutor) : (save s).2.stops = s.stops := by
  show (if s.persists then _ else s : SimExecutor).stops = s.stops
  split <;> rfl

/-- A stop taken away. -/
theorem cancelStop_spec (iid : InstrumentId) (s : SimExecutor) :
    ∃ s', cancelStop iid s = (.ok (), s') ∧ (∀ j, s'.size j = s.size j) ∧
      ∀ j, s'.stops.lookup j = if j = iid then none else s.stops.lookup j := by
  refine ⟨(save { s with stops := remove iid s.stops }).2, rfl, fun j => ?_,
    fun j => ?_⟩
  · exact (save_untraded { s with stops := remove iid s.stops }).1.size j
  · rw [save_stops]
    exact lookup_erase

/-- A stop put in place. -/
theorem placeStop_spec (iid : InstrumentId) (trigger : Decimal)
    (s : SimExecutor) :
    ∃ s', placeStop iid trigger s = (.ok (), s') ∧
      (∀ j, s'.size j = s.size j) ∧ ∀ j, s'.stops.lookup j =
        if j = iid then some trigger else s.stops.lookup j := by
  refine ⟨(save { s with stops := assign iid trigger s.stops }).2, rfl,
    fun j => ?_, fun j => ?_⟩
  · exact (save_untraded { s with stops := assign iid trigger s.stops }).1.size j
  · rw [save_stops]
    exact lookup_put

/-- A snapshot shows the sizes the account holds. -/
theorem views_size {t : List (InstrumentId × SimPos)}
    (hkeys : (t.map Prod.fst).Nodup)
    (f : InstrumentId × SimPos → Decimal) (iid : InstrumentId) :
    ((((t.filter fun ip => ip.2.size ≠ 0).map fun ip =>
      view id ip.1 ip.2 (f ip)).find? fun p => p.instrumentId = iid).map
        PositionView.size).getD 0 = ((t.lookup iid).getD .zero).size := by
  induction t with
  | nil => rfl
  | cons ip rest ih =>
      obtain ⟨k, p⟩ := ip
      rw [List.map_cons, List.nodup_cons] at hkeys
      have hrest := ih hkeys.2
      rw [List.lookup_cons]
      by_cases hk : iid = k
      · subst hk
        have hnone : rest.lookup iid = none := by
          by_contra h
          exact hkeys.1 (mem_keys_iff.mpr h)
        rw [hnone] at hrest
        rw [beq_self_eq_true]
        by_cases h0 : p.size = 0
        · rw [List.filter_cons_of_neg (by simp [h0]), hrest]
          exact h0.symm
        · rw [List.filter_cons_of_pos (by simp [h0]), List.map_cons,
            List.find?_cons_of_pos (by simp [view])]
          rfl
      · rw [beq_eq_false_iff_ne.mpr hk, ← hrest]
        by_cases h0 : p.size = 0
        · rw [List.filter_cons_of_neg (by simp [h0])]
        · rw [List.filter_cons_of_pos (by simp [h0]), List.map_cons,
            List.find?_cons_of_neg (by simp [view, Ne.symm hk])]

theorem snapshot_size (hs : Answering s) :
    ∃ snap, snapshot id s = (.ok snap, s) ∧ ∀ iid, snap.size iid = s.size iid :=
  ⟨_, snapshot_marked hs.keys hs.marked, fun iid => views_size hs.keys _ iid⟩

end SimExecutor

/-! ## A router's turn -/

open InstrumentRouter
open SimExecutor (Answering Flattened)

/-- The paper account, in exact arithmetic. -/
abbrev paper : Executor SimExecutor := SimExecutor.executor id

/-- An order whose fill can be counted: its row has no price yet, and the
order was not given up. -/
def Fillable (cid : ClientOrderId) (db : Db) : Prop :=
  ∃ row, db.getOrder cid = some row ∧ row.avgPrice = none ∧
    row.status.gaveUp = false

section Router

variable {S : Type} {w : World (Durable SimExecutor) (InstrumentRouter S)}

/-- Relabelling an order keeps the fillable orders fillable. -/
theorem Fillable.updated {V : Type} {ex : Executor V}
    {w : World (Durable V) (InstrumentRouter S)} {cid cid' : ClientOrderId}
    (h : Fillable cid w.disk.db) {skip : Bool} {changes : OrderRow → OrderRow}
    (hc : ∀ o, (changes o).clientOrderId = o.clientOrderId)
    (hprice : ∀ o, (changes o).avgPrice = o.avgPrice)
    (hstatus : ∀ o, (changes o).status.gaveUp = false) :
    Fillable cid (((updatedDb ex cid' skip changes w.disk).map
      (wrote w)).getD w).disk.db := by
  obtain ⟨row, hrow, havg, hgave⟩ := h
  by_cases hcid : cid = cid'
  · subst hcid
    refine ⟨_, by rw [updated_getOrder hc, hrow]; rfl, ?_⟩
    unfold updatedRow
    split
    · exact ⟨havg, hgave⟩
    · exact ⟨(hprice row).trans havg, hstatus row⟩
  · exact ⟨row, by rw [updated_getOrder_ne hc hcid]; exact hrow, havg, hgave⟩

/-- The row of an order just announced is fillable, and no other row is
touched. -/
theorem announced_fillable {V : Type} (ex : Executor V) (intent : Intent)
    (target : Option Decimal) (verdicts : List (String × String))
    (w : World (Durable V) (InstrumentRouter S)) :
    Fillable (nextCid w.mem) (announcedWorld ex intent target verdicts
      w).disk.db ∧
    ∀ cid, Fillable cid w.disk.db → Fillable cid (announcedWorld ex intent
      target verdicts w).disk.db := by
  have hself : Fillable (nextCid w.mem) (announcedWorld ex intent target
      verdicts w).disk.db := by
    have h := Db.getOrder_upsertOrder_self
      (decidedDb w.disk.db (intentRow ex intent target verdicts w))
      (w.mem.orderRow (nextCid w.mem) intent (ex.clock w.disk.venue))
    refine ⟨_, h, ?_⟩
    cases (decidedDb w.disk.db (intentRow ex intent target verdicts
      w)).getOrder _ <;> exact ⟨rfl, rfl⟩
  refine ⟨hself, fun cid h => ?_⟩
  by_cases hcid : cid = nextCid w.mem
  · rw [hcid]; exact hself
  · obtain ⟨row, hrow, hrest⟩ := h
    refine ⟨row, ?_, hrest⟩
    rw [← hrow]
    exact Db.getOrder_upsertOrder_ne hcid

/-- What sending the flattening order leaves, the state aside. -/
structure Sent (w w' : World (Durable SimExecutor) (InstrumentRouter S)) :
    Prop where
  instrumentId : w'.mem.instrumentId = w.mem.instrumentId
  size : w'.mem.size = w.mem.size
  kept : ∀ cid, Fillable cid w.disk.db → Fillable cid w'.disk.db
  fillable : Fillable (nextCid w.mem) w'.disk.db
  venue : ∃ ev, Flattened w.disk.venue w'.disk.venue w.mem.instrumentId
    (nextCid w.mem) ev

theorem send_flattens (hv : Answering w.disk.venue)
    (hfree : ∀ x ∈ w.disk.db.decisions,
      x.key ≠ (w.mem.runId, w.mem.instrumentId, w.mem.dseq + 1))
    {held : Decimal} (hheld : w.disk.venue.size w.mem.instrumentId = held)
    (h0 : held ≠ 0) {intent : Intent} {target : Option Decimal}
    (hreq : w.mem.orderRequest (nextCid w.mem) intent
        (paper.clock w.disk.venue) =
      Stranding.flattening w.mem held (paper.clock w.disk.venue)) :
    Prog.wp (send paper intent target []) (fun _ w' => Sent w w')
      (fun _ _ => False) w := by
  unfold send
  rw [Prog.wp_bind, Prog.wp_mem, Prog.wp_bind]
  rcases announce_cases paper intent target [] w with hok | ⟨-, x, hx, hkey⟩
  swap
  · exact absurd hkey (hfree x hx)
  rw [Prog.wp_of_ok hok, hreq]
  have hfill := announced_fillable paper intent target [] w
  have hsubmit := SimExecutor.submit_flattens (s := w.disk.venue)
    (Stranding.flattening w.mem held (paper.clock w.disk.venue)) hv rfl
    (by rw [← hheld] at h0; exact h0) (by rw [← hheld]; rfl)
    (by rw [← hheld]; rfl)
  have hcid : (Stranding.flattening w.mem held
      (paper.clock w.disk.venue)).clientOrderId = nextCid w.mem := rfl
  have hiid : (Stranding.flattening w.mem held
      (paper.clock w.disk.venue)).instrumentId = w.mem.instrumentId := rfl
  generalize Stranding.flattening w.mem held (paper.clock w.disk.venue) =
    req at *
  rw [hcid, hiid] at hsubmit
  rw [hcid, Prog.wp_bind, Prog.wp_attempt]
  unfold submitWithRecovery submitAttempt
  simp only [Prog.wp_catching, Prog.wp_bind, Prog.wp_mem, wp_callSubmit,
    Prog.wp_pure]
  have hvenue : (announcedWorld paper intent target [] w).disk.venue =
      w.disk.venue := rfl
  rw [hvenue]
  unfold Prog.wp at hsubmit
  cases hs : paper.submit req w.disk.venue with
  | mk answer v =>
  rw [show SimExecutor.submit id req w.disk.venue = (answer, v) from hs] at hsubmit
  cases answer with
  | error e => exact hsubmit.elim
  | ok ack =>
      obtain ⟨hack, ev, hev⟩ := hsubmit
      dsimp only
      unfold acknowledge
      dsimp only
      rw [hack]
      dsimp only
      rw [wp_updateOrder]
      refine ⟨by rw [updated_mem]; rfl, by rw [updated_mem]; rfl,
        fun cid h => ?_, ?_, ev, by rw [updated_venue]; exact hev⟩
      · refine Fillable.updated ?_ (fun _ => rfl) (fun _ => rfl) (fun _ => rfl)
        exact hfill.2 cid h
      · refine Fillable.updated ?_ (fun _ => rfl) (fun _ => rfl) (fun _ => rfl)
        exact hfill.1

/-- A router that a shutdown sends an order for. -/
def Sends (r : InstrumentRouter S) (held : Decimal) : Prop :=
  held ≠ 0 ∧ (r.state = .opened ∨ r.state = .halted ∨ r.state = .flat)

/-- What a router's turn of the shutdown leaves. -/
structure Shut (w w' : World (Durable SimExecutor) (InstrumentRouter S)) :
    Prop where
  instrumentId : w'.mem.instrumentId = w.mem.instrumentId
  size : w'.mem.size = w.mem.size
  frozen : w'.mem.state.frozen = true
  halted : w.mem.state ≠ .liquidated → w'.mem.state = .halted
  kept : ∀ cid, Fillable cid w.disk.db → Fillable cid w'.disk.db
  sent : Sends w.mem (w.disk.venue.size w.mem.instrumentId) →
    Fillable (nextCid w.mem) w'.disk.db ∧
      ∃ ev, Flattened w.disk.venue w'.disk.venue w.mem.instrumentId
        (nextCid w.mem) ev
  idle : ¬ Sends w.mem (w.disk.venue.size w.mem.instrumentId) →
    w'.disk.venue = w.disk.venue

theorem shutdown_shuts (mark held : Decimal) (hv : Answering w.disk.venue)
    (hfree : ∀ x ∈ w.disk.db.decisions,
      x.key ≠ (w.mem.runId, w.mem.instrumentId, w.mem.dseq + 1))
    (hheld : w.disk.venue.size w.mem.instrumentId = held) :
    Prog.wp (InstrumentRouter.shutdown paper mark (some held))
      (fun _ w' => Shut w w') (fun _ _ => False) w := by
  unfold InstrumentRouter.shutdown
  rw [Prog.wp_bind, Prog.wp_mem]
  simp only [Option.getD_some, Prog.wp_ite]
  split
  · next hdone =>
      refine ⟨rfl, rfl, ?_, fun hl => ?_, fun _ h => h, fun hs => ?_,
        fun _ => rfl⟩
      · rcases hdone with hl | ⟨hl, -⟩ <;> rw [hl] <;> rfl
      · rcases hdone with hl' | ⟨hl', -⟩
        · exact absurd hl' hl
        · exact hl'
      · rcases hdone with hl | ⟨-, hz⟩
        · rcases hs.2 with h | h | h <;> rw [hl] at h <;> cases h
        · exact absurd (hheld.trans hz) hs.1
  next hgoes =>
  have hend : ∀ {Q : World (Durable SimExecutor) (InstrumentRouter S) → Prop}
      {w₁ : World (Durable SimExecutor) (InstrumentRouter S)},
      (∀ d : Db, (∀ cid, d.getOrder cid = w₁.disk.db.getOrder cid) →
        ∀ past, Q ⟨{ w₁.mem with state := .halted },
          { w₁.disk with db := d }, past⟩) →
      Prog.wp (if w.mem.state = .halted then setState paper .halted
          else alert paper .critical "kill_switch"
            [("action", "shutdown")] >>= fun _ => setState paper .halted)
        (fun _ => Q) (fun _ _ => False) w₁ := by
    intro Q w₁ hQ
    rw [Prog.wp_ite]
    split
    · exact hQ _ (by intro; rfl) _
    · exact hQ _ (by intro; rfl) _
  have hkept : ∀ {d d' : Db} {cid : ClientOrderId},
      (∀ cid, d'.getOrder cid = d.getOrder cid) → Fillable cid d →
      Fillable cid d' := by
    rintro d d' cid h ⟨row, hrow, hrest⟩
    exact ⟨row, (h cid).trans hrow, hrest⟩
  split
  · next hsends =>
      rw [Prog.wp_bind, InstrumentRouter.exit, Prog.wp_bind, Prog.wp_mem]
      refine Prog.wp_mono (send_flattens hv hfree hheld hsends.1 rfl)
        (fun _ w₁ h₁ => hend fun d hd past => ?_) (fun _ _ hf => hf.elim)
      obtain ⟨ev, hev⟩ := h₁.venue
      exact ⟨h₁.instrumentId, h₁.size, rfl, fun _ => rfl,
        fun cid h => hkept hd (h₁.kept cid h),
        fun _ => ⟨hkept hd h₁.fillable, ev, hev⟩,
        fun hno => absurd ⟨by rw [hheld]; exact hsends.1, hsends.2⟩ hno⟩
  · next hsends =>
      refine Prog.wp_ite.mp (hend fun d hd past => ?_)
      exact ⟨rfl, rfl, rfl, fun _ => rfl, fun cid h => hkept hd h,
        fun hs => absurd ⟨by rw [← hheld]; exact hs.1, hs.2⟩ hsends,
        fun _ => rfl⟩

/-! ## A fill of a frozen router -/

/-- What a frozen router answers a fill with: no stop where it is flat. -/
structure Answered (w w' : World (Durable SimExecutor) (InstrumentRouter S)) :
    Prop where
  instrumentId : w'.mem.instrumentId = w.mem.instrumentId
  state : w'.mem.state = w.mem.state
  size : w'.mem.size = w.mem.size
  orders : ∀ cid, w'.disk.db.getOrder cid = w.disk.db.getOrder cid
  held : ∀ j, w'.disk.venue.size j = w.disk.venue.size j
  unguarded : w.mem.size = 0 →
    w'.disk.venue.stops.lookup w.mem.instrumentId = none
  stops : ∀ j, j ≠ w.mem.instrumentId →
    w'.disk.venue.stops.lookup j = w.disk.venue.stops.lookup j

theorem fillFlattened_guards {ev : FillUpdate} {ours : Bool}
    (hf : w.mem.state.frozen = true) :
    Prog.wp (fillFlattened paper ev ours) (fun _ w' => Answered w w')
      (fun _ _ => False) w := by
  obtain ⟨v, hv, hheld, hstops⟩ := SimExecutor.cancelStop_spec
    w.mem.instrumentId w.disk.venue
  have hv' : paper.cancelStop w.mem.instrumentId w.disk.venue =
      (.ok (), v) := hv
  unfold fillFlattened
  simp only [Prog.wp_bind, Prog.wp_mem, Prog.wp_modifyMem, wp_call, hv', hf,
    if_true, wp_persist, flattenStrategy, Prog.wp_ite, wp_alert, Prog.wp_pure]
  have hnone : v.stops.lookup w.mem.instrumentId = none := by
    rw [hstops, if_pos rfl]
  have hother : ∀ j, j ≠ w.mem.instrumentId →
      v.stops.lookup j = w.disk.venue.stops.lookup j :=
    fun j hj => by rw [hstops, if_neg hj]
  split
  · exact ⟨rfl, rfl, rfl, fun _ => rfl, hheld, fun _ => hnone, hother⟩
  · exact ⟨rfl, rfl, rfl, fun _ => rfl, hheld, fun _ => hnone, hother⟩

theorem replaceStop_guards (h0 : w.mem.size ≠ 0) :
    Prog.wp (replaceStop paper) (fun _ w' => Answered w w')
      (fun _ _ => False) w := by
  unfold replaceStop
  rw [Prog.wp_bind, Prog.wp_mem]
  cases w.mem.entry with
  | none =>
      exact ⟨rfl, rfl, rfl, fun _ => rfl, fun _ => rfl,
        fun h => absurd h h0, fun _ _ => rfl⟩
  | some entry =>
      dsimp only
      rw [if_neg h0]
      obtain ⟨v, hv, hheld, hstops⟩ := SimExecutor.placeStop_spec
        w.mem.instrumentId
        (stopPrice (decide (0 < w.mem.size)) entry w.mem.limits) w.disk.venue
      have hv' : paper.placeStop w.mem.instrumentId
          (stopPrice (decide (0 < w.mem.size)) entry w.mem.limits)
          w.disk.venue = (.ok (), v) := hv
      simp only [Prog.wp_catching, Prog.wp_bind, wp_call, hv',
        Prog.wp_modifyMem, wp_persist, wp_alert]
      exact ⟨rfl, rfl, rfl, fun _ => rfl, hheld, fun h => absurd h h0,
        fun j hj => (hstops j).trans (if_neg hj)⟩

theorem afterFill_guards {ev : FillUpdate} {sizeBefore : Decimal} {ours : Bool}
    (hf : w.mem.state.frozen = true) :
    Prog.wp (afterFill paper sizeBefore ours ev)
      (fun _ w' => Answered w w') (fun _ _ => False) w := by
  have hentry : w.mem.state ≠ .entryPending := by
    intro h
    rw [h] at hf
    cases hf
  unfold afterFill
  rw [Prog.wp_bind, Prog.wp_mem, if_neg fun h => hentry h.1]
  by_cases h0 : w.mem.size = 0
  · rw [if_pos h0]
    exact fillFlattened_guards hf
  · rw [if_neg h0, if_pos hf, Prog.wp_bind, wp_alert]
    refine Prog.wp_mono (replaceStop_guards h0) (fun _ w' h => ?_)
      (fun _ _ hf => hf)
    exact ⟨h.instrumentId, h.state, h.size, h.orders, h.held, h.unguarded,
      h.stops⟩

/-- What a fill leaves of a frozen router: the fill on its size, and no stop
where that is flat. -/
structure Booked (ev : FillUpdate)
    (w w' : World (Durable SimExecutor) (InstrumentRouter S)) : Prop where
  instrumentId : w'.mem.instrumentId = w.mem.instrumentId
  state : w'.mem.state = w.mem.state
  size : w'.mem.size = w.mem.size + ev.delta
  held : ∀ j, w'.disk.venue.size j = w.disk.venue.size j
  unguarded : w.mem.size + ev.delta = 0 →
    w'.disk.venue.stops.lookup w.mem.instrumentId = none
  stops : ∀ j, j ≠ w.mem.instrumentId →
    w'.disk.venue.stops.lookup j = w.disk.venue.stops.lookup j
  kept : ∀ cid, cid ≠ ev.clientOrderId → Fillable cid w.disk.db →
    Fillable cid w'.disk.db

theorem handleFill_books {ev : FillUpdate} (hf : w.mem.state.frozen = true)
    (hi : ev.instrumentId = w.mem.instrumentId)
    (hfill : Fillable ev.clientOrderId w.disk.db) :
    Prog.wp (handleFill paper ev) (fun _ w' => Booked ev w w')
      (fun _ _ => False) w := by
  obtain ⟨row, hrow, havg, hgave⟩ := hfill
  have hcid := Db.getOrder_cid hrow
  unfold handleFill
  rw [Prog.wp_bind, Prog.wp_mem, if_neg (not_not.mpr hi), Prog.wp_bind,
    Prog.wp_disk, hrow]
  dsimp only
  rw [hgave, if_neg (by simp)]
  unfold countFill applyFill recordOurs recordFill averagePrice
  simp only [Prog.wp_bind, Prog.wp_mem, Prog.wp_modifyMem, wp_persist, havg,
    Prog.wp_ofExcept_ok, wp_updateOrder]
  refine Prog.wp_mono (afterFill_guards (by rw [updated_mem]; exact hf))
    (fun _ w' h => ?_) (fun _ _ hf => hf)
  obtain ⟨hid, hstate, hsize, horders, hheld, hflat, hstops⟩ := h
  simp only [updated_mem, updated_venue, wrote_mem, wrote_venue] at *
  refine ⟨hid, hstate, hsize, hheld, hflat, hstops, fun cid hne hc => ?_⟩
  obtain ⟨row', hrow', hrest⟩ := hc
  refine ⟨row', ?_, hrest⟩
  rw [horders]
  refine (updated_getOrder_ne ?_ (by rw [hcid]; exact hne)).trans hrow'
  exact fun _ => rfl

end Router

/-! ## The loop -/

section Portfolio

variable {S : Type} {w₀ w w' : World (Durable SimExecutor) (Portfolio S)}
  {iid : InstrumentId} {rest : List InstrumentId} {fills : List FillUpdate}

/-- What the shutdown leaves of a router it has come to, with the fills it has
queued. -/
structure Parted (w₀ : World (Durable SimExecutor) (Portfolio S))
    (fills : List FillUpdate) (w : World (Durable SimExecutor) (Portfolio S))
    (iid : InstrumentId) : Prop where
  instrumentId : (w.mem.router iid).instrumentId = iid
  size : (w.mem.router iid).size = (w₀.mem.router iid).size
  frozen : (w.mem.router iid).state.frozen = true
  halted : (w₀.mem.router iid).state ≠ .liquidated →
    (w.mem.router iid).state = .halted
  sent : Sends (w₀.mem.router iid) (w₀.disk.venue.size iid) →
    w.disk.venue.size iid = 0 ∧ ∃ ev ∈ fills, ev.instrumentId = iid
  idle : ¬ Sends (w₀.mem.router iid) (w₀.disk.venue.size iid) →
    w.disk.venue.size iid = w₀.disk.venue.size iid ∧
      ∀ ev ∈ fills, ev.instrumentId ≠ iid

/-- A fill the shutdown has queued and nobody has seen. -/
structure Unseen (w₀ w : World (Durable SimExecutor) (Portfolio S))
    (ev : FillUpdate) : Prop where
  known : ev.instrumentId ∈ w₀.mem.ids
  cid : ev.clientOrderId = nextCid (w₀.mem.router ev.instrumentId)
  delta : ev.delta = -w₀.disk.venue.size ev.instrumentId
  fillable : Fillable ev.clientOrderId w.disk.db

/-- Where the loop of a shutdown stands. -/
structure Closing (w₀ : World (Durable SimExecutor) (Portfolio S))
    (rest : List InstrumentId) (fills : List FillUpdate)
    (w : World (Durable SimExecutor) (Portfolio S)) : Prop where
  ids : w.mem.ids = w₀.mem.ids
  nodup : rest.Nodup
  todo : ∀ j ∈ rest, j ∈ w₀.mem.ids ∧
    w.mem.router j = w₀.mem.router j ∧
    w.disk.venue.size j = w₀.disk.venue.size j
  free : ∀ j ∈ rest, (w₀.mem.router j).instrumentId = j ∧
    ∀ x ∈ w.disk.db.decisions,
      x.key ≠ ((w₀.mem.router j).runId, j, (w₀.mem.router j).dseq + 1)
  answering : Answering w.disk.venue
  stops : w.disk.venue.stops = w₀.disk.venue.stops
  queue : w.disk.venue.queue =
    w₀.disk.venue.queue ++ fills.flatMap SimExecutor.announced
  distinct : (fills.map FillUpdate.instrumentId).Nodup
  unseen : ∀ ev ∈ fills, Unseen w₀ w ev ∧ ev.instrumentId ∉ rest
  done : ∀ j ∈ w₀.mem.ids, j ∉ rest → Parted w₀ fills w j

/-- What the shutdown left of another router stays. -/
theorem Parted.other {fills' : List FillUpdate} {j : InstrumentId}
    {r : World (Durable SimExecutor) (InstrumentRouter S)}
    (h : Parted w₀ fills w j) (hj : j ≠ iid)
    (hsize : r.disk.venue.size j = w.disk.venue.size j)
    (hsub : ∀ ev ∈ fills, ev ∈ fills')
    (hnew : ∀ ev ∈ fills', ev ∈ fills ∨ ev.instrumentId = iid) :
    Parted w₀ fills' (putBack w iid r) j := by
  have hr : (putBack w iid r).mem.router j = w.mem.router j :=
    Portfolio.setRouter_of_ne hj
  have hv : (putBack w iid r).disk.venue.size j = w.disk.venue.size j := hsize
  refine ⟨?_, ?_, ?_, ?_, fun hs => ?_, fun hs => ?_⟩
  · rw [hr]; exact h.instrumentId
  · rw [hr]; exact h.size
  · rw [hr]; exact h.frozen
  · rw [hr]; exact h.halted
  · obtain ⟨h0, ev, hev, hi⟩ := h.sent hs
    exact ⟨hv.trans h0, ev, hsub ev hev, hi⟩
  · obtain ⟨h0, hno⟩ := h.idle hs
    refine ⟨hv.trans h0, fun ev hev hi => ?_⟩
    rcases hnew ev hev with hev | hev
    · exact hno ev hev hi
    · exact hj (hi.symm.trans hev)

/-- The loop goes on with what one router's turn leaves. -/
theorem Closing.next (h : Closing w₀ (iid :: rest) fills w)
    {r : World (Durable SimExecutor) (InstrumentRouter S)}
    (hr : Shut (seen w iid) r)
    (hdecisions : ∀ x ∈ r.disk.db.decisions,
      x ∈ w.disk.db.decisions ∨ x.instrumentId = iid) :
    ∃ fills, Closing w₀ rest fills (putBack w iid r) := by
  obtain ⟨hnotin, hnodup⟩ := List.nodup_cons.mp h.nodup
  obtain ⟨hid, hrouter, hsize⟩ := h.todo iid (by simp)
  obtain ⟨hiid, -⟩ := h.free iid (by simp)
  have hseen : (seen w iid).mem = w₀.mem.router iid := hrouter
  have hne : ∀ {j}, j ∈ rest → j ≠ iid := fun hj heq => hnotin (heq ▸ hj)
  have hself : (putBack w iid r).mem.router iid = r.mem :=
    Portfolio.setRouter_self
  -- the parts that do not depend on whether an order was sent
  have hrest : ∀ fills', (∀ j, j ≠ iid →
        r.disk.venue.size j = w.disk.venue.size j) →
      (∀ ev ∈ fills, ev ∈ fills') →
      (∀ ev ∈ fills', ev ∈ fills ∨ ev.instrumentId = iid) →
      Answering r.disk.venue → r.disk.venue.stops = w.disk.venue.stops →
      r.disk.venue.queue = w₀.disk.venue.queue ++
        fills'.flatMap SimExecutor.announced →
      (fills'.map FillUpdate.instrumentId).Nodup →
      (∀ ev ∈ fills', ev.instrumentId = iid →
        Unseen w₀ (putBack w iid r) ev) →
      Parted w₀ fills' (putBack w iid r) iid →
      Closing w₀ rest fills' (putBack w iid r) := by
    intro fills' hsizes hsub hnew hans hstops hqueue hdistinct hown hparted
    refine ⟨h.ids, hnodup, fun j hj => ?_, fun j hj => ?_, hans,
      hstops.trans h.stops, hqueue, hdistinct, fun ev hev => ?_,
      fun j hj hn => ?_⟩
    · obtain ⟨hj', hrj, hsj⟩ := h.todo j (by simp [hj])
      exact ⟨hj', (Portfolio.setRouter_of_ne (hne hj)).trans hrj,
        (hsizes j (hne hj)).trans hsj⟩
    · obtain ⟨hj', hold⟩ := h.free j (by simp [hj])
      refine ⟨hj', fun x hx hkey => ?_⟩
      rcases hdecisions x hx with hx | hx
      · exact hold x hx hkey
      · exact hne hj ((congrArg (·.2.1) hkey).symm.trans hx)
    · rcases hnew ev hev with hold | hi
      · obtain ⟨hu, hn⟩ := h.unseen ev hold
        exact ⟨⟨hu.known, hu.cid, hu.delta, hr.kept _ hu.fillable⟩,
          fun hin => hn (by simp [hin])⟩
      · exact ⟨hown ev hev hi, by rw [hi]; exact hnotin⟩
    · by_cases hji : j = iid
      · rw [hji]; exact hparted
      · exact (h.done j hj (by simp [hji, hn])).other hji (hsizes j hji) hsub
          hnew
  have hkeep : ∀ fills' : List FillUpdate, (Sends (w₀.mem.router iid)
        (w₀.disk.venue.size iid) → r.disk.venue.size iid = 0 ∧
          ∃ ev ∈ fills', ev.instrumentId = iid) →
      (¬ Sends (w₀.mem.router iid) (w₀.disk.venue.size iid) →
        r.disk.venue.size iid = w₀.disk.venue.size iid ∧
          ∀ ev ∈ fills', ev.instrumentId ≠ iid) →
      Parted w₀ fills' (putBack w iid r) iid := by
    intro fills' hsent hidle
    refine ⟨?_, ?_, ?_, ?_, hsent, hidle⟩
    · rw [hself, hr.instrumentId, hseen, hiid]
    · rw [hself, hr.size, hseen]
    · rw [hself]; exact hr.frozen
    · rw [hself, ← hseen]; exact hr.halted
  have hno : ∀ ev ∈ fills, ev.instrumentId ≠ iid :=
    fun ev hev heq => (h.unseen ev hev).2 (by simp [heq])
  have hsent := hr.sent
  have hidle := hr.idle
  rw [hseen, hiid, show (seen w iid).disk.venue.size iid =
    w₀.disk.venue.size iid from hsize] at hsent hidle
  by_cases hs : Sends (w₀.mem.router iid) (w₀.disk.venue.size iid)
  · obtain ⟨hfill, ev, hev⟩ := hsent hs
    have hzero : r.disk.venue.size iid = 0 := by
      rw [hev.size, if_pos rfl]
    refine ⟨fills ++ [ev], hrest _ (fun j hj => ?_) (fun e he => by simp [he])
      (fun e he => ?_) hev.answering hev.stops ?_ ?_ (fun e he hi => ?_)
      (hkeep _ (fun _ => ⟨hzero, ev, by simp, hev.instrument⟩)
        fun hn => absurd hs hn)⟩
    · rw [hev.size, if_neg hj]
      rfl
    · rcases List.mem_append.mp he with he | he
      · exact Or.inl he
      · rw [List.mem_singleton.mp he]
        exact Or.inr hev.instrument
    · rw [hev.queue, List.flatMap_append, ← List.append_assoc, ← h.queue]
      simp
    · rw [List.map_append, List.nodup_append]
      refine ⟨h.distinct, by simp, fun a ha b hb => ?_⟩
      obtain ⟨e, he, rfl⟩ := List.mem_map.mp ha
      rw [show b = iid by simpa [hev.instrument] using hb]
      exact hno e he
    · rcases List.mem_append.mp he with he | he
      · exact absurd hi (hno e he)
      · rw [List.mem_singleton.mp he]
        refine ⟨by rw [hev.instrument]; exact hid,
          by rw [hev.instrument, hev.cid], ?_, ?_⟩
        · rw [hev.instrument, hev.delta]
          exact congrArg Neg.neg hsize
        · rw [hev.cid]; exact hfill
  · have hv : r.disk.venue = w.disk.venue := hidle hs
    refine ⟨fills, hrest fills (fun j _ => by rw [hv]) (fun _ he => he)
      (fun _ he => Or.inl he) (by rw [hv]; exact h.answering) (by rw [hv])
      (by rw [hv]; exact h.queue) h.distinct
      (fun e he hi => absurd hi (hno e he))
      (hkeep _ (fun hs' => absurd hs' hs)
        fun _ => ⟨by rw [hv]; exact hsize, hno⟩)⟩

theorem Closing.turn (h : Closing w₀ (iid :: rest) fills w)
    {snapshot : AccountSnapshot}
    (hsnapshot : snapshot.size iid = w₀.disk.venue.size iid)
    (histories : List (InstrumentId × List Bar)) :
    Prog.wp (shutdownTurn paper snapshot histories iid)
      (fun _ w' => ∃ fills, Closing w₀ rest fills w') (fun _ _ => False) w := by
  obtain ⟨-, hrouter, hsize⟩ := h.todo iid (by simp)
  obtain ⟨hiid, hfree⟩ := h.free iid (by simp)
  have hseen : (seen w iid).mem = w₀.mem.router iid := hrouter
  unfold shutdownTurn
  rw [Prog.wp_bind, Prog.wp_mem, Portfolio.onRouter, Prog.wp_focus]
  obtain ⟨g, hmoves⟩ := shutdown_any paper (seen w iid)
    (Portfolio.shutdownMark (histories.lookup iid) (snapshot.position iid)
      (w.mem.router iid).entry) (some (snapshot.size iid))
  have hshuts := shutdown_shuts (w := seen w iid)
    (Portfolio.shutdownMark (histories.lookup iid) (snapshot.position iid)
      (w.mem.router iid).entry) (snapshot.size iid) h.answering
    (by rw [hseen, hiid]; exact hfree)
    (by rw [hseen, hiid, hsnapshot]; exact hsize)
  refine Prog.wp_mono (Prog.wp_and hshuts hmoves.wp) (fun _ r hr => ?_)
    (fun _ _ hf => hf.1)
  have hdec := Moves.decisions_own hr.2
  rw [hseen, hiid] at hdec
  exact h.next hr.1 hdec

/-! ## The delivery -/

/-- Only rows of orders differ, and a fillable one is fillable. -/
structure Noted {V μ : Type} (w w' : World (Durable V) μ) : Prop where
  mem : w'.mem = w.mem
  venue : w'.disk.venue = w.disk.venue
  kept : ∀ cid, Fillable cid w.disk.db → Fillable cid w'.disk.db

/-- That an order is filled is noted on its row. -/
theorem handleOrderUpdate_filled {V : Type} {ex : Executor V}
    {w : World (Durable V) (InstrumentRouter S)} {ev : OrderUpdate}
    (hev : ev.status = .filled) :
    Prog.wp (handleOrderUpdate ex ev) (fun _ w' => Noted w w')
      (fun _ _ => False) w := by
  unfold handleOrderUpdate
  rw [Prog.wp_bind, Prog.wp_mem, if_neg (by rw [hev]; rintro ⟨-, h⟩; cases h),
    Prog.wp_bind, Prog.wp_disk]
  cases w.disk.db.getOrder ev.clientOrderId with
  | none => exact ⟨rfl, rfl, fun _ h => h⟩
  | some row =>
      dsimp only
      rw [Prog.wp_ite]
      split
      · exact ⟨rfl, rfl, fun _ h => h⟩
      · rw [wp_updateOrder]
        refine ⟨updated_mem, updated_venue, fun cid h => ?_⟩
        refine Fillable.updated h (fun _ => rfl) (fun _ => rfl) fun _ => ?_
        rw [hev]
        rfl

theorem dispatch_filled {V : Type} {ex : Executor V}
    {w : World (Durable V) (Portfolio S)} {ev : OrderUpdate}
    (hev : ev.status = .filled) :
    Prog.wp (Portfolio.dispatch ex (.order ev)) (fun _ w' => Noted w w')
      (fun _ _ => False) w := by
  show Prog.wp (Portfolio.forRouters _) _ _ w
  unfold Portfolio.forRouters
  rw [Prog.wp_bind, Prog.wp_mem]
  refine Prog.wp_forEach_mem (Noted w) (fun j _ w₁ h₁ => ?_)
    ⟨rfl, rfl, fun _ h => h⟩
  rw [Portfolio.onRouter, Prog.wp_focus]
  refine Prog.wp_mono (handleOrderUpdate_filled hev) (fun _ w₂ h₂ => ?_)
    (fun _ _ hf => hf)
  refine ⟨?_, h₂.venue.trans h₁.venue, fun cid h => h₂.kept cid (h₁.kept cid h)⟩
  dsimp only
  rw [h₂.mem, ← h₁.mem]
  exact congrArg World.mem (putBack_seen : putBack w₁ j (seen w₁ j) = w₁)

/-- Where the delivery stands: the fills in `past` were handled, those in
`left` were not. -/
structure Delivering (w₁ : World (Durable SimExecutor) (Portfolio S))
    (past left : List FillUpdate)
    (w : World (Durable SimExecutor) (Portfolio S)) : Prop where
  ids : w.mem.ids = w₁.mem.ids
  instrumentId : ∀ j,
    (w.mem.router j).instrumentId = (w₁.mem.router j).instrumentId
  state : ∀ j, (w.mem.router j).state = (w₁.mem.router j).state
  held : ∀ j, w.disk.venue.size j = w₁.disk.venue.size j
  fillable : ∀ ev ∈ left, Fillable ev.clientOrderId w.disk.db
  still : ∀ j, (∀ ev ∈ past, ev.instrumentId ≠ j) →
    (w.mem.router j).size = (w₁.mem.router j).size ∧
      w.disk.venue.stops.lookup j = w₁.disk.venue.stops.lookup j
  done : ∀ ev ∈ past, (w.mem.router ev.instrumentId).size =
      (w₁.mem.router ev.instrumentId).size + ev.delta ∧
    ((w₁.mem.router ev.instrumentId).size + ev.delta = 0 →
      w.disk.venue.stops.lookup ev.instrumentId = none)

variable {w₁ : World (Durable SimExecutor) (Portfolio S)}
  {past left : List FillUpdate} {ev : FillUpdate}

/-- A fill that may be handled next: its router is frozen and has handled none
before, and no other fill waits under its id. -/
structure Next (w₁ : World (Durable SimExecutor) (Portfolio S))
    (past left : List FillUpdate) (ev : FillUpdate) : Prop where
  known : ev.instrumentId ∈ w₁.mem.ids
  instrumentId : (w₁.mem.router ev.instrumentId).instrumentId = ev.instrumentId
  frozen : (w₁.mem.router ev.instrumentId).state.frozen = true
  first : ∀ e ∈ past, e.instrumentId ≠ ev.instrumentId
  alone : ∀ e ∈ left, e.clientOrderId ≠ ev.clientOrderId

theorem Delivering.fill (h : Delivering w₁ past (ev :: left) w)
    (hev : Next w₁ past left ev) :
    Prog.wp (Portfolio.dispatch paper (.fill ev))
      (fun _ w' => Delivering w₁ (past ++ [ev]) left w')
      (fun _ _ => False) w := by
  show Prog.wp (Prog.mem >>= fun pf => _) _ _ w
  rw [Prog.wp_bind, Prog.wp_mem, h.ids, if_pos hev.known, Portfolio.onRouter,
    Prog.wp_focus]
  have hi : ev.instrumentId = (seen w ev.instrumentId).mem.instrumentId :=
    ((h.instrumentId _).trans hev.instrumentId).symm
  have hfrozen : (seen w ev.instrumentId).mem.state.frozen = true := by
    rw [show (seen w ev.instrumentId).mem.state =
      (w₁.mem.router ev.instrumentId).state from h.state _]
    exact hev.frozen
  refine Prog.wp_mono (handleFill_books (w := seen w ev.instrumentId) hfrozen hi
    (h.fillable ev (by simp))) (fun _ r hr => ?_) (fun _ _ hf => hf)
  show Delivering w₁ (past ++ [ev]) left (putBack w ev.instrumentId r)
  have hself : (putBack w ev.instrumentId r).mem.router ev.instrumentId =
      r.mem := Portfolio.setRouter_self
  have hother : ∀ j, j ≠ ev.instrumentId →
      (putBack w ev.instrumentId r).mem.router j = w.mem.router j :=
    fun j hj => Portfolio.setRouter_of_ne hj
  have hbefore := h.still ev.instrumentId hev.first
  have hsize : (seen w ev.instrumentId).mem.size =
      (w₁.mem.router ev.instrumentId).size := hbefore.1
  refine ⟨h.ids, fun j => ?_, fun j => ?_, fun j => (hr.held j).trans (h.held j),
    fun e he => ?_, fun j hj => ?_, fun e he => ?_⟩
  · by_cases hji : j = ev.instrumentId
    · rw [hji, hself, hr.instrumentId]
      exact h.instrumentId _
    · rw [hother j hji]
      exact h.instrumentId j
  · by_cases hji : j = ev.instrumentId
    · rw [hji, hself, hr.state]
      exact h.state _
    · rw [hother j hji]
      exact h.state j
  · exact hr.kept _ (hev.alone e he) (h.fillable e (by simp [he]))
  · have hji : j ≠ ev.instrumentId := fun heq => hj ev (by simp) heq.symm
    rw [hother j hji]
    obtain ⟨hs, hstop⟩ := h.still j fun e he => hj e (by simp [he])
    exact ⟨hs, (hr.stops j (by rw [← hi]; exact hji)).trans hstop⟩
  · rcases List.mem_append.mp he with he | he
    · have hne := hev.first e he
      rw [hother _ hne]
      obtain ⟨hs, hstop⟩ := h.done e he
      refine ⟨hs, fun h0 => ?_⟩
      exact (hr.stops _ (by rw [← hi]; exact hne)).trans (hstop h0)
    · rw [List.mem_singleton.mp he, hself, hr.size, hsize]
      refine ⟨rfl, fun h0 => ?_⟩
      have hflat := hr.unguarded (by rw [hsize]; exact h0)
      rw [← hi] at hflat
      exact hflat

theorem Delivering.noted (h : Delivering w₁ past left w) (hn : Noted w w') :
    Delivering w₁ past left w' := by
  obtain ⟨hmem, hv, hk⟩ := hn
  exact ⟨by rw [hmem]; exact h.ids, by rw [hmem]; exact h.instrumentId,
    by rw [hmem]; exact h.state, by rw [hv]; exact h.held,
    fun ev hev => hk _ (h.fillable ev hev), by rw [hmem, hv]; exact h.still,
    by rw [hmem, hv]; exact h.done⟩

/-- The events of the fills, delivered in order. -/
theorem Delivering.run (h : Delivering w₁ past left w)
    (hnext : ∀ l ev r, left = l ++ ev :: r → Next w₁ (past ++ l) r ev) :
    Prog.wp (Prog.forEach (left.flatMap SimExecutor.announced)
        (Portfolio.dispatch paper))
      (fun _ w' => Delivering w₁ (past ++ left) [] w')
      (fun _ _ => False) w := by
  induction left generalizing past w with
  | nil => simpa [Prog.forEach] using h
  | cons ev left ih =>
      rw [List.flatMap_cons, SimExecutor.announced, List.cons_append,
        List.cons_append, List.nil_append, Prog.forEach, Prog.forEach,
        Prog.wp_bind]
      refine Prog.wp_mono (dispatch_filled rfl) (fun _ w₂ h₂ => ?_)
        (fun _ _ hf => hf)
      rw [Prog.wp_bind]
      have hev := hnext [] ev left rfl
      rw [List.append_nil] at hev
      refine Prog.wp_mono ((h.noted h₂).fill hev) (fun _ w₃ h₃ => ?_)
        (fun _ _ hf => hf)
      have hrun := ih h₃ fun l e r hl => by
        have he := hnext (ev :: l) e r (by rw [hl]; rfl)
        rwa [List.append_assoc]
      rwa [List.append_assoc] at hrun

/-! ## The shutdown and its fills -/

/-- A shutdown bar, and then the events it queued. -/
def closeOut (histories : List (InstrumentId × List Bar)) :
    Act SimExecutor (Portfolio S) Unit := do
  let before ← Prog.disk fun d => d.venue.queue.length
  Portfolio.onBar paper histories .shutdown
  let events ← Prog.disk fun d => d.venue.queue.drop before
  Prog.forEach events (Portfolio.dispatch paper)

/-- Nothing is held on either side, nothing guards it, and the router is
halted. -/
structure FlatOnBothSides (iid : InstrumentId)
    (w : World (Durable SimExecutor) (Portfolio S)) : Prop where
  venue : w.disk.venue.size iid = 0
  router : (w.mem.router iid).size = 0
  stop : w.disk.venue.stops.lookup iid = none
  halted : (w.mem.router iid).state = .halted

theorem onBar_closes (hw : Deciding w) (hv : Answering w.disk.venue)
    (histories : List (InstrumentId × List Bar)) :
    Prog.wp (Portfolio.onBar paper histories .shutdown)
      (fun _ w' => ∃ fills, Closing w [] fills w') (fun _ _ => False) w := by
  obtain ⟨snapshot, hsnapshot, hsizes⟩ := SimExecutor.snapshot_size hv
  have hstart : ∀ w₁ : World (Durable SimExecutor) (Portfolio S),
      w₁.mem = w.mem → w₁.disk.venue = w.disk.venue →
      w₁.disk.db.decisions = w.disk.db.decisions →
      Closing w w.mem.ids [] w₁ := by
    intro w₁ hmem hvenue hdec
    refine ⟨by rw [hmem], hw.ids, fun j hj => ⟨hj, by rw [hmem], by rw [hvenue]⟩,
      fun j hj => ⟨hw.router j hj, by rw [hdec]; exact hw.free j hj⟩,
      by rw [hvenue]; exact hv, by rw [hvenue], by rw [hvenue]; simp, by simp,
      by simp, fun j hj hn => absurd hj hn⟩
  have hloop : ∀ {w₁ : World (Durable SimExecutor) (Portfolio S)},
      Closing w w.mem.ids [] w₁ →
      Prog.wp (Prog.forEach w.mem.ids (shutdownTurn paper snapshot histories))
        (fun _ w' => ∃ fills, Closing w [] fills w') (fun _ _ => False) w₁ :=
    fun h => Prog.wp_forEach (fun rest w' => ∃ fills, Closing w rest fills w')
      (fun j rest w₂ h₂ => by
        obtain ⟨fills, h₂⟩ := h₂
        exact h₂.turn (hsizes j) histories) ⟨[], h⟩
  have hcall : call (μ := Portfolio S) paper.snapshot w =
      (.ok snapshot, called w w.disk.venue) := by
    simp only [call, Prog.commit, called]
    rw [show paper.snapshot w.disk.venue = (.ok snapshot, w.disk.venue) from
      hsnapshot]
  rw [Portfolio.onBar, Prog.wp_bind, Prog.wp_of_ok hcall, if_pos rfl,
    Portfolio.shutdown, Prog.wp_bind, Prog.wp_mem]
  dsimp only
  split
  · exact hloop (hstart (wrote (called w _) _) (by rfl) (by rfl) (by rfl))
  · exact hloop (hstart (called w _) rfl rfl rfl)

theorem closeOut_delivers (hw : Deciding w)
    (hrun : ∀ j ∈ w.mem.ids, (w.mem.router j).runId = w.mem.runId)
    (hv : Answering w.disk.venue)
    (histories : List (InstrumentId × List Bar)) :
    Prog.wp (closeOut histories)
      (fun _ w' => ∃ fills w₁, Closing w [] fills w₁ ∧
        Delivering w₁ fills [] w') (fun _ _ => False) w := by
  unfold closeOut
  rw [Prog.wp_bind, Prog.wp_disk, Prog.wp_bind]
  refine Prog.wp_mono (onBar_closes hw hv histories) (fun _ w₁ h₁ => ?_)
    (fun _ _ hf => hf)
  obtain ⟨fills, h⟩ := h₁
  rw [Prog.wp_bind, Prog.wp_disk, h.queue, List.drop_left]
  have hstart : Delivering w₁ [] fills w₁ :=
    ⟨rfl, fun _ => rfl, fun _ => rfl, fun _ => rfl,
      fun ev hev => (h.unseen ev hev).1.fillable, fun _ _ => ⟨rfl, rfl⟩,
      by simp⟩
  refine Prog.wp_mono (hstart.run fun l ev r hl => ?_)
    (fun _ w' h' => ⟨fills, w₁, h, h'⟩) (fun _ _ hf => hf)
  have hev : ev ∈ fills := by rw [hl]; simp
  have hu := (h.unseen ev hev).1
  have hparted := h.done _ hu.known nofun
  have hdistinct := h.distinct
  rw [hl, List.map_append, List.map_cons, List.nodup_append,
    List.nodup_cons] at hdistinct
  obtain ⟨-, ⟨hnotin, -⟩, happart⟩ := hdistinct
  refine ⟨by rw [h.ids]; exact hu.known, hparted.instrumentId, hparted.frozen,
    fun e he => ?_, fun e he heq => ?_⟩
  · exact happart _ (List.mem_map_of_mem he) _ (by simp)
  · -- two orders of one run under one id are of one instrument
    have hue := (h.unseen e (by rw [hl]; simp [he])).1
    rw [hu.cid, hue.cid, nextCid, nextCid, hrun _ hu.known, hrun _ hue.known,
      hw.router _ hu.known, hw.router _ hue.known] at heq
    exact hnotin (List.mem_map.mpr ⟨e, he, (clientOrderId_inj heq).1⟩)

/-- **When a shutdown ends flat on both sides.** On an account that answers,
for an open, flat or halted router of any local size: once the fills of the
shutdown are in, just when the local size was what the venue held, and where
that was nothing no stop was left there. -/
theorem shutdown_flattens_iff (hw : Deciding w)
    (hrun : ∀ j ∈ w.mem.ids, (w.mem.router j).runId = w.mem.runId)
    (hv : Answering w.disk.venue)
    (histories : List (InstrumentId × List Bar)) (hid : iid ∈ w.mem.ids)
    (hstate : (w.mem.router iid).state = .opened ∨
      (w.mem.router iid).state = .flat ∨ (w.mem.router iid).state = .halted) :
    FlatOnBothSides iid (closeOut histories w).2 ↔
      (w.mem.router iid).size = w.disk.venue.size iid ∧
        (w.disk.venue.size iid ≠ 0 ∨
          w.disk.venue.stops.lookup iid = none) := by
  obtain ⟨fills, w₁, hclosing, hdelivered⟩ := Prog.wp_state.mp
    (Prog.wp_mono (closeOut_delivers hw hrun hv histories) (fun _ _ h => h)
      (fun _ _ hf => hf.elim))
  generalize (closeOut histories w).2 = w' at hdelivered
  have hparted := hclosing.done iid hid nofun
  have hhalted : (w'.mem.router iid).state = .halted := by
    rw [hdelivered.state]
    refine hparted.halted fun hl => ?_
    rw [hl] at hstate
    rcases hstate with h | h | h <;> cases h
  by_cases h0 : w.disk.venue.size iid = 0
  · have hidle : ¬ Sends (w.mem.router iid) (w.disk.venue.size iid) :=
      fun hs => hs.1 h0
    obtain ⟨hheld, hno⟩ := hparted.idle hidle
    obtain ⟨hsize, hstop⟩ := hdelivered.still iid hno
    rw [hparted.size] at hsize
    rw [hclosing.stops] at hstop
    constructor
    · rintro ⟨-, hflat, hnone, -⟩
      exact ⟨by rw [← hsize, hflat, h0], Or.inr (hstop ▸ hnone)⟩
    · rintro ⟨heq, hne | hnone⟩
      · exact absurd h0 hne
      · exact ⟨by rw [hdelivered.held, hheld, h0], by rw [hsize, heq, h0],
          hstop.trans hnone, hhalted⟩
  · have hsends : Sends (w.mem.router iid) (w.disk.venue.size iid) := by
      refine ⟨h0, ?_⟩
      rcases hstate with h | h | h
      · exact Or.inl h
      · exact Or.inr (Or.inr h)
      · exact Or.inr (Or.inl h)
    obtain ⟨hheld, ev, hev, rfl⟩ := hparted.sent hsends
    obtain ⟨hsize, hstop⟩ := hdelivered.done ev hev
    rw [hparted.size, (hclosing.unseen ev hev).1.delta, ← sub_eq_add_neg]
      at hsize hstop
    constructor
    · rintro ⟨-, hflat, -, -⟩
      rw [hsize] at hflat
      exact ⟨sub_eq_zero.mp hflat, Or.inl h0⟩
    · rintro ⟨heq, -⟩
      have hzero := sub_eq_zero.mpr heq
      exact ⟨by rw [hdelivered.held, hheld], hsize.trans hzero, hstop hzero,
        hhalted⟩

end Portfolio

section Disagreement

/-- An account that holds two of instrument 1, and its router with a state and
a size of its own. -/
def holdsTwo (state : State) (size : Decimal) :
    World (Durable SimExecutor) (Portfolio Unit) where
  mem :=
    { runId := "run", startEquity := none, ids := [1]
      router := fun iid =>
        { InstrumentRouter.fresh "run" iid Site.idleStrategy () []
            limitsDefault exposureDefault with
          state, size, entry := if size = 0 then none else some 100 }
      lastPnlLevel := none, fundingSeen := fun _ => none
      refusedReported := [] }
  disk :=
    { db := Db.empty
      venue :=
        { SimExecutor.new 1000 0 0 0 100 0 false with
          marks := [(1, 100)], pos := [(1, ⟨2, 100, 0⟩)] }
      submitted := [], refusedDecisions := [] }
  past := []

theorem holdsTwo_deciding (state : State) (size : Decimal) :
    Deciding (holdsTwo state size) where
  ids := List.nodup_singleton 1
  router := fun _ _ => rfl
  free := by simp [holdsTwo, Db.empty]

theorem holdsTwo_answering (state : State) (size : Decimal) :
    Answering (holdsTwo state size).disk.venue where
  keys := List.nodup_singleton 1
  marked := by
    intro iid h
    by_cases hi : iid = 1
    · subst hi
      rfl
    · refine absurd ?_ h
      simp [SimExecutor.size, SimExecutor.posOf, holdsTwo, List.lookup_cons,
        beq_eq_false_iff_ne.mpr hi, SimPos.zero]
  next := rfl
  queued := rfl
  notional := by
    show (100 : Decimal) ≠ 0
    decide +kernel

/-- A position the router never saw is closed on the account and appears on
the router the other way round. -/
theorem shutdown_inverts :
    ¬ FlatOnBothSides 1 (closeOut [] (holdsTwo .flat 0)).2 := by
  intro h
  have hsize : ((closeOut [] (holdsTwo .flat 0)).2.mem.router 1).size = -2 := by
    decide +kernel
  rw [h.router] at hsize
  revert hsize
  decide +kernel

theorem shutdown_flattens_held :
    FlatOnBothSides 1 (closeOut [] (holdsTwo .opened 2)).2 :=
  (shutdown_flattens_iff (holdsTwo_deciding .opened 2) (fun _ _ => rfl)
    (holdsTwo_answering .opened 2) [] (by simp [holdsTwo])
    (Or.inl rfl)).mpr ⟨by decide +kernel, Or.inl (by decide +kernel)⟩

end Disagreement

end Polyperps
