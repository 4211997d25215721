import Polyperps.Proofs.HaltSurvives

/-!
# A retried order executes at most once

A submit that times out may have executed a part of its order, left it
resting, or done nothing. `_landed` tells these apart from a snapshot alone: by
the orders that rest, and by any movement of the position in the order's
direction. Over a venue whose snapshots show everything executed and resting,
that is exact, so the second submit is of an order the first did nothing for.
-/

namespace Polyperps

open ProgramLogic InstrumentRouter

variable {V S : Type} {ex : Executor V} {pos : V → InstrumentId → Decimal}
  {rests : V → ClientOrderId → Prop}

/-- What a submit at `v` executes of its order, in the order's direction. -/
def executed (ex : Executor V) (pos : V → InstrumentId → Decimal)
    (req : OrderRequest) (v : V) : Decimal :=
  req.side.sign *
    (pos (ex.submit req v).2 req.instrumentId - pos v req.instrumentId)

/-- A submit that executed nothing and left nothing resting. -/
def Untouched (ex : Executor V) (pos : V → InstrumentId → Decimal)
    (rests : V → ClientOrderId → Prop) (req : OrderRequest) (v : V) : Prop :=
  executed ex pos req v = 0 ∧ ¬ rests (ex.submit req v).2 req.clientOrderId

/-- A venue that executes some part of an order and may let it rest, then
acknowledges, rejects or times out; whose snapshots show both, and are the
only other thing that happens to it. -/
structure OpenVenue (ex : Executor V) (pos : V → InstrumentId → Decimal)
    (rests : V → ClientOrderId → Prop) : Prop where
  executes : ∀ req v, 0 ≤ req.quantity →
    0 ≤ executed ex pos req v ∧ executed ex pos req v ≤ req.quantity
  answers : ∀ req v e, (ex.submit req v).1 = .error e → e.isTimeout = true
  shows : ∀ v, ∃ snap, (ex.snapshot v).1 = .ok snap ∧
    (∀ iid, snap.size iid = pos v iid) ∧
    ∀ cid, cid ∈ snap.openOrders ↔ rests v cid
  still : ∀ v, pos (ex.snapshot v).2 = pos v ∧
    rests (ex.snapshot v).2 = rests v

theorem Side.sign_mul_self (side : Side) : side.sign * side.sign = 1 := by
  cases side <;> norm_num [Side.sign]

theorem pos_submit (ex : Executor V) (pos : V → InstrumentId → Decimal)
    (req : OrderRequest) (v : V) :
    pos (ex.submit req v).2 req.instrumentId =
      pos v req.instrumentId + req.side.sign * executed ex pos req v := by
  rw [executed, ← mul_assoc, Side.sign_mul_self]
  ring

/-- An order not seen to land did nothing, where the size before is the
venue's. -/
theorem OpenVenue.untouched (hv : OpenVenue ex pos rests) {req : OrderRequest}
    {v : V} {snap : AccountSnapshot} (hq : 0 ≤ req.quantity)
    (hsnap : (ex.snapshot (ex.submit req v).2).1 = .ok snap)
    (hl : ¬ landed req snap (pos v req.instrumentId) = true) :
    Untouched ex pos rests req v := by
  obtain ⟨snap', hok, hsize, hopen⟩ := hv.shows (ex.submit req v).2
  obtain rfl : snap' = snap := Except.ok.inj (hok.symm.trans hsnap)
  have hmoved : snap'.size req.instrumentId - pos v req.instrumentId =
      req.side.sign * executed ex pos req v := by
    rw [hsize, pos_submit ex pos]
    ring
  rw [landed] at hl
  split at hl
  · exact absurd rfl hl
  next hrest =>
  refine ⟨?_, fun hr => hrest ((hopen _).mpr hr)⟩
  have hpart := (hv.executes req v hq).1
  simp only [hmoved] at hl
  cases hside : req.side with
  | buy =>
      simp only [hside, Side.sign, one_mul, decide_eq_true_eq, not_lt] at hl
      exact le_antisymm hl hpart
  | sell =>
      simp only [hside, Side.sign, neg_mul, one_mul, decide_eq_true_eq,
        not_lt, Left.nonneg_neg_iff] at hl
      exact le_antisymm hl hpart

/-- The world one attempt leaves: one more submit, and a venue that shows what
that submit did. -/
structure Tried (ex : Executor V) (pos : V → InstrumentId → Decimal)
    (req : OrderRequest) (w w' : World (Durable V) (InstrumentRouter S)) :
    Prop where
  size : w'.mem.size = w.mem.size
  orders : w'.disk.db.orders = w.disk.db.orders
  submitted : ∃ s, s.request = req ∧
    w'.disk.submitted = w.disk.submitted ++ [s]
  pos : pos w'.disk.venue = pos (ex.submit req w.disk.venue).2

variable {w : World (Durable V) (InstrumentRouter S)} {req : OrderRequest}

theorem submitAttempt_spec (hv : OpenVenue ex pos rests)
    (hq : 0 ≤ req.quantity) {attempt : ℕ} {sizeBefore : Decimal}
    (hsize : sizeBefore = pos w.disk.venue req.instrumentId)
    {otherwise : Act V (InstrumentRouter S) (Option OrderAck)}
    {Q : Option OrderAck → World (Durable V) (InstrumentRouter S) → Prop}
    (hdone : ∀ ack w', Tried ex pos req w w' → Q (some ack) w')
    (hother : ∀ w', Tried ex pos req w w' →
      w'.disk.venue = (ex.snapshot (ex.submit req w.disk.venue).2).2 →
      Untouched ex pos rests req w.disk.venue →
      Prog.wp otherwise Q (fun _ _ => False) w') :
    Prog.wp (submitAttempt ex attempt req sizeBefore otherwise) Q
      (fun _ _ => False) w := by
  subst hsize
  unfold submitAttempt
  rw [Prog.wp_catching, Prog.wp_bind, Prog.wp_mem, Prog.wp_bind, wp_callSubmit]
  cases hsub : ex.submit req w.disk.venue with
  | mk answer v₁ =>
  have hv₁ : (ex.submit req w.disk.venue).2 = v₁ := by rw [hsub]
  cases answer with
  | ok ack =>
      exact hdone ack _ ⟨rfl, rfl, ⟨_, rfl, rfl⟩, by rw [hv₁]; rfl⟩
  | error e =>
  have ht := hv.answers req w.disk.venue e (by rw [hsub])
  obtain ⟨snap, hsnap, -, -⟩ := hv.shows v₁
  have htried : Tried ex pos req w
      (called (sent w req w.mem.dseq v₁) (ex.snapshot v₁).2) :=
    ⟨rfl, rfl, ⟨_, rfl, rfl⟩, by rw [hv₁]; exact (hv.still v₁).1⟩
  dsimp only
  rw [if_pos ht, Prog.wp_bind, wp_call]
  simp only [sent_venue]
  rw [show ex.snapshot v₁ = (.ok snap, (ex.snapshot v₁).2) from
    Prod.ext hsnap rfl]
  dsimp only
  rw [Prog.wp_ite]
  split
  · exact hdone _ _ ⟨htried.size, htried.orders, htried.submitted, htried.pos⟩
  · next hl =>
    refine hother _ htried (by rw [hv₁]; rfl) ?_
    exact hv.untouched hq (by rw [hv₁]; exact hsnap) hl

/-- What the two attempts at an order came to. -/
structure ExecutedOnce (ex : Executor V) (pos : V → InstrumentId → Decimal)
    (rests : V → ClientOrderId → Prop) (req : OrderRequest)
    (d d' : Durable V) : Prop where
  /-- A second submit only after a first that did nothing. -/
  submits : ∃ subs, d'.submitted = d.submitted ++ subs ∧
    (∀ s ∈ subs, s.request = req) ∧ subs.length ≤ 2 ∧
    (subs.length = 2 → Untouched ex pos rests req d.venue)
  /-- The order's whole execution. -/
  total : 0 ≤ req.side.sign *
      (pos d'.venue req.instrumentId - pos d.venue req.instrumentId) ∧
    req.side.sign *
      (pos d'.venue req.instrumentId - pos d.venue req.instrumentId) ≤
        req.quantity

/-- Neither attempt did anything. -/
def NeverLanded (ex : Executor V) (pos : V → InstrumentId → Decimal)
    (rests : V → ClientOrderId → Prop) (req : OrderRequest) (v : V) : Prop :=
  Untouched ex pos rests req v ∧
    Untouched ex pos rests req (ex.snapshot (ex.submit req v).2).2

theorem submitWithRecovery_once (hv : OpenVenue ex pos rests)
    (hq : 0 ≤ req.quantity) {sizeBefore : Decimal}
    (hsize : sizeBefore = pos w.disk.venue req.instrumentId) :
    Prog.wp (submitWithRecovery ex req sizeBefore)
      (fun ack w' => ExecutedOnce ex pos rests req w.disk w'.disk ∧
        w'.disk.db.orders = w.disk.db.orders ∧
        (ack = none → NeverLanded ex pos rests req w.disk.venue))
      (fun _ _ => False) w := by
  have hpart := hv.executes req w.disk.venue hq
  unfold submitWithRecovery
  refine submitAttempt_spec hv hq hsize (fun ack w₁ h₁ => ?_)
    (fun w₁ h₁ hvenue hun => ?_)
  · obtain ⟨s, hs, hsub⟩ := h₁.submitted
    refine ⟨⟨⟨[s], hsub, by simpa using hs, by simp, by simp⟩, ?_⟩, h₁.orders,
      nofun⟩
    rw [h₁.pos]
    exact hpart
  rw [Prog.wp_bind, wp_alert]
  have hpos₁ : pos w₁.disk.venue req.instrumentId =
      pos w.disk.venue req.instrumentId := by
    rw [h₁.pos, pos_submit ex pos, hun.1]
    ring
  obtain ⟨s, hs, hsub⟩ := h₁.submitted
  -- the second attempt, on a venue where the order did nothing yet
  have htwice : ∀ w₂ : World (Durable V) (InstrumentRouter S),
      w₂.disk.submitted = w₁.disk.submitted →
      w₂.disk.venue = w₁.disk.venue → ∀ w₃, Tried ex pos req w₂ w₃ →
      ExecutedOnce ex pos rests req w.disk w₃.disk := by
    intro w₂ hsub₂ hvenue₂ w₃ h₃
    obtain ⟨s', hs', hsub₃⟩ := h₃.submitted
    refine ⟨⟨[s, s'], ?_, by simp [hs, hs'], by simp, fun _ => hun⟩, ?_⟩
    · rw [hsub₃, hsub₂, hsub, List.append_assoc]
      rfl
    · rw [h₃.pos, hvenue₂, ← hpos₁]
      exact hv.executes req w₁.disk.venue hq
  generalize hw₂ : wrote w₁ (w₁.disk.db.insertAlert _ _) = w₂
  have hvenue₂ : w₂.disk.venue = w₁.disk.venue := by rw [← hw₂]; rfl
  have hsub₂ : w₂.disk.submitted = w₁.disk.submitted := by rw [← hw₂]; rfl
  have horders₂ : w₂.disk.db.orders = w₁.disk.db.orders := by rw [← hw₂]; rfl
  refine submitAttempt_spec hv hq (by rw [hvenue₂, hpos₁, hsize])
    (fun ack w₃ h₃ => ?_) (fun w₃ h₃ _ hun' => ?_)
  · exact ⟨htwice w₂ hsub₂ hvenue₂ w₃ h₃,
      h₃.orders.trans (horders₂.trans h₁.orders), nofun⟩
  · refine ⟨htwice w₂ hsub₂ hvenue₂ w₃ h₃,
      h₃.orders.trans (horders₂.trans h₁.orders), fun _ => ⟨hun, ?_⟩⟩
    rw [← hvenue, ← hvenue₂]
    exact hun'

/-- An answer is recorded in the tables alone, and one that came never as a
loss. -/
theorem acknowledge_spec {cid : ClientOrderId} {prior : State}
    {intent : Intent} {ack : Option OrderAck} :
    Prog.wp (acknowledge ex cid prior intent ack)
      (fun _ w' => w'.disk.venue = w.disk.venue ∧
        w'.disk.submitted = w.disk.submitted ∧
        ∀ row row', w.disk.db.getOrder cid = some row →
          w'.disk.db.getOrder cid = some row' → ack ≠ none →
          row.status ≠ .lost → row'.status ≠ .lost)
      (fun _ _ => False) w := by
  have hupdated : ∀ (w₁ : World (Durable V) (InstrumentRouter S))
      (changes : OrderRow → OrderRow) (skip : Bool) (row row' : OrderRow),
      (∀ o, (changes o).clientOrderId = o.clientOrderId) →
      (∀ o, (changes o).status ≠ .lost) →
      w₁.disk.db.getOrder cid = some row →
      (((updatedDb ex cid skip changes w₁.disk).map
        (wrote w₁)).getD w₁).disk.db.getOrder cid = some row' →
      row.status ≠ .lost → row'.status ≠ .lost := by
    intro w₁ changes skip row row' hc hs hrow hrow' hlost
    rw [updated_getOrder hc, hrow, Option.map_some, Option.some.injEq,
      updatedRow] at hrow'
    subst hrow'
    split
    · exact hlost
    · exact hs row
  unfold acknowledge
  split
  · simp [halt, Prog.wp_ite]
  · split
    · simp only [Prog.wp_bind, wp_updateOrder, wp_alert, Prog.wp_modifyMem,
        wp_setState]
      refine ⟨by simp, by simp, fun row row' hrow hrow' _ => ?_⟩
      simp only [entered_getOrder, wrote_db, Db.getOrder_insertAlert] at hrow'
      refine hupdated w _ false row row' ?_ ?_ hrow hrow'
      · exact fun _ => rfl
      · exact fun _ => by simp
    · rw [wp_updateOrder]
      refine ⟨updated_venue, updated_submitted, fun row row' hrow hrow' _ => ?_⟩
      refine hupdated w _ true row row' ?_ ?_ hrow hrow'
      · exact fun _ => rfl
      · exact fun _ => by simp

/-- The row of an order just announced is `submitting`. -/
theorem announced_getOrder (ex : Executor V) (intent : Intent)
    (target : Option Decimal) (verdicts : List (String × String))
    (w : World (Durable V) (InstrumentRouter S)) :
    ∃ row, (announcedWorld ex intent target verdicts w).disk.db.getOrder
      (nextCid w.mem) = some row ∧ row.status = .submitting := by
  have h := Db.getOrder_upsertOrder_self
    (decidedDb w.disk.db (intentRow ex intent target verdicts w))
    (w.mem.orderRow (nextCid w.mem) intent (ex.clock w.disk.venue))
  refine ⟨_, h, ?_⟩
  cases (decidedDb w.disk.db (intentRow ex intent target verdicts
    w)).getOrder _ <;> rfl

/-- An order of a router whose size is the venue's position is submitted a
second time only if the first submit executed nothing and left nothing
resting, executes its own quantity at most, and is recorded lost only if
neither submit did anything. -/
theorem send_executes_once (hv : OpenVenue ex pos rests)
    (hsize : w.mem.size = pos w.disk.venue w.mem.instrumentId)
    {intent : Intent} (hq : 0 ≤ intent.quantity) (target : Option Decimal)
    (verdicts : List (String × String))
    (w' : World (Durable V) (InstrumentRouter S))
    (hw' : w' = (send ex intent target verdicts w).2) :
    let req := w.mem.orderRequest (nextCid w.mem) intent (ex.clock w.disk.venue)
    ExecutedOnce ex pos rests req w.disk w'.disk ∧
      ∀ row, (send ex intent target verdicts w).1 = .ok () →
        w'.disk.db.getOrder req.clientOrderId = some row →
        row.status = .lost → NeverLanded ex pos rests req w.disk.venue := by
  intro req
  subst hw'
  have hspec : Prog.wp (send ex intent target verdicts)
      (fun _ w' => ExecutedOnce ex pos rests req w.disk w'.disk ∧
        ∀ row, w'.disk.db.getOrder req.clientOrderId = some row →
          row.status = .lost → NeverLanded ex pos rests req w.disk.venue)
      (fun _ w' => ExecutedOnce ex pos rests req w.disk w'.disk) w := by
    unfold send
    rw [Prog.wp_bind, Prog.wp_mem, Prog.wp_bind]
    rcases announce_cases ex intent target verdicts w with hok | ⟨herr, -⟩
    swap
    · rw [Prog.wp_of_error herr]
      have hnone : pos (refusedWorld w (numbered w.mem) (intentRow ex intent
          target verdicts w)).disk.venue = pos w.disk.venue := rfl
      refine ⟨⟨[], by simp [refusedWorld], by simp, by simp, by simp⟩, ?_⟩
      rw [hnone, sub_self, mul_zero]
      exact ⟨le_refl 0, hq⟩
    rw [Prog.wp_of_ok hok, Prog.wp_bind, Prog.wp_attempt]
    obtain ⟨row₀, hrow₀, hstatus⟩ :=
      announced_getOrder ex intent target verdicts w
    refine Prog.wp_mono (submitWithRecovery_once hv hq hsize)
      (fun ack w₁ h₁ => ?_) (fun _ _ hf => hf.elim)
    obtain ⟨honce, horders, hnone⟩ := h₁
    have hrow₁ : w₁.disk.db.getOrder req.clientOrderId = some row₀ := by
      rw [Db.getOrder, horders]
      exact hrow₀
    refine Prog.wp_mono acknowledge_spec (fun _ w₂ h₂ => ?_)
      (fun _ _ hf => hf.elim)
    obtain ⟨hvenue, hsub, hlost⟩ := h₂
    refine ⟨⟨?_, ?_⟩, fun row hrow hst => hnone ?_⟩
    · rw [hsub]
      exact honce.submits
    · rw [hvenue]
      exact honce.total
    · by_contra hack
      exact hlost row₀ row hrow₁ hrow hack (by rw [hstatus]; nofun) hst
  refine ⟨?_, fun row hret => ?_⟩
  · exact Prog.wp_state.mp
      (Prog.wp_mono hspec (fun _ _ h => h.1) (fun _ _ h => h))
  · exact (Prog.wp_returned hspec hret).2 row

/-! ### An order that lands without an answer -/

section Unanswered

/-- A venue with one instrument, which executes an order in full and loses the
answer. -/
def unanswering : Executor Decimal where
  name := "live"
  submit req v := (.error ⟨.executorTimeout, "lost"⟩,
    if req.instrumentId = 1 then v + req.side.sign * req.quantity else v)
  cancel _ v := (.ok (), v)
  placeStop _ _ v := (.ok (), v)
  cancelStop _ v := (.ok (), v)
  snapshot v := (.ok
    { equity := 1000
      positions :=
        [{ instrumentId := 1, size := v, entryPrice := 100
           notional := |v| * 100, leverage := 1, liquidationPrice := none
           unrealisedPnl := 0, cumulativeFunding := 0 }]
      openOrders := [], stops := [], inLiquidation := false, ts := 0 }, v)
  clock _ := 0

def unansweredPosition (v : Decimal) (iid : InstrumentId) : Decimal :=
  if iid = 1 then v else 0

theorem unanswering_open :
    OpenVenue unanswering unansweredPosition fun _ _ => False where
  executes := by
    intro req v hq
    by_cases hid : req.instrumentId = 1
    · have h : executed unanswering unansweredPosition req v = req.quantity := by
        simp only [executed, unanswering, unansweredPosition, if_pos hid]
        rw [add_sub_cancel_left, ← mul_assoc, Side.sign_mul_self, one_mul]
      rw [h]
      exact ⟨hq, le_refl _⟩
    · simpa [executed, unansweredPosition, hid] using hq
  answers := by
    intro req v e h
    cases h
    rfl
  shows := by
    refine fun v => ⟨_, rfl, fun iid => ?_, fun cid => by simp⟩
    simp only [AccountSnapshot.size, AccountSnapshot.position,
      List.find?_cons, List.find?_nil, unansweredPosition]
    by_cases hid : iid = 1
    · simp [hid]
    · have hne : ¬ (1 : InstrumentId) = iid := fun h => hid h.symm
      simp [hid, hne]
  still := fun _ => ⟨rfl, rfl⟩

/-- A flat router, on a venue without a position. -/
def flatWorld : World (Durable Decimal) (InstrumentRouter Unit) where
  mem := .fresh "run" 1 Site.idleStrategy () [] limitsDefault exposureDefault
  disk := ⟨Db.empty, 0, [], []⟩
  past := []

def buyOne : Intent := ⟨1, .buy, 1, 100, false, "strategy"⟩

theorem send_executes_once_unanswered :
    ExecutedOnce unanswering unansweredPosition (fun _ _ => False)
      (flatWorld.mem.orderRequest (nextCid flatWorld.mem) buyOne 0)
      flatWorld.disk (send unanswering buyOne (some 1) [] flatWorld).2.disk :=
  (send_executes_once unanswering_open (w := flatWorld) rfl
    (show 0 ≤ buyOne.quantity by decide +kernel) (some 1) [] _ rfl).1

end Unanswered

end Polyperps
