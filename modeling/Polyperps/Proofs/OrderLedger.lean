import Polyperps.Proofs.Coherent
import Polyperps.Proofs.OrderIds

/-!
# Order rows and their fills

What a row says was filled is what was delivered. Every statement on the
orders table keeps the fills of a row, and its status once terminal, but the
two that a fill reaches: `_record_fill` adds the quantity and averages the
price, and the late fill of an order given up adds the quantity alone. So the
quantity is always the sum of the fills, and the price is their average as
long as no fill comes after its order was given up.
-/

namespace Polyperps

open ProgramLogic InstrumentRouter

variable {V S α : Type} {ex : Executor V} {cid : ClientOrderId}

/-- The row accounts for the fills delivered for its order. -/
structure Accounts (fs : List FillUpdate) (row : OrderRow) : Prop where
  filled : row.filledQuantity = (fs.map FillUpdate.quantity).sum
  priced : row.avgPrice.isSome = !fs.isEmpty
  paid : ∀ avg, row.avgPrice = some avg →
    avg * row.filledQuantity = (fs.map fun f => f.price * f.quantity).sum

/-- From one table to the other the order's row keeps its fills, and a
terminal status stays one; a row that is new has no fills. -/
structure KeepsFills (cid : ClientOrderId) (db db' : Db) : Prop where
  row : ∀ row, db.getOrder cid = some row → ∃ row',
    db'.getOrder cid = some row' ∧ row'.filledQuantity = row.filledQuantity ∧
      row'.avgPrice = row.avgPrice ∧
      (row.status.terminal = true → row'.status.terminal = true)
  new : db.getOrder cid = none → ∀ row', db'.getOrder cid = some row' →
    row'.filledQuantity = 0 ∧ row'.avgPrice = none

theorem KeepsFills.of_eq {db db' : Db}
    (h : db'.getOrder cid = db.getOrder cid) : KeepsFills cid db db' where
  row row hrow := ⟨row, h.trans hrow, rfl, rfl, fun ht => ht⟩
  new hnone row' hrow := by
    rw [h, hnone] at hrow
    cases hrow

theorem KeepsFills.trans {db db' db'' : Db} (h : KeepsFills cid db db')
    (h' : KeepsFills cid db' db'') : KeepsFills cid db db'' where
  row row hrow := by
    obtain ⟨row₁, h₁, hf₁, ha₁, ht₁⟩ := h.row row hrow
    obtain ⟨row₂, h₂, hf₂, ha₂, ht₂⟩ := h'.row row₁ h₁
    exact ⟨row₂, h₂, hf₂.trans hf₁, ha₂.trans ha₁, fun ht => ht₂ (ht₁ ht)⟩
  new hnone row₂ h₂ := by
    cases h₁ : db'.getOrder cid with
    | none => exact h'.new h₁ row₂ h₂
    | some row₁ =>
        obtain ⟨hf, ha⟩ := h.new hnone row₁ h₁
        obtain ⟨row', hrow', hf', ha', -⟩ := h'.row row₁ h₁
        obtain rfl : row' = row₂ := Option.some.inj (hrow'.symm.trans h₂)
        exact ⟨hf'.trans hf, ha'.trans ha⟩

/-- The order's row, if there is one, accounts for the fills. -/
structure Db.AccountsFor (cid : ClientOrderId) (fs : List FillUpdate)
    (db : Db) : Prop where
  row : ∀ row, db.getOrder cid = some row → Accounts fs row
  none : db.getOrder cid = none → fs = []
  positive : ∀ f ∈ fs, 0 < f.quantity

/-- A table that keeps the fills of the row accounts for the same ones. -/
theorem Db.AccountsFor.kept {db db' : Db} {fs : List FillUpdate}
    (hdb : db.AccountsFor cid fs) (h : KeepsFills cid db db') :
    db'.AccountsFor cid fs where
  row row' hrow' := by
    cases hrow : db.getOrder cid with
    | some row =>
        obtain ⟨row₁, h₁, hf, ha, -⟩ := h.row row hrow
        obtain rfl : row₁ = row' := Option.some.inj (h₁.symm.trans hrow')
        have hacc := hdb.row row hrow
        exact ⟨hf.trans hacc.filled, by rw [ha]; exact hacc.priced,
          by rw [ha, hf]; exact hacc.paid⟩
    | none =>
        obtain ⟨hf, ha⟩ := h.new hrow row' hrow'
        rw [hdb.none hrow]
        exact ⟨by simpa using hf, by rw [ha]; rfl, by rw [ha]; nofun⟩
  none hnone := by
    cases hrow : db.getOrder cid with
    | some row =>
        obtain ⟨row₁, h₁, -⟩ := h.row row hrow
        rw [hnone] at h₁
        cases h₁
    | none => exact hdb.none hrow
  positive := hdb.positive

/-! ## What touches no order row -/

section Router

variable {w w' : World (Durable V) (InstrumentRouter S)}

/-- The orders table is as it was, and so is the id of the next order. -/
structure Quiet (w w' : World (Durable V) (InstrumentRouter S)) : Prop where
  next : nextCid w'.mem = nextCid w.mem
  orders : w'.disk.db.orders = w.disk.db.orders

instance : Std.Refl (Quiet (V := V) (S := S)) := ⟨fun _ => ⟨rfl, rfl⟩⟩

instance : IsTrans (World (Durable V) (InstrumentRouter S)) Quiet :=
  ⟨fun _ _ _ h h' => ⟨h'.next.trans h.next, h'.orders.trans h.orders⟩⟩

theorem Quiet.getOrder (h : Quiet w w') (cid : ClientOrderId) :
    w'.disk.db.getOrder cid = w.disk.db.getOrder cid := by
  rw [Db.getOrder, Db.getOrder, h.orders]

theorem memory_quiet {f : InstrumentRouter S → InstrumentRouter S}
    (h : nextCid (f w.mem) = nextCid w.mem) :
    (Prog.modifyMem f : Act V _ Unit).Steps Quiet w := ⟨h, rfl⟩

theorem persist_quiet : (persist ex).Steps (Quiet (S := S)) w := ⟨rfl, rfl⟩

theorem setState_quiet {st : State} :
    (setState ex st).Steps (Quiet (S := S)) w := ⟨rfl, rfl⟩

theorem alert_quiet {level : Level} {kind : String}
    {detail : List (String × String)} :
    (alert ex level kind detail).Steps (Quiet (S := S)) w := ⟨rfl, rfl⟩

theorem emit_quiet {a : Alert} :
    (emit w.mem.runId a : Act V _ Unit).Steps (Quiet (S := S)) w := ⟨rfl, rfl⟩

theorem call_quiet {f : V → Except Exc α × V} :
    (call f : Act V _ α).Steps (Quiet (S := S)) w := ⟨rfl, rfl⟩

theorem record_quiet {target : Option Decimal}
    {verdicts : List (String × String)} {intent : Option Intent}
    {cid : Option ClientOrderId} {text : String} :
    (record ex target verdicts intent cid text).Steps (Quiet (S := S)) w := by
  rcases record_cases ex target verdicts intent cid text w with h | ⟨h, -⟩
  · unfold Prog.Steps
    rw [h]
    exact ⟨rfl, rfl⟩
  · unfold Prog.Steps
    rw [h]
    exact ⟨rfl, rfl⟩

theorem replaceStop_quiet : (replaceStop ex).Steps (Quiet (S := S)) w := by
  unfold replaceStop
  refine Prog.Steps.mem_bind ?_
  split
  · exact Prog.Steps.pure
  split
  · exact Prog.Steps.pure
  refine Prog.Steps.catching ?_ fun e => ?_
  · refine Prog.Steps.bind call_quiet fun _ => ?_
    refine Prog.Steps.bind (memory_quiet rfl) fun _ => ?_
    exact Prog.Steps.bind persist_quiet fun _ => alert_quiet
  · split
    · refine Prog.Steps.bind (memory_quiet rfl) fun _ => ?_
      exact Prog.Steps.bind persist_quiet fun _ => alert_quiet
    · exact Prog.Steps.raise

theorem adoptStop_quiet {snap : AccountSnapshot} {pos : PositionView} :
    (adoptStop ex snap pos).Steps (Quiet (S := S)) w := by
  unfold adoptStop
  refine Prog.Steps.mem_bind ?_
  split
  · exact memory_quiet rfl
  refine Prog.Steps.catching ?_ fun e => ?_
  · refine Prog.Steps.bind ?_ fun _ => memory_quiet rfl
    unfold placeExchangeStop
    split
    · exact Prog.Steps.raise
    · exact Prog.Steps.bind call_quiet fun _ => Prog.Steps.pure
  · split
    · exact Prog.Steps.bind (memory_quiet rfl) fun _ => alert_quiet
    · exact Prog.Steps.raise

theorem adopt_quiet {snap : AccountSnapshot} :
    (adopt ex snap).Steps (Quiet (S := S)) w := by
  unfold adopt
  refine Prog.Steps.bind (memory_quiet rfl) fun _ => ?_
  refine Prog.Steps.mem_bind ?_
  dsimp only
  split
  · exact Prog.Steps.bind (memory_quiet rfl) fun _ => persist_quiet
  · refine Prog.Steps.bind (memory_quiet rfl) fun _ => ?_
    exact Prog.Steps.bind adoptStop_quiet fun _ => persist_quiet

theorem settleState_quiet : (settleState ex).Steps (Quiet (S := S)) w := by
  unfold settleState
  refine Prog.Steps.mem_bind ?_
  split
  · exact Prog.Steps.pure
  · exact setState_quiet

theorem adoptAndSettle_quiet {snap : AccountSnapshot} :
    (adoptAndSettle ex snap).Steps (Quiet (S := S)) w := by
  unfold adoptAndSettle
  refine Prog.Steps.bind adopt_quiet fun _ => ?_
  refine Prog.Steps.bind settleState_quiet fun _ => ?_
  refine Prog.Steps.mem_bind ?_
  split
  · exact Prog.Steps.bind call_quiet fun _ => memory_quiet rfl
  · exact memory_quiet rfl

theorem halt_quiet {reason : String} :
    (halt ex reason).Steps (Quiet (S := S)) w := by
  unfold halt
  refine Prog.Steps.mem_bind ?_
  split
  · exact Prog.Steps.pure
  refine Prog.Steps.bind alert_quiet fun _ => ?_
  exact Prog.Steps.bind (memory_quiet rfl) fun _ => setState_quiet

theorem submitAttempt_quiet {attempt : ℕ} {req : OrderRequest}
    {sizeBefore : Decimal}
    {otherwise : Act V (InstrumentRouter S) (Option OrderAck)}
    (h : ∀ w', otherwise.Steps Quiet w') :
    (submitAttempt ex attempt req sizeBefore otherwise).Steps Quiet w := by
  unfold submitAttempt
  have hsubmit : (callSubmit ex req w.mem.dseq : Act V _ OrderAck).Steps
      (Quiet (S := S)) w := ⟨rfl, rfl⟩
  refine Prog.Steps.catching ?_ fun e => ?_
  · refine Prog.Steps.mem_bind ?_
    exact Prog.Steps.bind hsubmit fun _ => Prog.Steps.pure
  split
  · refine Prog.Steps.bind call_quiet fun snap => ?_
    split
    · refine Prog.Steps.bind alert_quiet fun _ => ?_
      exact clock_bind Prog.Steps.pure
    · exact h _
  · exact Prog.Steps.raise

theorem submitWithRecovery_quiet {req : OrderRequest} {sizeBefore : Decimal} :
    (submitWithRecovery ex req sizeBefore).Steps (Quiet (S := S)) w := by
  refine submitAttempt_quiet fun w' => ?_
  refine Prog.Steps.bind alert_quiet fun _ => ?_
  exact submitAttempt_quiet fun _ => Prog.Steps.pure

theorem askTarget_quiet {history : List Bar} :
    (askTarget history : Act V _ Decimal).Steps (Quiet (S := S)) w := by
  unfold askTarget
  refine Prog.Steps.mem_bind ?_
  exact Prog.Steps.bind (memory_quiet rfl) fun _ => Prog.Steps.pure

theorem watchMargin_quiet {pos : PositionView} {mark : Decimal} :
    (watchMargin ex pos mark).Steps (Quiet (S := S)) w := by
  unfold watchMargin
  split
  · exact Prog.Steps.pure
  refine Prog.Steps.bind Prog.Steps.ofExcept fun distance => ?_
  refine Prog.Steps.mem_bind (clock_bind ?_)
  dsimp only
  split
  · split
    · exact Prog.Steps.bind emit_quiet fun _ => memory_quiet rfl
    · exact memory_quiet rfl
  · exact memory_quiet rfl

theorem applyFill_quiet {ev : FillUpdate} :
    (applyFill ex ev).Steps (Quiet (S := S)) w :=
  Prog.Steps.bind (memory_quiet rfl) fun _ => persist_quiet

theorem fillFlattened_quiet {ev : FillUpdate} {ours : Bool} :
    (fillFlattened ex ev ours).Steps (Quiet (S := S)) w := by
  unfold fillFlattened
  refine Prog.Steps.mem_bind ?_
  refine Prog.Steps.bind (memory_quiet rfl) fun _ => ?_
  refine Prog.Steps.bind call_quiet fun _ => ?_
  have htail : ∀ (c : Prop) [Decidable c]
      (w₁ : World (Durable V) (InstrumentRouter S)),
      (flattenStrategy >>= fun _ => if c then
        alert ex .warn "stop_fired"
          [("price", Decimal.str ev.price),
            ("quantity", Decimal.str ev.quantity)]
        else pure ()).Steps Quiet w₁ := by
    intro c _ w₁
    refine Prog.Steps.bind (memory_quiet rfl) fun _ => ?_
    split
    · exact alert_quiet
    · exact Prog.Steps.pure
  dsimp only
  split
  · exact Prog.Steps.bind persist_quiet fun _ => htail _ _
  · exact Prog.Steps.bind setState_quiet fun _ => htail _ _

theorem afterFill_quiet {sizeBefore : Decimal} {ours : Bool}
    {ev : FillUpdate} :
    (afterFill ex sizeBefore ours ev).Steps (Quiet (S := S)) w := by
  unfold afterFill
  refine Prog.Steps.mem_bind ?_
  split
  · refine Prog.Steps.bind (memory_quiet rfl) fun _ => ?_
    exact Prog.Steps.bind setState_quiet fun _ => replaceStop_quiet
  split
  · exact fillFlattened_quiet
  split
  · exact Prog.Steps.bind alert_quiet fun _ => replaceStop_quiet
  split
  · exact Prog.Steps.pure
  refine Prog.Steps.bind alert_quiet fun _ => ?_
  split
  · exact Prog.Steps.bind setState_quiet fun _ => replaceStop_quiet
  · exact Prog.Steps.pure

/-! ## What updates a row -/

/-- The order's row keeps its fills from one world to the next. -/
def Kept {μ : Type} (cid : ClientOrderId) (w w' : World (Durable V) μ) : Prop :=
  KeepsFills cid w.disk.db w'.disk.db

instance {μ : Type} : Std.Refl (Kept (V := V) (μ := μ) cid) :=
  ⟨fun _ => .of_eq rfl⟩

instance {μ : Type} : IsTrans (World (Durable V) μ) (Kept cid) :=
  ⟨fun _ _ _ => KeepsFills.trans⟩

theorem Quiet.kept (h : Quiet w w') : Kept cid w w' := .of_eq (h.getOrder cid)

theorem quiet_kept {m : Act V (InstrumentRouter S) α} (h : m.Steps Quiet w) :
    m.Steps (Kept cid) w := Quiet.kept h

/-- A statement that sets other columns, and a terminal status if any. -/
structure Relabels (skip : Bool) (changes : OrderRow → OrderRow) : Prop where
  cid : ∀ o, (changes o).clientOrderId = o.clientOrderId
  filled : ∀ o, (changes o).filledQuantity = o.filledQuantity
  avg : ∀ o, (changes o).avgPrice = o.avgPrice
  status : skip = true ∨ ∀ o, (changes o).status.terminal = true

/-- An update of a row that sets only such columns. -/
theorem updateOrder_kept {cid' : ClientOrderId} {skip : Bool}
    {changes : OrderRow → OrderRow} (h : Relabels skip changes) :
    (updateOrder ex cid' skip changes).Steps (Kept cid) w := by
  unfold Prog.Steps
  rw [updateOrder_eq]
  by_cases hcid : cid = cid'
  swap
  · exact .of_eq (updated_getOrder_ne h.cid hcid)
  subst hcid
  have hget : (((updatedDb ex cid skip changes w.disk).map
      (wrote w)).getD w).disk.db.getOrder cid = _ := updated_getOrder h.cid
  refine ⟨fun row hrow => ?_, fun hnone row' hrow' => ?_⟩
  · rw [hrow, Option.map_some] at hget
    refine ⟨_, hget, ?_⟩
    unfold updatedRow
    split
    · exact ⟨rfl, rfl, fun ht => ht⟩
    · next hskip =>
      refine ⟨h.filled row, h.avg row, fun ht => ?_⟩
      rcases h.status with hs | hs
      · exact absurd (by simp [hs, ht]) hskip
      · exact hs row
  · rw [hnone, Option.map_none] at hget
    exact absurd (hget.symm.trans hrow') nofun

theorem adoptAndSettle_kept {snap : AccountSnapshot} :
    (adoptAndSettle ex snap).Steps (Kept cid) w :=
  quiet_kept adoptAndSettle_quiet

theorem checkPending_kept {snap : AccountSnapshot} :
    (checkPending ex snap).Steps (Kept cid) w := by
  unfold checkPending
  refine Prog.Steps.mem_bind (clock_bind ?_)
  split
  · exact Prog.Steps.pure
  split
  · exact Prog.Steps.pure
  split
  · exact Prog.Steps.pure
  refine Prog.Steps.bind (quiet_kept alert_quiet) fun _ => ?_
  dsimp only
  split
  · exact adoptAndSettle_kept
  · refine Prog.Steps.bind (updateOrder_kept ?_) fun _ => adoptAndSettle_kept
    exact ⟨fun _ => rfl, fun _ => rfl, fun _ => rfl, .inr fun _ => rfl⟩

theorem submitFailed_kept {cid' : ClientOrderId} {e : Exc} :
    (submitFailed ex cid' e).Steps (Kept cid) w := by
  unfold submitFailed
  refine Prog.Steps.bind (updateOrder_kept ?_) fun _ => ?_
  · refine ⟨fun _ => rfl, fun _ => rfl, fun _ => rfl, .inr fun _ => ?_⟩
    dsimp only
    split <;> rfl
  refine Prog.Steps.bind (quiet_kept alert_quiet) fun _ => ?_
  refine Prog.Steps.bind (quiet_kept halt_quiet) fun _ => ?_
  exact Prog.Steps.bind (quiet_kept call_quiet) fun _ => quiet_kept adopt_quiet

theorem acknowledge_kept {cid' : ClientOrderId} {prior : State}
    {intent : Intent} {ack : Option OrderAck} :
    (acknowledge ex cid' prior intent ack).Steps (Kept cid) w := by
  unfold acknowledge
  split
  · refine Prog.Steps.bind (updateOrder_kept ?_) fun _ => quiet_kept halt_quiet
    exact ⟨fun _ => rfl, fun _ => rfl, fun _ => rfl, .inr fun _ => rfl⟩
  split
  · refine Prog.Steps.bind (updateOrder_kept ?_) fun _ => ?_
    · exact ⟨fun _ => rfl, fun _ => rfl, fun _ => rfl, .inr fun _ => rfl⟩
    refine Prog.Steps.bind (quiet_kept alert_quiet) fun _ => ?_
    exact Prog.Steps.bind (quiet_kept (memory_quiet rfl))
      fun _ => quiet_kept setState_quiet
  · refine updateOrder_kept ?_
    exact ⟨fun _ => rfl, fun _ => rfl, fun _ => rfl, .inl rfl⟩

/-- An order is announced under an id that no row has, with nothing filled. -/
theorem announce_kept {intent : Intent} {target : Option Decimal}
    {verdicts : List (String × String)}
    (hfree : w.disk.db.getOrder (nextCid w.mem) = none) :
    (announce ex intent target verdicts).Steps (Kept cid) w := by
  unfold Prog.Steps
  rcases announce_cases ex intent target verdicts w with hok | ⟨herr, -⟩
  swap
  · rw [herr]
    exact .of_eq rfl
  rw [hok]
  by_cases hcid : cid = nextCid w.mem
  · have hrow : (announcedDb ex intent target verdicts w).getOrder cid =
        some (w.mem.orderRow (nextCid w.mem) intent
          (ex.clock w.disk.venue)) := by
      have h := Db.getOrder_upsertOrder_self
        (decidedDb w.disk.db (intentRow ex intent target verdicts w))
        (w.mem.orderRow (nextCid w.mem) intent (ex.clock w.disk.venue))
      rw [hcid]
      refine h.trans (congrArg some ?_)
      show (w.disk.db.getOrder (nextCid w.mem)).elim _ _ = _
      rw [hfree]
      rfl
    refine ⟨fun row h => ?_, fun _ row' h => ?_⟩
    · rw [hcid, hfree] at h
      cases h
    · obtain rfl : _ = row' := Option.some.inj (hrow.symm.trans h)
      exact ⟨rfl, rfl⟩
  · exact .of_eq (Db.getOrder_upsertOrder_ne hcid)

theorem send_kept {intent : Intent} {target : Option Decimal}
    {verdicts : List (String × String)}
    (hfree : w.disk.db.getOrder (nextCid w.mem) = none) :
    (send ex intent target verdicts).Steps (Kept cid) w := by
  unfold send
  refine Prog.Steps.mem_bind ?_
  refine Prog.Steps.bind (announce_kept hfree) fun req => ?_
  refine Prog.Steps.bind (quiet_kept submitWithRecovery_quiet).attempt
    fun result => ?_
  split
  · exact submitFailed_kept
  · exact acknowledge_kept

theorem exit_kept {mark size : Decimal} {reason : String}
    {target : Option Decimal}
    (hfree : w.disk.db.getOrder (nextCid w.mem) = none) :
    (exit ex mark reason target size).Steps (Kept cid) w :=
  Prog.Steps.mem_bind (send_kept hfree)

theorem shutdown_kept {mark : Decimal} {exchangeSize : Option Decimal}
    (hfree : w.disk.db.getOrder (nextCid w.mem) = none) :
    (shutdown ex mark exchangeSize).Steps (Kept cid) w := by
  have hrest : ∀ w₁ : World (Durable V) (InstrumentRouter S), (do
      if w.mem.state = .halted then pure ()
        else alert ex .critical "kill_switch" [("action", "shutdown")]
      setState ex .halted : Act V (InstrumentRouter S) Unit).Steps
        (Kept cid) w₁ := by
    intro w₁
    split
    · exact quiet_kept setState_quiet
    · exact Prog.Steps.bind (quiet_kept alert_quiet)
        fun _ => quiet_kept setState_quiet
  unfold shutdown
  refine Prog.Steps.mem_bind ?_
  dsimp only
  split
  · exact Prog.Steps.pure
  split
  · exact Prog.Steps.bind (exit_kept hfree) fun _ => hrest _
  · exact hrest _

theorem enter_kept {mark target : Decimal} {snapshot : AccountSnapshot}
    {kill : KillAction} {pending : List Intent}
    (hfree : w.disk.db.getOrder (nextCid w.mem) = none) :
    (enter ex mark target snapshot kill pending).Steps (Kept cid) w := by
  unfold enter
  split
  · exact quiet_kept record_quiet
  refine Prog.Steps.mem_bind ?_
  refine Prog.Steps.bind Prog.Steps.ofExcept fun perContract => ?_
  refine Prog.Steps.bind Prog.Steps.ofExcept fun entryVerdict => ?_
  refine Prog.Steps.bind Prog.Steps.ofExcept fun exposureVerdict => ?_
  refine Prog.Steps.bind Prog.Steps.ofExcept fun merged => ?_
  split
  split
  · exact quiet_kept record_quiet
  · exact send_kept hfree

theorem holdOrExit_kept {mark target : Decimal}
    (hfree : w.disk.db.getOrder (nextCid w.mem) = none) :
    (holdOrExit ex mark target).Steps (Kept cid) w := by
  unfold holdOrExit
  refine Prog.Steps.mem_bind ?_
  dsimp only
  split
  · exact exit_kept hfree
  · exact quiet_kept record_quiet

theorem onBar_kept {history : List Bar} {snapshot : AccountSnapshot}
    {kill : KillAction} {pending : List Intent}
    (hfree : w.disk.db.getOrder (nextCid w.mem) = none) :
    (onBar ex history snapshot kill pending).Steps (Kept cid) w := by
  unfold onBar
  refine Prog.Steps.mem_bind ?_
  split
  · exact quiet_kept record_quiet
  split
  · exact Prog.Steps.raise
  split
  · exact quiet_kept record_quiet
  split
  · exact shutdown_kept hfree
  split
  · split
    · exact exit_kept hfree
    · exact quiet_kept record_quiet
  split
  · exact quiet_kept record_quiet
  refine Prog.Steps.bind (quiet_kept askTarget_quiet) fun target => ?_
  split
  · exact enter_kept hfree
  · exact holdOrExit_kept hfree

theorem onFast_kept {mark : Decimal} {snapshot : AccountSnapshot}
    (hfree : w.disk.db.getOrder (nextCid w.mem) = none) :
    (onFast ex mark snapshot).Steps (Kept cid) w := by
  unfold onFast
  refine Prog.Steps.mem_bind ?_
  split
  · exact Prog.Steps.pure
  split
  · exact Prog.Steps.bind (quiet_kept alert_quiet)
      fun _ => quiet_kept setState_quiet
  split
  · exact Prog.Steps.pure
  next pos _ =>
  have hwatch : (watchMargin ex pos mark).Steps Quiet w := watchMargin_quiet
  have hfree' : (watchMargin ex pos mark w).2.disk.db.getOrder
      (nextCid (watchMargin ex pos mark w).2.mem) = none := by
    rw [Quiet.getOrder hwatch, Quiet.next hwatch]
    exact hfree
  refine Prog.Steps.bind (quiet_kept hwatch) fun _ => ?_
  refine Prog.Steps.bind Prog.Steps.ofExcept fun flatten => ?_
  split
  · exact exit_kept hfree'
  split
  · exact exit_kept hfree'
  · exact Prog.Steps.pure

theorem ends_terminal {status : OrderStatus} (h : status.ends = true) :
    (RowStatus.update status).terminal = true := by
  revert h
  cases status <;> decide

theorem handleOrderUpdate_kept {ev : OrderUpdate} :
    (handleOrderUpdate ex ev).Steps (Kept cid) w := by
  unfold handleOrderUpdate
  refine Prog.Steps.mem_bind ?_
  split
  · next h =>
    refine Prog.Steps.bind (updateOrder_kept ?_) fun _ => ?_
    · exact ⟨fun _ => rfl, fun _ => rfl, fun _ => rfl,
        .inr fun _ => ends_terminal h.2⟩
    refine Prog.Steps.bind (quiet_kept alert_quiet) fun _ => ?_
    exact Prog.Steps.bind (quiet_kept (memory_quiet rfl))
      fun _ => quiet_kept settleState_quiet
  refine Prog.Steps.disk_bind ?_
  split
  · exact Prog.Steps.pure
  split
  · exact Prog.Steps.pure
  · refine updateOrder_kept ?_
    exact ⟨fun _ => rfl, fun _ => rfl, fun _ => rfl, .inl rfl⟩

/-! ## Fills -/

/-- An update of another order's row. -/
theorem updateOrder_other {cid' : ClientOrderId} {skip : Bool}
    {changes : OrderRow → OrderRow}
    (h : ∀ o, (changes o).clientOrderId = o.clientOrderId)
    (hne : cid ≠ cid') :
    (updateOrder ex cid' skip changes).Steps (Kept cid) w := by
  unfold Prog.Steps
  rw [updateOrder_eq]
  exact .of_eq (updated_getOrder_ne h hne)

theorem recordOurs_other {row : Option OrderRow} {ev : FillUpdate}
    (hrow : ∀ r ∈ row, cid ≠ r.clientOrderId) :
    (recordOurs ex row ev).Steps (Kept cid) w := by
  unfold recordOurs
  cases row with
  | none => exact Prog.Steps.pure
  | some row =>
      refine Prog.Steps.bind Prog.Steps.ofExcept fun avg => ?_
      exact updateOrder_other (fun _ => rfl) (hrow row rfl)

theorem countFill_other {row : Option OrderRow} {ev : FillUpdate}
    (hrow : ∀ r ∈ row, cid ≠ r.clientOrderId) :
    (countFill ex row ev).Steps (Kept cid) w := by
  unfold countFill
  refine Prog.Steps.mem_bind ?_
  refine Prog.Steps.bind (quiet_kept applyFill_quiet) fun _ => ?_
  exact Prog.Steps.bind (recordOurs_other hrow)
    fun _ => quiet_kept afterFill_quiet

/-- The fill of another order. -/
theorem handleFill_other {ev : FillUpdate} (hne : cid ≠ ev.clientOrderId) :
    (handleFill ex ev).Steps (Kept cid) w := by
  unfold handleFill
  refine Prog.Steps.mem_bind ?_
  split
  · exact Prog.Steps.pure
  refine Prog.Steps.disk_bind ?_
  split
  · exact countFill_other (by rintro r ⟨⟩)
  next row hrow =>
  split
  · unfold lateFill
    refine Prog.Steps.mem_bind ?_
    refine Prog.Steps.bind (quiet_kept alert_quiet) fun _ => ?_
    refine Prog.Steps.bind (updateOrder_other (fun _ => rfl) hne) fun _ => ?_
    exact Prog.Steps.bind (quiet_kept call_quiet) fun _ => adoptAndSettle_kept
  · refine countFill_other ?_
    rintro r ⟨⟩
    rw [Db.getOrder_cid hrow]
    exact hne

/-- The row `_record_fill` leaves. -/
def recorded (row : OrderRow) (ev : FillUpdate) (avg : Decimal)
    (now : DateTime) : OrderRow :=
  { row with
    status :=
      if row.status.terminal then row.status
      else if row.quantity ≤ row.filledQuantity + ev.quantity then
        .update .filled
      else .update .partialFill
    filledQuantity := row.filledQuantity + ev.quantity
    avgPrice := some avg
    updatedAt := now }

theorem recordFill_row {row : OrderRow} {ev : FillUpdate} {avg : Decimal}
    (hrow : w.disk.db.getOrder cid = some row)
    (havg : averagePrice row ev = .ok avg) :
    Prog.wp (recordFill ex row ev)
      (fun _ w' => w'.disk.db.getOrder cid =
        some (recorded row ev avg (ex.clock w.disk.venue)))
      (fun _ _ => False) w := by
  have hcid := Db.getOrder_cid hrow
  subst hcid
  unfold recordFill
  dsimp only
  rw [Prog.wp_bind, havg, Prog.wp_ofExcept_ok, wp_updateOrder]
  refine (updated_getOrder (by intro; rfl)).trans ?_
  rw [hrow, Option.map_some]
  rfl

theorem recorded_terminal {row : OrderRow} {ev : FillUpdate} {avg : Decimal}
    {now : DateTime} (h : row.status.terminal = true) :
    (recorded row ev avg now).status.terminal = true := by
  unfold recorded
  rw [if_pos h]
  exact h

/-- The price recorded is the average over the fills and this one. -/
theorem Accounts.record {fs : List FillUpdate} {row : OrderRow}
    (h : Accounts fs row) {ev : FillUpdate} (hq : 0 < ev.quantity)
    (hfs : ∀ f ∈ fs, 0 < f.quantity) (now : DateTime) :
    ∃ avg, averagePrice row ev = .ok avg ∧
      Accounts (fs ++ [ev]) (recorded row ev avg now) := by
  have hnonneg : 0 ≤ row.filledQuantity := by
    rw [h.filled]
    refine List.sum_nonneg fun x hx => ?_
    obtain ⟨f, hf, rfl⟩ := List.mem_map.mp hx
    exact (hfs f hf).le
  have htotal : row.filledQuantity + ev.quantity ≠ 0 := by linarith
  have hquantity : row.filledQuantity + ev.quantity =
      ((fs ++ [ev]).map FillUpdate.quantity).sum := by
    rw [List.map_append, List.sum_append, h.filled]
    simp
  have hpaid : ((fs ++ [ev]).map fun f => f.price * f.quantity).sum =
      (fs.map fun f => f.price * f.quantity).sum + ev.price * ev.quantity := by
    rw [List.map_append, List.sum_append]
    simp
  unfold averagePrice
  cases havg : row.avgPrice with
  | none =>
      have hnil : fs = [] := by
        have hp := h.priced
        rw [havg] at hp
        simpa using hp
      subst hnil
      have hzero : row.filledQuantity = 0 := by simpa using h.filled
      refine ⟨_, rfl, hquantity, by simp [recorded], ?_⟩
      rintro avg ⟨⟩
      rw [hpaid]
      simp [recorded, hzero]
  | some avg =>
      have hpaid₀ := h.paid avg havg
      dsimp only
      split
      · next hzero =>
        refine ⟨_, rfl, hquantity, by simp [recorded], ?_⟩
        rintro avg' ⟨⟩
        rw [hpaid, ← hpaid₀]
        simp [recorded, hzero]
      · rw [divide, if_neg htotal]
        refine ⟨_, rfl, hquantity, by simp [recorded], ?_⟩
        rintro avg' ⟨⟩
        show _ / _ * (row.filledQuantity + ev.quantity) = _
        rw [hpaid, ← hpaid₀, div_mul_cancel₀ _ htotal]

/-- The fill is of an order given up that the router does not wait for. -/
def Late (ev : FillUpdate) (db : Db) (r : InstrumentRouter S) : Prop :=
  ∃ row, db.getOrder ev.clientOrderId = some row ∧
    row.status.gaveUp = true ∧ r.pendingCid ≠ some ev.clientOrderId

/-- The fill of the order itself, where it is not late. -/
theorem handleFill_own {ev : FillUpdate} {row : OrderRow}
    {fs : List FillUpdate} (hiid : ev.instrumentId = w.mem.instrumentId)
    (hrow : w.disk.db.getOrder ev.clientOrderId = some row)
    (hlate : ¬ Late ev w.disk.db w.mem) (hacc : Accounts fs row)
    (hq : 0 < ev.quantity) (hfs : ∀ f ∈ fs, 0 < f.quantity) :
    ∃ row', (handleFill ex ev w).2.disk.db.getOrder ev.clientOrderId =
      some row' ∧ Accounts (fs ++ [ev]) row' := by
  let P (w' : World (Durable V) (InstrumentRouter S)) := ∃ row',
    w'.disk.db.getOrder ev.clientOrderId = some row' ∧
      Accounts (fs ++ [ev]) row'
  refine (Prog.wp_state (P := P)).mp ?_
  have hcount : ¬ (row.status.gaveUp = true ∧
      w.mem.pendingCid ≠ some ev.clientOrderId) :=
    fun h => hlate ⟨row, hrow, h⟩
  unfold handleFill
  rw [Prog.wp_bind, Prog.wp_mem, if_neg (not_not.mpr hiid), Prog.wp_bind,
    Prog.wp_disk, hrow]
  dsimp only
  rw [if_neg hcount]
  unfold countFill
  rw [Prog.wp_bind, Prog.wp_mem, Prog.wp_bind]
  have happly : Prog.wp (applyFill ex ev)
      (fun _ w' => w'.disk.db.getOrder ev.clientOrderId = some row)
      (fun _ _ => False) w := hrow
  refine Prog.wp_mono happly (fun _ w₁ h₁ => ?_) fun _ _ hf => hf.elim
  obtain ⟨avg, havg, hrec⟩ := hacc.record hq hfs (ex.clock w₁.disk.venue)
  rw [Prog.wp_bind]
  refine Prog.wp_mono (recordFill_row h₁ havg) (fun _ w₂ h₂ => ?_)
    fun _ _ hf => hf.elim
  -- what follows from the size leaves the row
  have hquiet : (afterFill ex w.mem.size (some row).isSome ev).Steps
      Quiet w₂ := afterFill_quiet
  refine Prog.wp_mono hquiet.wp (fun _ w₃ h₃ => ?_) fun _ w₃ h₃ => ?_
  · exact ⟨_, (h₃.getOrder _).trans h₂, hrec⟩
  · exact ⟨_, (h₃.getOrder _).trans h₂, hrec⟩

/-- A terminal status of the order's row stays one. -/
def Ended {μ : Type} (cid : ClientOrderId) (w w' : World (Durable V) μ) :
    Prop :=
  ∀ row, w.disk.db.getOrder cid = some row → row.status.terminal = true →
    ∃ row', w'.disk.db.getOrder cid = some row' ∧ row'.status.terminal = true

instance {μ : Type} : Std.Refl (Ended (V := V) (μ := μ) cid) :=
  ⟨fun _ row hrow ht => ⟨row, hrow, ht⟩⟩

instance {μ : Type} : IsTrans (World (Durable V) μ) (Ended cid) :=
  ⟨fun _ _ _ h h' row hrow ht => by
    obtain ⟨row₁, h₁, ht₁⟩ := h row hrow ht
    exact h' row₁ h₁ ht₁⟩

theorem Kept.ended {μ : Type} {w w' : World (Durable V) μ}
    (h : Kept cid w w') : Ended cid w w' := by
  intro row hrow ht
  obtain ⟨row', hrow', -, -, ht'⟩ := h.row row hrow
  exact ⟨row', hrow', ht' ht⟩

theorem quiet_ended {m : Act V (InstrumentRouter S) α} (h : m.Steps Quiet w) :
    m.Steps (Ended cid) w := (Quiet.kept h).ended

/-- An update that leaves the status. -/
theorem updateOrder_ended {cid' : ClientOrderId} {skip : Bool}
    {changes : OrderRow → OrderRow}
    (hcid : ∀ o, (changes o).clientOrderId = o.clientOrderId)
    (hstatus : ∀ o, (changes o).status = o.status) :
    (updateOrder ex cid' skip changes).Steps (Ended cid) w := by
  unfold Prog.Steps
  rw [updateOrder_eq]
  intro row hrow ht
  by_cases h : cid = cid'
  swap
  · exact ⟨row, (updated_getOrder_ne hcid h).trans hrow, ht⟩
  subst h
  refine ⟨updatedRow skip changes (ex.clock w.disk.venue) row,
    (updated_getOrder hcid).trans (by rw [hrow]; rfl), ?_⟩
  unfold updatedRow
  split
  · exact ht
  · show (changes row).status.terminal = true
    rw [hstatus]
    exact ht

theorem recordOurs_ended {row : Option OrderRow} {ev : FillUpdate}
    (hrow : ∀ r ∈ row, w.disk.db.getOrder r.clientOrderId = some r) :
    (recordOurs ex row ev).Steps (Ended cid) w := by
  unfold recordOurs
  cases row with
  | none => exact Prog.Steps.pure
  | some row =>
      have hget := hrow row rfl
      by_cases hcid : cid = row.clientOrderId
      swap
      · have hkept : (recordOurs ex (some row) ev).Steps (Kept cid) w :=
          recordOurs_other (by rintro r ⟨⟩; exact hcid)
        exact hkept.ended
      subst hcid
      show (recordFill ex row ev).Steps (Ended row.clientOrderId) w
      cases havg : averagePrice row ev with
      | error e =>
          have hraise : recordFill ex row ev w = (.error e, w) := by
            unfold recordFill
            dsimp only
            rw [havg]
            rfl
          unfold Prog.Steps
          rw [hraise]
          exact refl_of _ w
      | ok avg =>
          have hwp : Prog.wp (recordFill ex row ev) _ _ w :=
            recordFill_row hget havg
          obtain ⟨⟨⟩, w', hret, h'⟩ := Prog.wp_returns hwp fun _ _ hf => hf
          unfold Prog.Steps
          rw [hret]
          intro row₀ h₀ ht
          obtain rfl : row₀ = row := Option.some.inj (h₀.symm.trans hget)
          exact ⟨_, h', recorded_terminal ht⟩

theorem countFill_ended {row : Option OrderRow} {ev : FillUpdate}
    (hrow : ∀ r ∈ row, w.disk.db.getOrder r.clientOrderId = some r) :
    (countFill ex row ev).Steps (Ended cid) w := by
  unfold countFill
  refine Prog.Steps.mem_bind ?_
  have happly : (applyFill ex ev).Steps Quiet w := applyFill_quiet
  refine Prog.Steps.bind (quiet_ended happly) fun _ => ?_
  refine Prog.Steps.bind (recordOurs_ended fun r hr => ?_)
    fun _ => quiet_ended afterFill_quiet
  rw [Quiet.getOrder happly]
  exact hrow r hr

/-- No fill takes a terminal status back. -/
theorem handleFill_ended {ev : FillUpdate} :
    (handleFill ex ev).Steps (Ended cid) w := by
  unfold handleFill
  refine Prog.Steps.mem_bind ?_
  split
  · exact Prog.Steps.pure
  refine Prog.Steps.disk_bind ?_
  split
  · exact countFill_ended (by rintro r ⟨⟩)
  next row hrow =>
  split
  · unfold lateFill
    refine Prog.Steps.mem_bind ?_
    refine Prog.Steps.bind (quiet_ended alert_quiet) fun _ => ?_
    refine Prog.Steps.bind
      (updateOrder_ended (fun _ => rfl) fun _ => rfl) fun _ => ?_
    exact Prog.Steps.bind (quiet_ended call_quiet)
      fun _ => quiet_ended adoptAndSettle_quiet
  · refine countFill_ended ?_
    rintro r ⟨⟩
    rw [Db.getOrder_cid hrow]
    exact hrow

end Router

/-! ## The operations -/

section Portfolio

open Portfolio

variable {runId : String} {iid : InstrumentId}
  {w w' : World (Durable V) (Portfolio S)}

/-- What an operation does, and that it keeps the fills of the order's row
where the counters give the next orders new ids. -/
structure Keeping (ex : Executor V) (runId : String) (cid : ClientOrderId)
    (w w' : World (Durable V) (Portfolio S)) : Prop where
  deeds : Deeds ex (fun _ _ => True) w w'
  kept : Numbered runId w → Kept cid w w'

instance : Std.Refl (Keeping (S := S) ex runId cid) :=
  ⟨fun w => ⟨refl_of _ w, fun _ => refl_of _ w⟩⟩

instance : IsTrans _ (Keeping (S := S) ex runId cid) :=
  ⟨fun _ _ _ h h' => ⟨trans_of _ h.deeds h'.deeds, fun hw =>
    trans_of _ (h.kept hw) (h'.kept (h.deeds.numbered hw))⟩⟩

theorem Numbered.free (h : Numbered runId w) (hid : iid ∈ w.mem.ids) :
    w.disk.db.getOrder (nextCid (w.mem.router iid)) = none := by
  have hfree := (h.counts iid hid).next_free
  rw [Db.termsOf, Option.map_eq_none_iff] at hfree
  exact hfree

theorem pfEmit_keeping {a : Alert} :
    (emit w.mem.runId a : Act V (Portfolio S) Unit).Steps
      (Keeping ex runId cid) w :=
  ⟨pfEmit_deeds, fun _ => .of_eq rfl⟩

theorem pfCall_keeping {f : V → Except Exc α × V} :
    (call f : Act V (Portfolio S) α).Steps (Keeping ex runId cid) w :=
  ⟨pfCall_deeds, fun _ => .of_eq rfl⟩

theorem pfMemory_keeping {f : Portfolio S → Portfolio S}
    (h : ((f w.mem).runId, (f w.mem).ids, (f w.mem).router) =
      (w.mem.runId, w.mem.ids, w.mem.router)) :
    (Prog.modifyMem f : Act V (Portfolio S) Unit).Steps
      (Keeping ex runId cid) w :=
  ⟨pfMemory_deeds h, fun _ => .of_eq rfl⟩

/-- A router's method. -/
theorem onRouter_keeping {m : Act V (InstrumentRouter S) α}
    (hid : iid ∈ w.mem.ids) (hmoves : m.Steps (Moves ex firm) (seen w iid))
    (hm : w.disk.db.getOrder (nextCid (w.mem.router iid)) = none →
      m.Steps (Kept cid) (seen w iid)) :
    (onRouter iid m).Steps (Keeping ex runId cid) w :=
  ⟨onRouter_deeds hid hmoves, fun hw => hm (hw.free hid)⟩

theorem forEach_keeping {ι : Type} {xs : List ι}
    {body : ι → Act V (Portfolio S) Unit} (w : World (Durable V) (Portfolio S))
    (h : ∀ x ∈ xs, ∀ w', w'.mem.ids = w.mem.ids →
      (body x).Steps (Keeping ex runId cid) w') :
    (Prog.forEach xs body).Steps (Keeping ex runId cid) w := by
  refine Prog.Steps.forEach
    (fun rest w' => w'.mem.ids = w.mem.ids ∧ ∀ x ∈ rest, x ∈ xs)
    (fun x rest w' hi => ?_) ⟨rfl, fun _ hx => hx⟩
  have hx := h x (hi.2 x (by simp)) w' hi.1
  exact ⟨hx, (Deeds.ids hx.deeds).trans hi.1, fun y hy => hi.2 y (by simp [hy])⟩

theorem forRouters_keeping {m : InstrumentId → Act V (Portfolio S) Unit}
    (h : ∀ iid (w' : World (Durable V) (Portfolio S)), iid ∈ w'.mem.ids →
      (m iid).Steps (Keeping ex runId cid) w') :
    (forRouters m).Steps (Keeping ex runId cid) w := by
  refine Prog.Steps.mem_bind (forEach_keeping w fun iid hid w' hids => ?_)
  exact h iid w' (by rw [hids]; exact hid)

theorem checkFunding_keeping {histories : List (InstrumentId × List Bar)}
    {snapshot : AccountSnapshot} :
    (checkFunding histories snapshot : Act V (Portfolio S) Unit).Steps
      (Keeping ex runId cid) w := by
  unfold checkFunding
  refine forEach_keeping w fun ih _ w' _ => ?_
  obtain ⟨iid, history⟩ := ih
  refine Prog.Steps.mem_bind ?_
  dsimp only
  split
  · refine Prog.Steps.bind (pfMemory_keeping rfl) fun _ => ?_
    split
    · exact Prog.Steps.pure
    split
    · exact Prog.Steps.pure
    split
    · exact Prog.Steps.pure
    · exact pfEmit_keeping
  · exact pfMemory_keeping rfl

theorem pfShutdown_keeping {snapshot : AccountSnapshot}
    {histories : List (InstrumentId × List Bar)} :
    (Portfolio.shutdown ex snapshot histories).Steps
      (Keeping (S := S) ex runId cid) w := by
  unfold Portfolio.shutdown
  refine Prog.Steps.mem_bind ?_
  have hloop : ∀ w' : World (Durable V) (Portfolio S),
      (forRouters fun iid => do
        let pf ← Prog.mem
        let pos := snapshot.position iid
        let mark := shutdownMark (histories.lookup iid) pos
          (pf.router iid).entry
        onRouter iid (InstrumentRouter.shutdown ex mark
          (some ((pos.map PositionView.size).getD 0)))).Steps
        (Keeping (S := S) ex runId cid) w' := fun w' =>
    forRouters_keeping fun iid w₁ hid => Prog.Steps.mem_bind
      ⟨Deeds.one (.shutdown iid hid _ _ trivial),
        fun hw => shutdown_kept (w := seen w₁ iid) (hw.free hid)⟩
  dsimp only
  split
  · exact Prog.Steps.bind pfEmit_keeping fun _ => hloop _
  · exact hloop _

theorem pfOnBar_keeping {histories : List (InstrumentId × List Bar)}
    {kill : KillAction} :
    (Portfolio.onBar ex histories kill).Steps
      (Keeping (S := S) ex runId cid) w := by
  unfold Portfolio.onBar
  refine Prog.Steps.bind pfCall_keeping fun snapshot => ?_
  split
  · exact pfShutdown_keeping
  refine Prog.Steps.bind checkFunding_keeping fun _ => ?_
  refine forEach_keeping _ fun ih _ w' _ => ?_
  obtain ⟨iid, history⟩ := ih
  refine Prog.Steps.mem_bind ?_
  split
  · next h =>
    exact onRouter_keeping h.1
      (onBar_moves.mono fun _ h => h.mono fun _ _ => closing_le_firm)
      fun hfree => onBar_kept (w := seen w' iid) hfree
  · exact Prog.Steps.pure

theorem watchPnl_keeping {snapshot : AccountSnapshot} :
    (watchPnl snapshot : Act V (Portfolio S) Unit).Steps
      (Keeping ex runId cid) w := by
  unfold watchPnl
  refine Prog.Steps.mem_bind ?_
  split
  · exact Prog.Steps.pure
  dsimp only
  split
  · split
    · exact Prog.Steps.bind pfEmit_keeping fun _ => pfMemory_keeping rfl
    · exact pfMemory_keeping rfl
  · exact pfMemory_keeping rfl

theorem pfOnFast_keeping {marks : List (InstrumentId × Decimal)} :
    (Portfolio.onFast ex marks).Steps (Keeping (S := S) ex runId cid) w := by
  unfold Portfolio.onFast
  refine Prog.Steps.bind pfCall_keeping fun snapshot => ?_
  refine Prog.Steps.bind ?_ fun _ => ?_
  · exact forRouters_keeping fun iid w' hid =>
      onRouter_keeping hid checkPending_moves fun _ => checkPending_kept
  refine Prog.Steps.bind ?_ fun _ => ?_
  · refine forEach_keeping _ fun im _ w' _ => ?_
    obtain ⟨iid, mark⟩ := im
    refine Prog.Steps.mem_bind ?_
    split
    · next h =>
      exact onRouter_keeping h onFast_moves
        fun hfree => onFast_kept (w := seen w' iid) hfree
    · exact Prog.Steps.pure
  · exact Prog.Steps.bind watchPnl_keeping fun _ => Prog.Steps.pure

theorem mismatchAlert_keeping {m : Mismatch} {level : Level} {kind : String}
    {extra : List (String × String)} :
    (mismatchAlert ex m level kind extra).Steps
      (Keeping (S := S) ex runId cid) w :=
  Prog.Steps.mem_bind (pfClock_bind pfEmit_keeping)

theorem guardPosition_keeping {m : Mismatch} {iid : InstrumentId}
    {snapshot : AccountSnapshot} :
    (guardPosition ex m iid snapshot).Steps
      (Keeping (S := S) ex runId cid) w := by
  refine ⟨guardPosition_deeds, fun _ => ?_⟩
  -- no statement of it is on the orders table
  have hstop : ∀ (pos : PositionView) (limits : RiskLimits)
      (w : World (Durable V) (Portfolio S)),
      (placeExchangeStop ex pos limits).Steps (Kept cid) w := by
    intro pos limits w
    unfold placeExchangeStop
    split
    · exact Prog.Steps.raise
    · exact Prog.Steps.bind (.of_eq rfl) fun _ => Prog.Steps.pure
  show (guardPosition ex m iid snapshot).Steps (Kept cid) w
  unfold guardPosition
  refine Prog.Steps.mem_bind ?_
  split
  · exact Prog.Steps.raise
  refine Prog.Steps.bind (hstop _ _ _) fun trigger => ?_
  have halerts : ∀ w₁ : World (Durable V) (Portfolio S),
      (mismatchAlert ex m .warn "stop_missing"
          [("trigger", Decimal.str trigger)] >>= fun _ => clock ex >>= fun ts =>
        emit w.mem.runId
          { level := .info, kind := "stop_placed", instrumentId := some iid
            detail := [("trigger", Decimal.str trigger)], ts }).Steps
        (Kept cid) w₁ := fun w₁ => .of_eq rfl
  dsimp only
  split
  · exact Prog.Steps.bind (.of_eq rfl) fun _ => halerts _
  · exact halerts _

theorem respond_keeping {m : Mismatch} {snapshot : AccountSnapshot} :
    (respond ex m snapshot).Steps (Keeping (S := S) ex runId cid) w := by
  unfold respond
  refine Prog.Steps.mem_bind ?_
  split
  · split
    · next hid =>
      exact onRouter_keeping hid
        (halt_moves.mono fun _ h => h.mono fun _ _ hh => hh.1)
        fun _ => quiet_kept halt_quiet
    · exact mismatchAlert_keeping
  · exact Prog.Steps.bind pfCall_keeping fun _ => mismatchAlert_keeping
  · exact guardPosition_keeping
  · split
    · exact Prog.Steps.raise
    · exact Prog.Steps.bind pfCall_keeping fun _ => mismatchAlert_keeping
  · exact mismatchAlert_keeping

theorem reconcile_keeping :
    (reconcile ex).Steps (Keeping (S := S) ex runId cid) w := by
  unfold reconcile
  refine Prog.Steps.bind pfCall_keeping fun snapshot => ?_
  refine Prog.Steps.mem_bind (Prog.Steps.disk_bind (Prog.Steps.disk_bind ?_))
  dsimp only
  refine Prog.Steps.bind ?_ fun _ => ?_
  · refine forEach_keeping _ fun m _ w' _ => ?_
    refine Prog.Steps.catching respond_keeping fun e => ?_
    refine Prog.Steps.mem_bind ?_
    split
    · exact Prog.Steps.raise
    split
    · exact Prog.Steps.pure
    · exact Prog.Steps.bind (pfMemory_keeping rfl)
        fun _ => mismatchAlert_keeping
  · exact Prog.Steps.bind (pfMemory_keeping rfl) fun _ => Prog.Steps.pure

/-- The operation delivers no fill of the order. -/
def Portfolio.Op.OtherThan (cid : ClientOrderId) (op : Op) : Prop :=
  ∀ ev, op = .dispatch (.fill ev) → cid ≠ ev.clientOrderId

/-- Every operation but the fill of the order keeps the fills of its row. -/
theorem perform_keeping {op : Op} (hop : op.OtherThan cid) :
    (perform ex op).Steps (Keeping (S := S) ex runId cid) w := by
  cases op with
  | onBar histories kill => exact pfOnBar_keeping
  | onFast marks =>
      exact Prog.Steps.bind pfOnFast_keeping fun _ => Prog.Steps.pure
  | reconcileNow =>
      exact Prog.Steps.bind reconcile_keeping fun _ => Prog.Steps.pure
  | dispatch ev =>
      cases ev with
      | reconcileNow =>
          exact Prog.Steps.bind reconcile_keeping fun _ => Prog.Steps.pure
      | order ev =>
          exact forRouters_keeping fun iid w' hid =>
            onRouter_keeping hid handleOrderUpdate_moves
              fun _ => handleOrderUpdate_kept
      | fill ev =>
          refine Prog.Steps.mem_bind ?_
          split
          · next hid =>
            exact onRouter_keeping hid handleFill_moves
              fun _ => handleFill_other (hop ev rfl)
          · exact Prog.Steps.pure

/-- The fill of an order whose id has no row. -/
theorem handleFill_unknown {ev : FillUpdate}
    {w : World (Durable V) (InstrumentRouter S)}
    (hrow : w.disk.db.getOrder ev.clientOrderId = none) :
    (handleFill ex ev).Steps (Kept cid) w := by
  unfold handleFill
  refine Prog.Steps.mem_bind ?_
  split
  · exact Prog.Steps.pure
  refine Prog.Steps.disk_bind ?_
  rw [hrow]
  exact countFill_other (by rintro r ⟨⟩)

theorem dispatch_fill_apply {ev : FillUpdate} :
    dispatch ex (.fill ev) w =
      (if ev.instrumentId ∈ w.mem.ids then
        onRouter ev.instrumentId (handleFill ex ev)
      else pure ()) w := rfl

/-- A fill that is not late is accounted for once it was delivered. -/
theorem Db.AccountsFor.filled {ev : FillUpdate} {fs : List FillUpdate}
    {pf : Portfolio S} {d : Durable V}
    (hdb : d.db.AccountsFor ev.clientOrderId fs)
    (hw : Numbered runId ⟨pf, d, []⟩) (hq : 0 < ev.quantity)
    (hlate : ¬ Late ev d.db (pf.router ev.instrumentId)) :
    (dispatch ex (.fill ev) ⟨pf, d, []⟩).2.disk.db.AccountsFor
      ev.clientOrderId (fs ++
        if (d.db.getOrder ev.clientOrderId).isSome ∧ ev.instrumentId ∈ pf.ids
          then [ev] else []) := by
  by_cases hid : ev.instrumentId ∈ pf.ids
  swap
  · have hnothing : (dispatch ex (.fill ev) ⟨pf, d, []⟩).2 = ⟨pf, d, []⟩ := by
      rw [dispatch_fill_apply, if_neg hid]
      rfl
    rw [hnothing, if_neg fun h => hid h.2, List.append_nil]
    exact hdb
  have hdisk : (dispatch ex (.fill ev) ⟨pf, d, []⟩).2.disk =
      (handleFill ex ev (seen ⟨pf, d, []⟩ ev.instrumentId)).2.disk := by
    rw [dispatch_fill_apply, if_pos hid]
    rfl
  rw [hdisk]
  cases hrow : d.db.getOrder ev.clientOrderId with
  | none =>
      rw [if_neg (by simp), List.append_nil]
      exact hdb.kept (handleFill_unknown
        (w := seen ⟨pf, d, []⟩ ev.instrumentId) hrow)
  | some row =>
      rw [if_pos ⟨rfl, hid⟩]
      have hown : ∃ row', (handleFill ex ev
            (seen ⟨pf, d, []⟩ ev.instrumentId)).2.disk.db.getOrder
              ev.clientOrderId = some row' ∧ Accounts (fs ++ [ev]) row' :=
        handleFill_own (hw.running.router _ hid).2.1.symm hrow hlate
          (hdb.row row hrow) hq hdb.positive
      obtain ⟨row', hrow', hacc⟩ := hown
      refine ⟨fun row₁ h₁ => ?_, fun h₁ => ?_, fun f hf => ?_⟩
      · rw [← Option.some.inj (hrow'.symm.trans h₁)]
        exact hacc
      · rw [hrow'] at h₁
        cases h₁
      · rcases List.mem_append.mp hf with hf | hf
        · exact hdb.positive f hf
        · rw [List.mem_singleton.mp hf]
          exact hq

end Portfolio

/-! ## Runs -/

namespace Site

variable {runId : String} {s₀ s s' t : Site V S} {h : Happening V S}
  {ms ds : List (Durable V)} {fs fs₀ : List FillUpdate}
  {may : Site V S → Happening V S → Prop}

/-- The process goes on. -/
def GoesOn : Site V S → Happening V S → Prop
  | _, .perform _ | _, .clearHalt _ | _, .venue _ | _, .strategies _ => True
  | _, _ => False

/-- The fills of the order that a happening delivers to its router, once the
order has a row. -/
def delivered (cid : ClientOrderId) (s : Site V S) :
    Happening V S → List FillUpdate
  | .perform (.dispatch (.fill ev)) =>
      if ev.clientOrderId = cid ∧ (s.disk.db.getOrder cid).isSome ∧
          s.process.any (fun pf => ev.instrumentId ∈ pf.ids) then [ev]
      else []
  | _ => []

/-- A run with the fills delivered for one order, in order. -/
inductive Ledger (ex : Executor V) (runId : String) (cid : ClientOrderId)
    (may : Site V S → Happening V S → Prop) (s₀ : Site V S) :
    List FillUpdate → Site V S → Prop
  | here : Ledger ex runId cid may s₀ [] s₀
  | next {fs : List FillUpdate} {s s' : Site V S} {h : Happening V S}
      {ms : List (Durable V)} (hrun : Ledger ex runId cid may s₀ fs s)
      (hmay : may s h) (hstep : Step ex runId s h ms s') :
      Ledger ex runId cid may s₀ (fs ++ delivered cid s h) s'

/-- The happening is no late fill of the order. -/
def Timely (cid : ClientOrderId) (s : Site V S) (h : Happening V S) : Prop :=
  ∀ ev pf, h = .perform (.dispatch (.fill ev)) → s.process = some pf →
    ev.clientOrderId = cid → ¬ Late ev s.disk.db (pf.router ev.instrumentId)

/-- A happening after which the process goes on leaves a row that accounts for
the fills it delivered too. -/
theorem Step.accounts (hstep : Step ex runId s h ms s') (hgo : GoesOn s h)
    (hfilling : filling s h) (htimely : Timely cid s h)
    (hc : Counted runId s) (hdb : s.disk.db.AccountsFor cid fs) :
    s'.disk.db.AccountsFor cid (fs ++ delivered cid s h) := by
  cases hstep with
  | @perform d pf op =>
      have hnumbered : Numbered runId ⟨pf, d, []⟩ := hc.numbered rfl
      by_cases hop : op.OtherThan cid
      · have hkept : Keeping ex runId cid ⟨pf, d, []⟩ (operating ex d pf op) :=
          perform_keeping hop
        have hnone : delivered cid (⟨d, some pf⟩ : Site V S) (.perform op) =
            [] := by
          unfold delivered
          split
          · next ev heq =>
            injection heq with heq
            exact if_neg fun h => hop ev heq h.1.symm
          · rfl
        rw [hnone, List.append_nil]
        exact hdb.kept (hkept.kept hnumbered)
      · obtain ⟨ev, rfl, rfl⟩ : ∃ ev, op = .dispatch (.fill ev) ∧
            cid = ev.clientOrderId := by
          simpa [Portfolio.Op.OtherThan] using hop
        have hone : delivered ev.clientOrderId (⟨d, some pf⟩ : Site V S)
            (.perform (.dispatch (.fill ev))) =
              if (d.db.getOrder ev.clientOrderId).isSome ∧
                ev.instrumentId ∈ pf.ids then [ev] else [] := by
          simp [delivered]
        rw [hone]
        exact hdb.filled hnumbered (hfilling ev rfl)
          (htimely ev pf rfl rfl rfl)
  | start hstart => exact hgo.elim
  | startCut hstart hcut => exact hgo.elim
  | cut hcut => exact hgo.elim
  | stop => exact hgo.elim
  | @clearHalt d pf j hid =>
      refine (List.append_nil fs).symm ▸ hdb.kept (.of_eq ?_)
      rfl
  | venue v => exact (List.append_nil fs).symm ▸ hdb.kept (.of_eq rfl)
  | strategies states => exact (List.append_nil fs).symm ▸ hdb

/-- No happening after which the process goes on takes a terminal status
back. -/
theorem Step.ended (hstep : Step ex runId s h ms s') (hgo : GoesOn s h)
    (hc : Counted runId s) {row : OrderRow}
    (hrow : s.disk.db.getOrder cid = some row)
    (ht : row.status.terminal = true) :
    ∃ row', s'.disk.db.getOrder cid = some row' ∧
      row'.status.terminal = true := by
  cases hstep with
  | @perform d pf op =>
      have hnumbered : Numbered runId ⟨pf, d, []⟩ := hc.numbered rfl
      by_cases hop : op.OtherThan cid
      · have hkept : Keeping ex runId cid ⟨pf, d, []⟩ (operating ex d pf op) :=
          perform_keeping hop
        exact Kept.ended (hkept.kept hnumbered) row hrow ht
      · obtain ⟨ev, rfl, rfl⟩ : ∃ ev, op = .dispatch (.fill ev) ∧
            cid = ev.clientOrderId := by
          simpa [Portfolio.Op.OtherThan] using hop
        show ∃ row' : OrderRow,
          (Portfolio.dispatch ex (.fill ev) ⟨pf, d, []⟩).2.disk.db.getOrder
            ev.clientOrderId = some row' ∧ row'.status.terminal = true
        rw [dispatch_fill_apply]
        split
        · exact handleFill_ended
            (w := seen ⟨pf, d, []⟩ ev.instrumentId) row hrow ht
        · exact ⟨row, hrow, ht⟩
  | start hstart => exact hgo.elim
  | startCut hstart hcut => exact hgo.elim
  | cut hcut => exact hgo.elim
  | stop => exact hgo.elim
  | clearHalt hid => exact ⟨row, hrow, ht⟩
  | venue v => exact ⟨row, hrow, ht⟩
  | strategies states => exact ⟨row, hrow, ht⟩

/-- **Rows account for their fills.** Whatever a run has done before: while
the process goes on, and no late fill of the order is delivered, its row
holds the sum of the fills delivered and their average price, and once
terminal its status stays terminal. -/
theorem rows_account (hfresh : Fresh runId s₀.disk)
    (h₀ : s₀.process = none) (hrun : Run ex runId anything s₀ ds s)
    (hdb : s.disk.db.AccountsFor cid fs₀)
    (hledger : Ledger ex runId cid
      (fun s h => GoesOn s h ∧ filling s h ∧ Timely cid s h) s fs t) :
    t.disk.db.AccountsFor cid (fs₀ ++ fs) ∧
      ∀ row, s.disk.db.getOrder cid = some row →
        row.status.terminal = true → ∃ row',
          t.disk.db.getOrder cid = some row' ∧
            row'.status.terminal = true := by
  have hc : Counted runId s := (hrun.counted ⟨steady_of_none h₀, hfresh.sound,
    fun pf hpf => by rw [h₀] at hpf; cases hpf⟩).1
  suffices hall : Counted runId t ∧ _ from hall.2
  induction hledger with
  | here =>
      refine ⟨hc, ?_, fun row hrow ht => ⟨row, hrow, ht⟩⟩
      rw [List.append_nil]
      exact hdb
  | next _ hmay hstep ih =>
      obtain ⟨hcount, haccounts, hended⟩ := ih
      obtain ⟨hgo, hfilling, htimely⟩ := hmay
      refine ⟨(hstep.counted hcount).1, ?_, fun row hrow ht => ?_⟩
      · rw [← List.append_assoc]
        exact hstep.accounts hgo hfilling htimely hcount haccounts
      · obtain ⟨row₁, h₁, ht₁⟩ := hended row hrow ht
        exact hstep.ended hgo hcount h₁ ht₁

theorem noTables_fresh : Fresh "run" noTables :=
  ⟨by simp [noTables, Db.empty], by simp [noTables, Db.empty], rfl, rfl⟩

/-- The fill of the order the process bought with. -/
theorem rows_account_filledUp :
    filledUp.disk.db.AccountsFor "run-1-1"
        ([] ++ ([] ++ delivered "run-1-1"
          (⟨bought.disk, some bought.mem⟩ : Site (List ClientOrderId) Unit)
          (.perform (.dispatch (.fill ⟨"run-1-1", 1, .buy, 1, 100, 0, 0⟩))))) ∧
      ∀ row, bought.disk.db.getOrder "run-1-1" = some row →
        row.status.terminal = true → ∃ row',
          filledUp.disk.db.getOrder "run-1-1" = some row' ∧
            row'.status.terminal = true := by
  have hbought : (bought.disk.db.getOrder "run-1-1").map (fun row =>
      (row.filledQuantity, row.avgPrice, row.status.gaveUp)) =
        some (0, none, false) := by
    decide +kernel
  obtain ⟨row, hrow, hfields⟩ := Option.map_eq_some_iff.mp hbought
  simp only [Prod.mk.injEq] at hfields
  obtain ⟨hfilled, havg, hgave⟩ := hfields
  refine rows_account noTables_fresh rfl
    (.next (.next .here trivial firstProcess_step) trivial bought_step)
    ⟨fun row' hrow' => ?_, fun hnone => rfl, nofun⟩
    (.next (h := .perform (.dispatch (.fill ⟨"run-1-1", 1, .buy, 1, 100, 0, 0⟩)))
      .here ⟨trivial, ?_, ?_⟩ filledUp_step)
  · obtain rfl : row = row' := Option.some.inj (hrow.symm.trans hrow')
    exact ⟨hfilled, by rw [havg]; rfl, by rw [havg]; nofun⟩
  · rintro ev ⟨⟩
    decide
  · rintro ev pf ⟨⟩ ⟨⟩ -
    rintro ⟨row', hrow', hg, -⟩
    obtain rfl : row = row' := Option.some.inj (hrow.symm.trans hrow')
    rw [hgave] at hg
    cases hg

/-! ### A fill after both submits timed out -/

section Lost

/-- A venue where no submit is answered, and nothing has landed yet. -/
def unheard : Executor (List ClientOrderId) :=
  { resting with submit := fun _ v => (.error ⟨.executorTimeout, "lost"⟩, v) }

/-- The process that recovers from nothing there. -/
@[irreducible] def begun :
    World (Durable (List ClientOrderId)) (Recovery Unit) :=
  (recovering unheard noTables longRouter).2

/-- That process after a bar on which it tried to buy. -/
@[irreducible] def gaveUp :
    World (Durable (List ClientOrderId)) (Portfolio Unit) :=
  operating unheard begun.disk begun.mem.pf (.onBar [(1, [flatBar])] .run)

/-- And after the order was filled all the same. -/
@[irreducible] def filledLate :
    World (Durable (List ClientOrderId)) (Portfolio Unit) :=
  operating unheard gaveUp.disk gaveUp.mem
    (.dispatch (.fill ⟨"run-1-1", 1, .buy, 1, 100, 0, 0⟩))

theorem begun_step : Step unheard "run" ⟨noTables, none⟩
    (.start longRouter) begun.moments ⟨begun.disk, some begun.mem.pf⟩ := by
  rw [begun]
  exact .started longRouter_started (by decide +kernel)

theorem gaveUp_step : Step unheard "run" ⟨begun.disk, some begun.mem.pf⟩
    (.perform (.onBar [(1, [flatBar])] .run)) gaveUp.moments
    ⟨gaveUp.disk, some gaveUp.mem⟩ := by
  rw [gaveUp]
  exact .perform

theorem filledLate_step : Step unheard "run" ⟨gaveUp.disk, some gaveUp.mem⟩
    (.perform (.dispatch (.fill ⟨"run-1-1", 1, .buy, 1, 100, 0, 0⟩)))
    filledLate.moments ⟨filledLate.disk, some filledLate.mem⟩ := by
  rw [filledLate]
  exact .perform

/-- The row says one contract was filled, at no price. -/
theorem late_fill_unpriced : ¬ ∀ (s t : Site (List ClientOrderId) Unit)
    (ds : List (Durable (List ClientOrderId))) (fs : List FillUpdate),
    Run unheard "run" anything ⟨noTables, none⟩ ds s →
    s.disk.db.AccountsFor "run-1-1" [] →
    Ledger unheard "run" "run-1-1" (fun s h => GoesOn s h ∧ filling s h)
      s fs t →
    t.disk.db.AccountsFor "run-1-1" fs := by
  intro hall
  have hnone : begun.disk.db.getOrder "run-1-1" = none := by decide +kernel
  have hlate : (filledLate.disk.db.getOrder "run-1-1").map (fun row =>
      (row.filledQuantity, row.avgPrice)) = some (1, none) := by
    decide +kernel
  have hbegun : begun.disk.db.AccountsFor "run-1-1" [] := by
    refine ⟨fun row hrow => ?_, fun _ => rfl, nofun⟩
    rw [hnone] at hrow
    cases hrow
  let fill : FillUpdate := ⟨"run-1-1", 1, .buy, 1, 100, 0, 0⟩
  let may : Site (List ClientOrderId) Unit →
      Happening (List ClientOrderId) Unit → Prop :=
    fun s h => GoesOn s h ∧ filling s h
  have hgave : may ⟨begun.disk, some begun.mem.pf⟩
      (.perform (.onBar [(1, [flatBar])] .run)) := by
    refine ⟨trivial, ?_⟩
    rintro ev ⟨⟩
  have hfill : may ⟨gaveUp.disk, some gaveUp.mem⟩
      (.perform (.dispatch (.fill fill))) := by
    refine ⟨trivial, ?_⟩
    rintro ev ⟨⟩
    decide
  obtain ⟨fs, hacc⟩ : ∃ fs, filledLate.disk.db.AccountsFor "run-1-1" fs :=
    ⟨_, hall _ _ _ _ (.next .here trivial begun_step) hbegun
      (.next (.next .here hgave gaveUp_step) hfill filledLate_step)⟩
  obtain ⟨row, hrow, hfields⟩ := Option.map_eq_some_iff.mp hlate
  simp only [Prod.mk.injEq] at hfields
  have hrowacc := hacc.row row hrow
  -- the quantity says there was a fill, the price that there was none
  have hfilled := hrowacc.filled
  have hpriced := hrowacc.priced
  rw [hfields.1] at hfilled
  rw [hfields.2] at hpriced
  cases fs with
  | nil => simp at hfilled
  | cons f fs => cases hpriced

end Lost

end Site

end Polyperps
