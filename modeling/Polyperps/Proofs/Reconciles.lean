import Polyperps.Lib.Dict
import Polyperps.Proofs.RecoveredOrders

/-!
# One reconcile repairs what can be repaired

`diff` names five kinds of mismatch and `_reconcile` answers each: three of the
answers are calls that take the mismatch off the venue, one freezes a router,
one only reports. No answer touches a position, an order row, or a router's
size or entry, and none undoes another, because a stop is placed only where
there is a position and cancelled only where there is none. So what a second
diff can still find is a size or a drifted stop.
-/

namespace Polyperps

open ProgramLogic Portfolio

variable {V S : Type} {ex : Executor V} {runId : String}
  {snap : AccountSnapshot} {m : Mismatch}

/-! ## What a diff finds -/

section Diff

variable {rows : List PositionLocalRow} {known : List ClientOrderId}
  {iid : InstrumentId} {lrow : Option PositionLocalRow} {tolerance : Decimal}

/-- The size a diff compares a row with. -/
def remoteSize (remote : AccountSnapshot) (iid : InstrumentId) : Decimal :=
  ((remotePosition remote iid).map PositionView.size).getD 0

/-- With one entry per instrument, the first and the last view of it are the
same. -/
theorem remotePosition_eq
    (hone : (snap.positions.map PositionView.instrumentId).Nodup)
    (iid : InstrumentId) : remotePosition snap iid = snap.position iid :=
  (@KeyedTable.lookup_perm _ _ _ PositionView.instrumentId _ _
    (List.reverse_perm snap.positions).symm hone iid).symm

theorem remoteSize_eq
    (hone : (snap.positions.map PositionView.instrumentId).Nodup)
    (iid : InstrumentId) : remoteSize snap iid = snap.size iid := by
  rw [remoteSize, remotePosition_eq hone]
  rfl

/-- What a mismatch of an instrument says. -/
theorem of_mem_diffInstrument
    (h : m ∈ diffInstrument lrow snap tolerance iid) :
    m.instrumentId = some iid ∧
      (m.kind = .missingStop ∧ remoteSize snap iid ≠ 0 ∧ snap.stop iid = none ∨
        m.kind = .size ∨ m.kind = .stopDrift) := by
  have hleft : m ∈ (if remoteSize snap iid ≠ 0 ∧ snap.stop iid = none then
      [({ kind := .missingStop, instrumentId := some iid
          localText := decimalText (lrow.bind PositionLocalRow.stopTrigger)
          remoteText := "none" } : Mismatch)] else []) →
      m.instrumentId = some iid ∧
        (m.kind = .missingStop ∧ remoteSize snap iid ≠ 0 ∧
            snap.stop iid = none ∨
          m.kind = .size ∨ m.kind = .stopDrift) := by
    intro hm
    split at hm
    · next hc =>
      rw [List.mem_singleton.mp hm]
      exact ⟨rfl, Or.inl ⟨rfl, hc⟩⟩
    · cases hm
  unfold diffInstrument at h
  dsimp only at h
  split at h
  · exact hleft h
  split at h
  · rcases List.mem_append.mp h with h | h
    · exact hleft h
    · rw [List.mem_singleton.mp h]
      exact ⟨rfl, Or.inr (Or.inl rfl)⟩
  split at h
  · split at h
    · split at h
      · rcases List.mem_append.mp h with h | h
        · exact hleft h
        · rw [List.mem_singleton.mp h]
          exact ⟨rfl, Or.inr (Or.inr rfl)⟩
      · exact hleft h
    · exact hleft h
  · exact hleft h

/-- A position without a stop is found, whatever its row says. -/
theorem missing_mem_diffInstrument (lrow : Option PositionLocalRow)
    (tolerance : Decimal) (hsize : remoteSize snap iid ≠ 0)
    (hstop : snap.stop iid = none) :
    ∃ m ∈ diffInstrument lrow snap tolerance iid,
      m.kind = .missingStop ∧ m.instrumentId = some iid := by
  refine ⟨{ kind := .missingStop, instrumentId := some iid
            localText := decimalText (lrow.bind PositionLocalRow.stopTrigger)
            remoteText := "none" }, ?_, rfl, rfl⟩
  have hc : ((remotePosition snap iid).map PositionView.size).getD 0 ≠ 0 ∧
      snap.stop iid = none := ⟨hsize, hstop⟩
  unfold diffInstrument
  dsimp only
  rw [if_pos hc]
  split
  · simp
  split
  · simp
  split
  · split
    · split <;> simp
    · simp
  · simp

/-- A row that is not waiting and has another size is found. -/
theorem size_mem_diffInstrument (tolerance : Decimal) {row : PositionLocalRow}
    (hpending : row.state.pending = false)
    (hsize : row.size ≠ remoteSize snap iid) :
    ∃ m ∈ diffInstrument (some row) snap tolerance iid,
      m.kind = .size ∧ m.instrumentId = some iid := by
  have hsize' : ((some row).map PositionLocalRow.size).getD 0 ≠
      ((remotePosition snap iid).map PositionView.size).getD 0 := hsize
  refine ⟨{ kind := .size, instrumentId := some iid
            localText := Decimal.str (((some row).map
              PositionLocalRow.size).getD 0)
            remoteText := Decimal.str (((remotePosition snap iid).map
              PositionView.size).getD 0) }, ?_, rfl, rfl⟩
  unfold diffInstrument
  dsimp only
  rw [if_neg (by simp [hpending]), if_pos hsize']
  simp

/-- The kinds of mismatch, each with what it says of the venue. -/
inductive Found (snap : AccountSnapshot) (runId : String)
    (known : List ClientOrderId) (m : Mismatch) : Prop
  | missing (iid : InstrumentId) (hk : m.kind = .missingStop)
      (hi : m.instrumentId = some iid) (hsize : remoteSize snap iid ≠ 0)
      (hstop : snap.stop iid = none)
  | orphan (iid : InstrumentId) (hk : m.kind = .stopWithoutPosition)
      (hi : m.instrumentId = some iid) (hsize : remoteSize snap iid = 0)
      (hstop : (snap.stop iid).isSome)
  | unknown (hk : m.kind = .unknownOrder)
      (hopen : m.remoteText ∈ snap.openOrders)
      (hnot : ¬ (ownedBy runId m.remoteText = true ∧ m.remoteText ∈ known))
  | size (iid : InstrumentId) (hk : m.kind = .size)
      (hi : m.instrumentId = some iid)
  | drift (hk : m.kind = .stopDrift)

theorem stop_isSome {iid : InstrumentId} {trigger : Decimal}
    (h : (iid, trigger) ∈ snap.stops) : (snap.stop iid).isSome := by
  rw [AccountSnapshot.stop, Option.isSome_iff_ne_none]
  exact KeyedTable.mem_keys_iff.mp (List.mem_map.mpr ⟨_, h, rfl⟩)

theorem of_mem_diff (h : m ∈ diff rows snap runId known tolerance) :
    Found snap runId known m := by
  unfold diff at h
  rcases List.mem_append.mp h with h | h
  · rcases List.mem_append.mp h with h | h
    · obtain ⟨iid, -, hm⟩ := List.mem_flatMap.mp h
      obtain ⟨hi, ⟨hk, hsize, hstop⟩ | hk | hk⟩ := of_mem_diffInstrument hm
      · exact .missing iid hk hi hsize hstop
      · exact .size iid hk hi
      · exact .drift hk
    · obtain ⟨⟨iid, trigger⟩, hst, rfl⟩ := List.mem_map.mp h
      obtain ⟨hmem, hsize⟩ := List.mem_filter.mp hst
      exact .orphan iid rfl rfl (of_decide_eq_true hsize) (stop_isSome hmem)
  · obtain ⟨oid, ho, rfl⟩ := List.mem_map.mp h
    obtain ⟨hopen, hnot⟩ := List.mem_filter.mp ho
    refine .unknown rfl hopen fun hk => ?_
    simp [hk.1, hk.2] at hnot

theorem mem_of_remoteSize (h : remoteSize snap iid ≠ 0) :
    iid ∈ snap.positions.map PositionView.instrumentId := by
  rw [remoteSize] at h
  cases hp : remotePosition snap iid with
  | none => rw [hp] at h; exact absurd rfl h
  | some p =>
      rw [remotePosition] at hp
      refine List.mem_map.mpr ⟨p, ?_, by simpa using List.find?_some hp⟩
      exact List.mem_reverse.mp (List.mem_of_find?_eq_some hp)

theorem missing_mem_diff (hsize : remoteSize snap iid ≠ 0)
    (hstop : snap.stop iid = none) :
    ∃ m ∈ diff rows snap runId known tolerance,
      m.kind = .missingStop ∧ m.instrumentId = some iid := by
  obtain ⟨m, hm, hkind⟩ := missing_mem_diffInstrument
    (rows.find? fun r => r.instrumentId = iid) tolerance hsize hstop
  refine ⟨m, ?_, hkind⟩
  unfold diff
  refine List.mem_append_left _ (List.mem_append_left _ ?_)
  refine List.mem_flatMap.mpr ⟨iid, ?_, hm⟩
  rw [List.mem_insertionSort, List.mem_dedup]
  exact List.mem_append_right _ (mem_of_remoteSize hsize)

theorem size_mem_diff {row : PositionLocalRow}
    (hrow : rows.find? (fun r => r.instrumentId = iid) = some row)
    (hpending : row.state.pending = false)
    (hsize : row.size ≠ remoteSize snap iid) :
    ∃ m ∈ diff rows snap runId known tolerance,
      m.kind = .size ∧ m.instrumentId = some iid := by
  obtain ⟨m, hm, hkind⟩ := size_mem_diffInstrument tolerance
    hpending hsize
  refine ⟨m, ?_, hkind⟩
  unfold diff
  refine List.mem_append_left _ (List.mem_append_left _ ?_)
  refine List.mem_flatMap.mpr ⟨iid, ?_, by rw [hrow]; exact hm⟩
  rw [List.mem_insertionSort, List.mem_dedup]
  refine List.mem_append_left _ (List.mem_map.mpr ⟨row, ?_, ?_⟩)
  · exact List.mem_of_find?_eq_some hrow
  · simpa using List.find?_some hrow

theorem orphan_mem_diff (hsize : remoteSize snap iid = 0)
    (hstop : (snap.stop iid).isSome) :
    ∃ m ∈ diff rows snap runId known tolerance,
      m.kind = .stopWithoutPosition ∧ m.instrumentId = some iid := by
  obtain ⟨trigger, htrigger⟩ := Option.isSome_iff_exists.mp hstop
  have hmem : (iid, trigger) ∈ snap.stops := by
    rw [AccountSnapshot.stop] at htrigger
    obtain ⟨l, r, hlr, -⟩ := List.lookup_eq_some_iff.mp htrigger
    rw [hlr]
    simp
  refine ⟨{ kind := .stopWithoutPosition, instrumentId := some iid
            localText := "none", remoteText := Decimal.str trigger }, ?_, rfl,
    rfl⟩
  unfold diff
  refine List.mem_append_left _ (List.mem_append_right _ ?_)
  exact List.mem_map.mpr ⟨(iid, trigger),
    List.mem_filter.mpr ⟨hmem, decide_eq_true hsize⟩, rfl⟩

theorem unknown_mem_diff {cid : ClientOrderId} (hopen : cid ∈ snap.openOrders)
    (hnot : ¬ (ownedBy runId cid = true ∧ cid ∈ known)) :
    ∃ m ∈ diff rows snap runId known tolerance,
      m.kind = .unknownOrder ∧ m.remoteText = cid := by
  refine ⟨{ kind := .unknownOrder, instrumentId := none
            localText := "none", remoteText := cid }, ?_, rfl, rfl⟩
  unfold diff
  refine List.mem_append_right _ (List.mem_map.mpr ⟨cid,
    List.mem_filter.mpr ⟨hopen, ?_⟩, rfl⟩)
  by_cases howned : ownedBy runId cid = true
  · have hk : cid ∉ known := fun hk => hnot ⟨howned, hk⟩
    simp [hk]
  · simp [howned]

end Diff

/-! ## What the answers do -/

/-- What the venue holds of the account that a diff looks at. -/
structure Account where
  positions : List PositionView
  stop : InstrumentId → Option Decimal
  resting : Set ClientOrderId

namespace Account

/-- The account a snapshot shows. -/
def shown (snap : AccountSnapshot) : Account :=
  ⟨snap.positions, snap.stop, {cid | cid ∈ snap.openOrders}⟩

def setStop (a : Account) (iid : InstrumentId) (trigger : Option Decimal) :
    Account := { a with stop := Function.update a.stop iid trigger }

def cancelled (a : Account) (cid : ClientOrderId) : Account :=
  { a with resting := a.resting \ {cid} }

/-- The signed size of an instrument. -/
def size (a : Account) (iid : InstrumentId) : Decimal :=
  ((a.positions.find? fun p => p.instrumentId = iid).map
    PositionView.size).getD 0

end Account

/-- A venue whose account can be read, and where placing a stop, cancelling
one and cancelling an order succeed and take effect. -/
structure RepairVenue (ex : Executor V) (account : V → Account) : Prop where
  named : ex.name ≠ "shadow"
  snapshot : ∀ v, ∃ snap, (ex.snapshot v).1 = .ok snap ∧
    Account.shown snap = account v ∧ account (ex.snapshot v).2 = account v
  placeStop : ∀ iid trigger v, (ex.placeStop iid trigger v).1 = .ok () ∧
    account (ex.placeStop iid trigger v).2 =
      (account v).setStop iid (some trigger)
  cancelStop : ∀ iid v, (ex.cancelStop iid v).1 = .ok () ∧
    account (ex.cancelStop iid v).2 = (account v).setStop iid none
  cancel : ∀ cid v, (ex.cancel cid v).1 = .ok () ∧
    account (ex.cancel cid v).2 = (account v).cancelled cid

/-- The orders a diff takes for known. -/
def knownOrders (runId : String) (db : Db) : List ClientOrderId :=
  ((db.listOrders runId).filter fun o => !o.status.terminal).map
    OrderRow.clientOrderId

/-- What no answer of a reconcile touches. -/
structure Undisturbed (w w' : World (Durable V) (Portfolio S)) : Prop where
  runId : w'.mem.runId = w.mem.runId
  ids : w'.mem.ids = w.mem.ids
  orders : w'.disk.db.orders = w.disk.db.orders
  size : ∀ iid, (w'.mem.router iid).size = (w.mem.router iid).size
  entry : ∀ iid, (w'.mem.router iid).entry = (w.mem.router iid).entry
  frozen : ∀ iid, (w.mem.router iid).state.frozen = true →
    (w'.mem.router iid).state.frozen = true

section Answers

variable {w w' w'' : World (Durable V) (Portfolio S)} {account : V → Account}
  {iid : InstrumentId}

theorem Undisturbed.refl : Undisturbed w w :=
  ⟨rfl, rfl, rfl, fun _ => rfl, fun _ => rfl, fun _ h => h⟩

theorem Undisturbed.trans (h : Undisturbed w w') (h' : Undisturbed w' w'') :
    Undisturbed w w'' where
  runId := h'.runId.trans h.runId
  ids := h'.ids.trans h.ids
  orders := h'.orders.trans h.orders
  size := fun iid => (h'.size iid).trans (h.size iid)
  entry := fun iid => (h'.entry iid).trans (h.entry iid)
  frozen := fun iid hf => h'.frozen iid (h.frozen iid hf)

/-- What leaves the routers and the order rows alone. -/
theorem Undisturbed.of_routers (hrun : w'.mem.runId = w.mem.runId)
    (hids : w'.mem.ids = w.mem.ids) (hrouter : w'.mem.router = w.mem.router)
    (horders : w'.disk.db.orders = w.disk.db.orders) : Undisturbed w w' :=
  ⟨hrun, hids, horders, fun _ => by rw [hrouter], fun _ => by rw [hrouter],
    fun _ h => by rw [hrouter]; exact h⟩

theorem Undisturbed.alerted {a : Alert} {runId : String} :
    Undisturbed w (wrote w (w.disk.db.insertAlert runId a)) :=
  .of_routers rfl rfl rfl rfl

theorem Undisturbed.awaited {v : V} : Undisturbed w (called w v) :=
  .of_routers rfl rfl rfl rfl

/-- A change of one router that keeps its size and entry, and leaves no frozen
state. -/
theorem Undisturbed.routed {r : World (Durable V) (InstrumentRouter S)}
    (hsize : r.mem.size = (w.mem.router iid).size)
    (hentry : r.mem.entry = (w.mem.router iid).entry)
    (hfrozen : (w.mem.router iid).state.frozen = true →
      r.mem.state.frozen = true)
    (horders : r.disk.db.orders = w.disk.db.orders) :
    Undisturbed w (putBack w iid r) := by
  have hrouter : ∀ j, (putBack w iid r).mem.router j =
      if j = iid then r.mem else w.mem.router j := fun _ => rfl
  refine ⟨rfl, rfl, horders, fun j => ?_, fun j => ?_, fun j hj => ?_⟩
  · rw [hrouter]
    split
    · next h => rw [h]; exact hsize
    · rfl
  · rw [hrouter]
    split
    · next h => rw [h]; exact hentry
    · rfl
  · rw [hrouter]
    split
    · next h => rw [h] at hj; exact hfrozen hj
    · exact hj

theorem wp_mismatchAlert {level : Level} {kind : String}
    {extra : List (String × String)}
    {Q : Unit → World (Durable V) (Portfolio S) → Prop}
    {E : Exc → World (Durable V) (Portfolio S) → Prop} :
    Prog.wp (mismatchAlert ex m level kind extra) Q E w =
      Q () (wrote w (w.disk.db.insertAlert w.mem.runId
        { level, kind, instrumentId := m.instrumentId
          detail := [("local", m.localText), ("remote", m.remoteText)] ++ extra
          ts := ex.clock w.disk.venue })) := rfl

/-- A call that answers. -/
theorem wp_call_ok {α μ : Type} {f : V → Except Exc α × V} {a : α}
    {w : World (Durable V) μ} {Q : α → World (Durable V) μ → Prop}
    {E : Exc → World (Durable V) μ → Prop}
    (h : (f w.disk.venue).1 = .ok a)
    (hQ : Q a (Polyperps.called w (f w.disk.venue).2)) :
    Prog.wp (call f : Act V μ α) Q E w := by
  rw [wp_call]
  cases hf : f w.disk.venue with
  | mk r v =>
      rw [hf] at h hQ
      dsimp only at h hQ ⊢
      rw [h]
      exact hQ

/-- The answer to a size: the router, if there is one, is frozen. -/
theorem respond_size (hk : m.kind = .size) (hi : m.instrumentId = some iid) :
    Prog.wp (respond ex m snap)
      (fun _ w' => Undisturbed w w' ∧ w'.disk.venue = w.disk.venue ∧
        (iid ∈ w.mem.ids → (w'.mem.router iid).state.frozen = true))
      (fun _ _ => False) w := by
  unfold respond
  rw [Prog.wp_bind, Prog.wp_mem, hk, hi]
  dsimp only
  rw [Prog.wp_ite]
  split
  · rw [onRouter, Prog.wp_focus, InstrumentRouter.halt, Prog.wp_bind,
      Prog.wp_mem, Prog.wp_ite]
    split
    · next hf =>
      refine ⟨Undisturbed.routed (r := seen w iid) rfl rfl id rfl, rfl,
        fun _ => ?_⟩
      rw [setRouter_self]
      exact hf
    · simp only [Prog.wp_bind, wp_alert, Prog.wp_modifyMem, wp_setState]
      refine ⟨Undisturbed.routed (r := entered _ _ _) rfl rfl (fun _ => rfl)
        rfl, rfl, fun _ => ?_⟩
      rw [setRouter_self]
      rfl
  · next hid =>
    rw [wp_mismatchAlert]
    exact ⟨.alerted, rfl, fun h => absurd h hid⟩

/-- The answer to an unknown order: it is cancelled. -/
theorem respond_unknown (hv : RepairVenue ex account)
    (hk : m.kind = .unknownOrder) :
    Prog.wp (respond ex m snap)
      (fun _ w' => Undisturbed w w' ∧ account w'.disk.venue =
        (account w.disk.venue).cancelled m.remoteText)
      (fun _ _ => False) w := by
  unfold respond
  rw [Prog.wp_bind, Prog.wp_mem, hk]
  dsimp only
  rw [Prog.wp_bind]
  have hc := hv.cancel m.remoteText w.disk.venue
  refine wp_call_ok hc.1 ?_
  rw [wp_mismatchAlert]
  exact ⟨Undisturbed.awaited.trans .alerted, hc.2⟩

/-- The answer to a stop without a position: it is cancelled. -/
theorem respond_orphan (hv : RepairVenue ex account)
    (hk : m.kind = .stopWithoutPosition) (hi : m.instrumentId = some iid) :
    Prog.wp (respond ex m snap)
      (fun _ w' => Undisturbed w w' ∧ account w'.disk.venue =
        (account w.disk.venue).setStop iid none)
      (fun _ _ => False) w := by
  unfold respond
  rw [Prog.wp_bind, Prog.wp_mem, hk, hi]
  dsimp only
  rw [if_neg hv.named, Prog.wp_bind]
  have hc := hv.cancelStop iid w.disk.venue
  refine wp_call_ok hc.1 ?_
  rw [wp_mismatchAlert]
  exact ⟨Undisturbed.awaited.trans .alerted, hc.2⟩

/-- A router that takes down its new stop is otherwise undisturbed. -/
theorem noteStop {trigger : Decimal} :
    Prog.wp (onRouter iid (do
        Prog.modifyMem fun r => { r with stopTrigger := some trigger }
        InstrumentRouter.persist ex))
      (fun _ w' => Undisturbed w w' ∧ w'.disk.venue = w.disk.venue)
      (fun _ _ => False) w := by
  rw [onRouter, Prog.wp_focus, Prog.wp_bind, Prog.wp_modifyMem, wp_persist]
  exact ⟨Undisturbed.routed (r := wrote { mem := _, disk := _, past := _ } _)
    rfl rfl id rfl, rfl⟩

/-- The answer to a position without a stop: one is placed. -/
theorem respond_missing (hv : RepairVenue ex account)
    (hk : m.kind = .missingStop) (hi : m.instrumentId = some iid)
    {pos : PositionView} (hpos : snap.position iid = some pos)
    (hentry : 0 < pos.entryPrice) :
    Prog.wp (respond ex m snap)
      (fun _ w' => Undisturbed w w' ∧ ∃ trigger, account w'.disk.venue =
        (account w.disk.venue).setStop iid (some trigger))
      (fun _ _ => False) w := by
  have hid : pos.instrumentId = iid := by
    simpa using List.find?_some hpos
  unfold respond
  rw [Prog.wp_bind, Prog.wp_mem, hk, hi]
  dsimp only
  rw [guardPosition, Prog.wp_bind, Prog.wp_mem, hpos]
  dsimp only
  rw [Prog.wp_bind, placeExchangeStop, if_neg (not_le.mpr hentry),
    Prog.wp_bind]
  generalize (if iid ∈ w.mem.ids then (w.mem.router iid).limits
    else limitsDefault) = limits
  have hc := hv.placeStop iid (stopPrice (decide (0 < pos.size))
    pos.entryPrice limits) w.disk.venue
  rw [hid]
  refine wp_call_ok hc.1 ?_
  rw [Prog.wp_pure]
  rw [Prog.wp_ite]
  split
  · rw [Prog.wp_bind]
    refine Prog.wp_mono noteStop (fun _ w₁ h₁ => ?_) fun _ _ h => h
    simp only [Prog.wp_bind, wp_mismatchAlert, wp_clock, wp_emit]
    refine ⟨Undisturbed.awaited.trans (h₁.1.trans
      (Undisturbed.alerted.trans .alerted)),
      stopPrice (decide (0 < pos.size)) pos.entryPrice limits, ?_⟩
    simp only [wrote_venue, h₁.2]
    exact hc.2
  · simp only [Prog.wp_bind, wp_mismatchAlert, wp_clock, wp_emit]
    exact ⟨Undisturbed.awaited.trans (Undisturbed.alerted.trans .alerted), _,
      hc.2⟩

/-- The answer to a drifted stop is an alert. -/
theorem respond_drift (hk : m.kind = .stopDrift) :
    Prog.wp (respond ex m snap)
      (fun _ w' => Undisturbed w w' ∧ w'.disk.venue = w.disk.venue)
      (fun _ _ => False) w := by
  unfold respond
  rw [Prog.wp_bind, Prog.wp_mem, hk]
  dsimp only
  rw [wp_mismatchAlert]
  exact ⟨.alerted, rfl⟩

/-! ## The loop over the mismatches -/

/-- Where a reconcile from `w₀` stands, with the mismatches `rest` still to be
answered: whatever is not repaired yet is among them. -/
structure Repairing (account : V → Account) (snap : AccountSnapshot)
    (w₀ : World (Durable V) (Portfolio S)) (rest : List Mismatch)
    (w : World (Durable V) (Portfolio S)) : Prop where
  kept : Undisturbed w₀ w
  positions : (account w.disk.venue).positions = snap.positions
  guarded : ∀ iid, snap.size iid ≠ 0 →
    ((account w.disk.venue).stop iid).isSome ∨
      ∃ m ∈ rest, m.kind = .missingStop ∧ m.instrumentId = some iid
  unguarded : ∀ iid, snap.size iid = 0 →
    (account w.disk.venue).stop iid = none ∨
      ∃ m ∈ rest, m.kind = .stopWithoutPosition ∧ m.instrumentId = some iid
  resting : ∀ cid ∈ (account w.disk.venue).resting,
    (ownedBy w₀.mem.runId cid = true ∧
      cid ∈ knownOrders w₀.mem.runId w₀.disk.db) ∨
      ∃ m ∈ rest, m.kind = .unknownOrder ∧ m.remoteText = cid
  frozen : ∀ iid ∈ w₀.mem.ids, ∀ row,
    w₀.disk.db.positionLocal w₀.mem.runId iid = some row →
    row.state.pending = false → row.size ≠ snap.size iid →
    (w.mem.router iid).state.frozen = true ∨
      ∃ m ∈ rest, m.kind = .size ∧ m.instrumentId = some iid
  found : ∀ m ∈ rest, Found snap w₀.mem.runId
    (knownOrders w₀.mem.runId w₀.disk.db) m

variable {w₀ : World (Durable V) (Portfolio S)} {rest : List Mismatch}

/-- A mismatch still due after the first of them was answered: it is the
first, or it is due. -/
theorem due_cons {P : Mismatch → Prop} {A : Prop}
    (h : A ∨ ∃ x ∈ m :: rest, P x) : A ∨ P m ∨ ∃ x ∈ rest, P x := by
  rcases h with h | ⟨x, hx, hp⟩
  · exact Or.inl h
  · rcases List.mem_cons.mp hx with rfl | hx
    · exact Or.inr (Or.inl hp)
    · exact Or.inr (Or.inr ⟨x, hx, hp⟩)

/-- A mismatch answered with nothing but alerts, or by freezing a router. -/
theorem Repairing.reported
    (h : Repairing account snap w₀ (m :: rest) w) (hw : Undisturbed w w')
    (hvenue : w'.disk.venue = w.disk.venue)
    (hkind : m.kind ≠ .missingStop ∧ m.kind ≠ .stopWithoutPosition ∧
      m.kind ≠ .unknownOrder)
    (hsize : ∀ iid, m.kind = .size → m.instrumentId = some iid →
      iid ∈ w.mem.ids → (w'.mem.router iid).state.frozen = true) :
    Repairing account snap w₀ rest w' where
  kept := h.kept.trans hw
  positions := by rw [hvenue]; exact h.positions
  guarded := by
    intro iid hne
    rw [hvenue]
    rcases due_cons (h.guarded iid hne) with h | h | h
    · exact Or.inl h
    · exact absurd h.1 hkind.1
    · exact Or.inr h
  unguarded := by
    intro iid hzero
    rw [hvenue]
    rcases due_cons (h.unguarded iid hzero) with h | h | h
    · exact Or.inl h
    · exact absurd h.1 hkind.2.1
    · exact Or.inr h
  resting := by
    intro cid hcid
    rw [hvenue] at hcid
    rcases due_cons (h.resting cid hcid) with h | h | h
    · exact Or.inl h
    · exact absurd h.1 hkind.2.2
    · exact Or.inr h
  frozen := by
    intro iid hid row hrow hpending hne
    rcases due_cons (h.frozen iid hid row hrow hpending hne) with h₁ | h₁ | h₁
    · exact Or.inl (hw.frozen iid h₁)
    · exact Or.inl (hsize iid h₁.1 h₁.2 (by rw [h.kept.ids]; exact hid))
    · exact Or.inr h₁
  found := fun x hx => h.found x (List.mem_cons_of_mem m hx)

/-- A mismatch of a stop answered by setting it. -/
theorem Repairing.stopSet {iid : InstrumentId} {trigger : Option Decimal}
    (h : Repairing account snap w₀ (m :: rest) w) (hw : Undisturbed w w')
    (haccount : account w'.disk.venue =
      (account w.disk.venue).setStop iid trigger)
    (hi : m.instrumentId = some iid)
    (hkind : m.kind = .missingStop ∨ m.kind = .stopWithoutPosition)
    (htrigger : if snap.size iid = 0 then trigger = none
      else trigger.isSome = true) :
    Repairing account snap w₀ rest w' where
  kept := h.kept.trans hw
  positions := by rw [haccount]; exact h.positions
  guarded := by
    intro j hne
    rw [haccount, Account.setStop]
    dsimp only
    by_cases hj : j = iid
    · rw [hj] at hne ⊢
      rw [if_neg hne] at htrigger
      rw [Function.update_self]
      exact Or.inl htrigger
    · rw [Function.update_of_ne hj]
      rcases due_cons (h.guarded j hne) with h | h | h
      · exact Or.inl h
      · exact absurd (Option.some.inj (h.2.symm.trans hi)) hj
      · exact Or.inr h
  unguarded := by
    intro j hzero
    rw [haccount, Account.setStop]
    dsimp only
    by_cases hj : j = iid
    · rw [hj] at hzero ⊢
      rw [if_pos hzero] at htrigger
      rw [Function.update_self]
      exact Or.inl htrigger
    · rw [Function.update_of_ne hj]
      rcases due_cons (h.unguarded j hzero) with h | h | h
      · exact Or.inl h
      · exact absurd (Option.some.inj (h.2.symm.trans hi)) hj
      · exact Or.inr h
  resting := by
    intro cid hcid
    rw [haccount] at hcid
    rcases due_cons (h.resting cid hcid) with h | h | h
    · exact Or.inl h
    · rcases hkind with hk | hk <;> rw [hk] at h <;> cases h.1
    · exact Or.inr h
  frozen := by
    intro j hid row hrow hpending hne
    rcases due_cons (h.frozen j hid row hrow hpending hne) with h | h | h
    · exact Or.inl (hw.frozen j h)
    · rcases hkind with hk | hk <;> rw [hk] at h <;> cases h.1
    · exact Or.inr h
  found := fun x hx => h.found x (List.mem_cons_of_mem m hx)

/-- An unknown order answered by cancelling it. -/
theorem Repairing.cancelled
    (h : Repairing account snap w₀ (m :: rest) w) (hw : Undisturbed w w')
    (haccount : account w'.disk.venue =
      (account w.disk.venue).cancelled m.remoteText)
    (hk : m.kind = .unknownOrder) : Repairing account snap w₀ rest w' where
  kept := h.kept.trans hw
  positions := by rw [haccount]; exact h.positions
  guarded := by
    intro j hne
    rw [haccount]
    rcases due_cons (h.guarded j hne) with h | h | h
    · exact Or.inl h
    · rw [hk] at h; cases h.1
    · exact Or.inr h
  unguarded := by
    intro j hzero
    rw [haccount]
    rcases due_cons (h.unguarded j hzero) with h | h | h
    · exact Or.inl h
    · rw [hk] at h; cases h.1
    · exact Or.inr h
  resting := by
    intro cid hcid
    rw [haccount] at hcid
    rcases due_cons (h.resting cid hcid.1) with h | h | h
    · exact Or.inl h
    · exact absurd h.2.symm hcid.2
    · exact Or.inr h
  frozen := by
    intro j hid row hrow hpending hne
    rcases due_cons (h.frozen j hid row hrow hpending hne) with h | h | h
    · exact Or.inl (hw.frozen j h)
    · rw [hk] at h; cases h.1
    · exact Or.inr h
  found := fun x hx => h.found x (List.mem_cons_of_mem m hx)

/-- One turn of the loop. -/
theorem Repairing.respond (hv : RepairVenue ex account)
    (hone : (snap.positions.map PositionView.instrumentId).Nodup)
    (hentry : ∀ p ∈ snap.positions, p.size ≠ 0 → 0 < p.entryPrice)
    (h : Repairing account snap w₀ (m :: rest) w) :
    Prog.wp (respond ex m snap)
      (fun _ w' => Repairing account snap w₀ rest w') (fun _ _ => False)
      w := by
  cases h.found m List.mem_cons_self with
  | missing iid hk hi hsize hstop =>
      rw [remoteSize_eq hone] at hsize
      obtain ⟨pos, hpos⟩ : ∃ pos, snap.position iid = some pos := by
        cases hp : snap.position iid with
        | none => rw [AccountSnapshot.size, hp] at hsize; exact absurd rfl hsize
        | some pos => exact ⟨pos, rfl⟩
      have hpe : 0 < pos.entryPrice := by
        refine hentry pos (List.mem_of_find?_eq_some hpos) ?_
        rw [AccountSnapshot.size, hpos] at hsize
        exact hsize
      refine Prog.wp_mono (respond_missing hv hk hi hpos hpe) ?_ fun _ _ h => h
      rintro - w' ⟨hw, trigger, hacc⟩
      refine h.stopSet hw hacc hi (Or.inl hk) ?_
      rw [if_neg hsize]
      rfl
  | orphan iid hk hi hsize hstop =>
      rw [remoteSize_eq hone] at hsize
      refine Prog.wp_mono (respond_orphan hv hk hi) ?_ fun _ _ h => h
      rintro - w' ⟨hw, hacc⟩
      refine h.stopSet hw hacc hi (Or.inr hk) ?_
      rw [if_pos hsize]
  | unknown hk hopen hnot =>
      refine Prog.wp_mono (respond_unknown hv hk) ?_ fun _ _ h => h
      rintro - w' ⟨hw, hacc⟩
      exact h.cancelled hw hacc hk
  | size iid hk hi =>
      refine Prog.wp_mono (respond_size hk hi) ?_ fun _ _ h => h
      rintro - w' ⟨hw, hvenue, hfrozen⟩
      refine h.reported hw hvenue (by rw [hk]; simp) fun j _ hj hid => ?_
      rw [hi] at hj
      rw [← Option.some.inj hj] at hid ⊢
      exact hfrozen hid
  | drift hk =>
      refine Prog.wp_mono (respond_drift hk) ?_ fun _ _ h => h
      rintro - w' ⟨hw, hvenue⟩
      exact h.reported hw hvenue (by rw [hk]; simp)
        fun _ hsize => by rw [hk] at hsize; cases hsize

/-- What one reconcile leaves. -/
structure Repaired (ex : Executor V) (account : V → Account)
    (w w' : World (Durable V) (Portfolio S)) : Prop where
  /-- What a second diff against a fresh snapshot still finds. -/
  again : ∀ snap, (ex.snapshot w'.disk.venue).1 = .ok snap →
    ∀ m ∈ diff (w'.disk.db.getPositionsLocal w.mem.runId) snap w.mem.runId
      (knownOrders w.mem.runId w'.disk.db), m.kind = .size ∨ m.kind = .stopDrift
  guarded : ∀ iid, (account w'.disk.venue).size iid ≠ 0 →
    ((account w'.disk.venue).stop iid).isSome
  unguarded : ∀ iid, (account w'.disk.venue).size iid = 0 →
    (account w'.disk.venue).stop iid = none
  orders : ∀ cid ∈ (account w'.disk.venue).resting, ∃ o ∈ w'.disk.db.orders,
    o.clientOrderId = cid ∧ o.runId = w.mem.runId ∧ o.status.terminal = false
  frozen : ∀ iid ∈ w.mem.ids, ∀ row,
    w.disk.db.positionLocal w.mem.runId iid = some row →
    row.state.pending = false →
    row.size ≠ (account w.disk.venue).size iid →
      (w'.mem.router iid).state.frozen = true
  size : ∀ iid, (w'.mem.router iid).size = (w.mem.router iid).size
  entry : ∀ iid, (w'.mem.router iid).entry = (w.mem.router iid).entry

theorem of_mem_knownOrders {runId : String} {db : Db} {cid : ClientOrderId}
    (h : cid ∈ knownOrders runId db) : ∃ o ∈ db.orders,
      o.clientOrderId = cid ∧ o.runId = runId ∧ o.status.terminal = false := by
  obtain ⟨o, ho, rfl⟩ := List.mem_map.mp h
  obtain ⟨hmem, hlive⟩ := List.mem_filter.mp ho
  obtain ⟨horders, hrun⟩ := mem_listOrders.mp hmem
  exact ⟨o, horders, rfl, hrun, by simpa using hlive⟩

theorem knownOrders_eq {runId : String} {db db' : Db}
    (h : db'.orders = db.orders) :
    knownOrders runId db' = knownOrders runId db := by
  rw [knownOrders, Db.listOrders, h]
  rfl

/-- With nothing left to answer, everything is repaired. -/
theorem Repairing.repaired (hv : RepairVenue ex account)
    (hone : (snap.positions.map PositionView.instrumentId).Nodup)
    (hvenue : (account w₀.disk.venue).positions = snap.positions)
    (h : Repairing account snap w₀ [] w) : Repaired ex account w₀ w := by
  have hsize : ∀ iid, (account w.disk.venue).size iid = snap.size iid := by
    intro iid
    rw [Account.size, h.positions]
    rfl
  have hguarded : ∀ iid, snap.size iid ≠ 0 →
      ((account w.disk.venue).stop iid).isSome :=
    fun iid hne => (h.guarded iid hne).resolve_right (by simp)
  have hunguarded : ∀ iid, snap.size iid = 0 →
      (account w.disk.venue).stop iid = none :=
    fun iid hzero => (h.unguarded iid hzero).resolve_right (by simp)
  have hresting : ∀ cid ∈ (account w.disk.venue).resting,
      ownedBy w₀.mem.runId cid = true ∧
        cid ∈ knownOrders w₀.mem.runId w₀.disk.db :=
    fun cid hcid => (h.resting cid hcid).resolve_right (by simp)
  refine ⟨fun snap' hsnap' m hm => ?_, fun iid hne => ?_, fun iid hzero => ?_,
    fun cid hcid => ?_, fun iid hid row hrow hpending hne => ?_, h.kept.size,
    h.kept.entry⟩
  · obtain ⟨snap'', hok, hshown, -⟩ := hv.snapshot w.disk.venue
    obtain rfl : snap' = snap'' := Except.ok.inj (hsnap'.symm.trans hok)
    have hpos : snap'.positions = snap.positions :=
      (congrArg Account.positions hshown).trans h.positions
    have hstop : ∀ iid, snap'.stop iid = (account w.disk.venue).stop iid :=
      fun iid => congrFun (congrArg Account.stop hshown) iid
    have hremote : ∀ iid, remoteSize snap' iid = snap.size iid := by
      intro iid
      rw [remoteSize_eq (by rw [hpos]; exact hone), AccountSnapshot.size,
        AccountSnapshot.position, hpos]
      rfl
    cases of_mem_diff hm with
    | missing iid hk hi hne hnone =>
        rw [hremote] at hne
        have hsome := hguarded iid hne
        rw [← hstop, hnone] at hsome
        cases hsome
    | orphan iid hk hi hzero hsome =>
        rw [hremote] at hzero
        rw [hstop, hunguarded iid hzero] at hsome
        cases hsome
    | unknown hk hopen hnot =>
        have hrest : m.remoteText ∈ (account w.disk.venue).resting := by
          rw [← hshown]
          exact hopen
        rw [knownOrders_eq h.kept.orders] at hnot
        exact absurd (hresting _ hrest) hnot
    | size iid hk hi => exact Or.inl hk
    | drift hk => exact Or.inr hk
  · rw [hsize] at hne
    exact hguarded iid hne
  · rw [hsize] at hzero
    exact hunguarded iid hzero
  · rw [h.kept.orders]
    exact of_mem_knownOrders (hresting cid hcid).2
  · refine (h.frozen iid hid row hrow hpending ?_).resolve_right (by simp)
    rw [Account.size, hvenue] at hne
    exact hne

/-- A diff finds everything there is to repair. -/
theorem Repairing.start {w₁ : World (Durable V) (Portfolio S)}
    (hone : (snap.positions.map PositionView.instrumentId).Nodup)
    (hshown : Account.shown snap = account w₁.disk.venue)
    (hkept : Undisturbed w₀ w₁) :
    Repairing account snap w₀
      (diff (w₀.disk.db.getPositionsLocal w₀.mem.runId) snap w₀.mem.runId
        (knownOrders w₀.mem.runId w₀.disk.db)) w₁ where
  kept := hkept
  positions := by rw [← hshown]; rfl
  guarded := by
    intro iid hne
    rw [← hshown]
    cases hstop : snap.stop iid with
    | some trigger =>
        refine Or.inl ?_
        show (snap.stop iid).isSome = true
        rw [hstop]
        rfl
    | none =>
        rw [← remoteSize_eq hone] at hne
        exact Or.inr (missing_mem_diff hne hstop)
  unguarded := by
    intro iid hzero
    rw [← hshown]
    cases hstop : snap.stop iid with
    | none => exact Or.inl hstop
    | some trigger =>
        rw [← remoteSize_eq hone] at hzero
        exact Or.inr (orphan_mem_diff hzero (by rw [hstop]; rfl))
  resting := by
    intro cid hcid
    rw [← hshown] at hcid
    by_cases hk : ownedBy w₀.mem.runId cid = true ∧
        cid ∈ knownOrders w₀.mem.runId w₀.disk.db
    · exact Or.inl hk
    · exact Or.inr (unknown_mem_diff hcid hk)
  frozen := by
    intro iid _ row hrow hpending hne
    rw [← remoteSize_eq hone] at hne
    rw [← find_getPositionsLocal] at hrow
    exact Or.inr (size_mem_diff hrow hpending hne)
  found := fun _ hm => of_mem_diff hm

end Answers

/-- One reconcile returns, and leaves nothing to repair. -/
theorem reconcile_repairs {account : V → Account}
    (hv : RepairVenue ex account) (w : World (Durable V) (Portfolio S))
    (hone : ((account w.disk.venue).positions.map
      PositionView.instrumentId).Nodup)
    (hentry : ∀ p ∈ (account w.disk.venue).positions, p.size ≠ 0 →
      0 < p.entryPrice) :
    ∃ found w', reconcile ex w = (.ok found, w') ∧
      Repaired ex account w w' := by
  obtain ⟨snap, hsnap, hshown, hsame⟩ := hv.snapshot w.disk.venue
  have hpos : (account w.disk.venue).positions = snap.positions := by
    rw [← hshown]
    rfl
  rw [hpos] at hone hentry
  refine Prog.wp_returns (E := fun _ _ => False) ?_ fun _ _ h => h
  unfold reconcile
  rw [Prog.wp_bind]
  refine wp_call_ok hsnap ?_
  generalize hw₁ : called w (ex.snapshot w.disk.venue).2 = w₁
  have hkept : Undisturbed w w₁ := by rw [← hw₁]; exact .awaited
  have hdb : w₁.disk.db = w.disk.db := by rw [← hw₁]; rfl
  have hacc : Account.shown snap = account w₁.disk.venue := by
    rw [← hw₁, hshown]
    exact hsame.symm
  simp only [Prog.wp_bind, Prog.wp_mem, Prog.wp_disk]
  rw [hkept.runId, hdb]
  refine Prog.wp_mono (Prog.wp_forEach (E := fun _ _ => False)
    (fun rest w' => Repairing account snap w rest w') ?_
    (Repairing.start hone hacc hkept)) ?_ fun _ _ h => h
  · intro m rest w' h
    rw [Prog.wp_catching]
    exact Prog.wp_mono (h.respond hv hone hentry) (fun _ _ h => h)
      fun _ _ h => h.elim
  · intro _ w' h
    rw [Prog.wp_modifyMem, Prog.wp_pure]
    -- the list of refusals reported is the portfolio's own business
    exact Repairing.repaired hv hone hpos
      ⟨h.kept.trans (.of_routers rfl rfl rfl rfl), h.positions, h.guarded,
        h.unguarded, h.resting, h.frozen, h.found⟩

/-! ### An account that is wrong in every way -/

/-- A venue that is its own account. -/
def holding : Executor AccountSnapshot where
  name := "live"
  submit req v := (.ok ⟨req.clientOrderId, none, .accepted, "", 0⟩,
    { v with openOrders := v.openOrders ++ [req.clientOrderId] })
  cancel cid v := (.ok (),
    { v with openOrders := v.openOrders.filter (· ≠ cid) })
  placeStop iid trigger v := (.ok (),
    { v with
      stops := (iid, trigger) :: v.stops.filter fun st => st.1 ≠ iid })
  cancelStop iid v := (.ok (),
    { v with stops := v.stops.filter fun st => st.1 ≠ iid })
  snapshot v := (.ok v, v)
  clock v := v.ts

theorem holding_repairs : RepairVenue holding Account.shown where
  named := by decide
  snapshot := fun v => ⟨v, rfl, rfl, rfl⟩
  placeStop := by
    refine fun iid trigger v => ⟨rfl, ?_⟩
    simp only [holding, Account.shown, Account.setStop, Account.mk.injEq,
      true_and, and_true]
    funext j
    rw [AccountSnapshot.stop, List.lookup_cons, KeyedTable.lookup_erase,
      Function.update_apply]
    by_cases hj : j = iid
    · rw [hj, beq_self_eq_true]
      exact (if_pos rfl).symm
    · rw [beq_eq_false_iff_ne.mpr hj, if_neg hj, if_neg hj]
      rfl
  cancelStop := by
    refine fun iid v => ⟨rfl, ?_⟩
    simp only [holding, Account.shown, Account.setStop, Account.mk.injEq,
      true_and, and_true]
    funext j
    rw [AccountSnapshot.stop, KeyedTable.lookup_erase, Function.update_apply]
    rfl
  cancel := by
    refine fun cid v => ⟨rfl, ?_⟩
    simp only [holding, Account.shown, Account.cancelled, Account.mk.injEq,
      true_and]
    refine ⟨rfl, ?_⟩
    ext x
    simp

/-- A position of instrument 1 that its row has at another size and no stop
guards, a stop on instrument 2 where there is no position, and an order no row
knows. -/
def disordered : World (Durable AccountSnapshot) (Portfolio Unit) where
  mem := Site.longRouter.pf
  disk :=
    { db := { Db.empty with
        positionsLocal := [⟨"run", 1, .opened, 2, some 100, none, 0, 0⟩] }
      venue :=
        { equity := 1000
          positions := [⟨1, 3, 100, 300, 1, none, 0, 0⟩]
          openOrders := ["run-1-7"], stops := [(2, 50)]
          inLiquidation := false, ts := 0 }
      submitted := [], refusedDecisions := [] }
  past := []

theorem reconcile_repairs_disordered :
    ∃ found w', reconcile holding disordered = (.ok found, w') ∧
      Repaired holding Account.shown disordered w' :=
  reconcile_repairs holding_repairs disordered (by decide)
    (by simp [disordered, Account.shown])

end Polyperps
