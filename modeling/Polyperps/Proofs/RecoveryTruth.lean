import Polyperps.Proofs.HaltSurvives

/-!
# Recovery establishes the exchange's truth

On a venue that takes every stop and cancel, `recover` returns, and then every
router is what the venue says: its size, its entry price and the stop that
guards it. Its state is the frozen one of its row, or the pending one of an
order that still rests, or follows from the size, and its row says the same.
Every other position of the venue has a stop too.
-/

namespace Polyperps

open ProgramLogic InstrumentRouter
open Recovery (frozenRow held)

variable {V S : Type} {ex : Executor V} {runId : String} {iid : InstrumentId}

/-- A venue that takes every stop and every cancel; `stop` is the stop it has
for an instrument, and its snapshots show it. -/
structure StopVenue (ex : Executor V)
    (stop : V → InstrumentId → Option Decimal) : Prop where
  snapshot : ∀ v snap, (ex.snapshot v).1 = .ok snap → ∀ iid,
    snap.stop iid = stop v iid ∧ stop (ex.snapshot v).2 iid = stop v iid
  placeStop : ∀ iid trigger v, (ex.placeStop iid trigger v).1 = .ok () ∧
    ∀ j, stop (ex.placeStop iid trigger v).2 j =
      if j = iid then some trigger else stop v j
  cancel : ∀ cid v, (ex.cancel cid v).1 = .ok () ∧
    ∀ j, stop (ex.cancel cid v).2 j = stop v j

/-- An order of the instrument that was in flight rests on the venue, and the
instrument's row was waiting for one. -/
structure Waits (runId : String) (snap : AccountSnapshot) (d : Durable V)
    (iid : InstrumentId) : Prop where
  rests : ∃ o ∈ d.db.orders, o.runId = runId ∧ o.instrumentId = iid ∧
    o.status.inFlight = true ∧ o.clientOrderId ∈ snap.openOrders
  row : ∃ row, d.db.positionLocal runId iid = some row ∧
    row.state.pending = true

/-- The router `r` and the disk `d` a recovery from the disk `d₀` leaves for an
instrument. -/
structure Established (stop : V → InstrumentId → Option Decimal)
    (runId : String) (snap : AccountSnapshot) (d₀ : Durable V)
    (iid : InstrumentId) (r : InstrumentRouter S) (d : Durable V) : Prop where
  size : r.size = snap.size iid
  entry : r.entry = (held snap iid).map PositionView.entryPrice
  stopTrigger : r.stopTrigger = (held snap iid).bind fun _ => stop d.venue iid
  frozen : ∀ row, d₀.db.positionLocal runId iid = some row →
    row.state.frozen = true → r.state = row.state
  waiting : Waits runId snap d₀ iid →
    some r.state = (d₀.db.positionLocal runId iid).map PositionLocalRow.state
  settled : frozenRow (d₀.db.positionLocal runId iid) = false →
    ¬ Waits runId snap d₀ iid →
      (r.state = .opened ↔ r.size ≠ 0) ∧ (r.state = .flat ↔ r.size = 0)
  persisted : ∃ ts, d.db.positionLocal runId iid = some (r.localRow ts)

section Venue

variable {stop : V → InstrumentId → Option Decimal} {snap : AccountSnapshot}

theorem guarded_stop (hv : StopVenue ex stop) (due : Option Decimal) (v : V)
    (j : InstrumentId) :
    stop (guarded ex iid due v) j =
      if j = iid then due.or (stop v j) else stop v j := by
  cases due with
  | none =>
      show stop v j = _
      split <;> rfl
  | some trigger => exact (hv.placeStop iid trigger v).2 j

/-- A nonzero position is one that is held. -/
theorem held_isSome : (held snap iid).isSome ↔ snap.size iid ≠ 0 := by
  unfold held AccountSnapshot.size
  cases snap.position iid with
  | none => simp
  | some pos => simp [Option.filter]

theorem held_size : ((held snap iid).map PositionView.size).getD 0 =
    snap.size iid := by
  unfold held AccountSnapshot.size
  cases snap.position iid with
  | none => rfl
  | some pos =>
      rw [Option.filter]
      split
      · rfl
      · next h =>
          have hzero : pos.size = 0 := by simpa using h
          exact hzero.symm

/-- With one entry per instrument, the position found is the one listed. -/
theorem held_of_mem (hone : (snap.positions.map PositionView.instrumentId).Nodup)
    {pos : PositionView} (hpos : pos ∈ snap.positions) (h : pos.size ≠ 0) :
    held snap pos.instrumentId = some pos := by
  have hfind : snap.position pos.instrumentId = some pos :=
    (KeyedTable.lookup_eq_some_iff hone).mpr ⟨hpos, rfl⟩
  rw [held, hfind, Option.filter, if_pos (by simpa using h)]

end Venue

/-! ## The loops -/

section Loops

variable {stop : V → InstrumentId → Option Decimal} {snap : AccountSnapshot}
  {c₀ : Recovery S} {d₀ d d' : Durable V} {r : InstrumentRouter S}
  {w w' : World (Durable V) (Recovery S)}

/-- The state a turn of the router loop gives. -/
def settledState (snap : AccountSnapshot) (row : Option PositionLocalRow)
    (iid : InstrumentId) : State :=
  if frozenRow row then (row.map PositionLocalRow.state).getD .flat
  else if (held snap iid).isSome then .opened else .flat

/-- A router between its turn and the end of recovery: it is what the venue
says, in the state of its turn or waiting again for an order that rests. -/
structure Took (stop : V → InstrumentId → Option Decimal) (runId : String)
    (snap : AccountSnapshot) (d₀ : Durable V) (iid : InstrumentId)
    (r : InstrumentRouter S) (d : Durable V) : Prop where
  size : r.size = snap.size iid
  entry : r.entry = (held snap iid).map PositionView.entryPrice
  stopTrigger : r.stopTrigger = (held snap iid).bind fun _ => stop d.venue iid
  guarded : (held snap iid).isSome → (stop d.venue iid).isSome
  state : r.state = settledState snap (d₀.db.positionLocal runId iid) iid ∨
    Waits runId snap d₀ iid ∧ some r.state =
      (d₀.db.positionLocal runId iid).map PositionLocalRow.state
  persisted : ∃ ts, d.db.positionLocal runId iid = some (r.localRow ts)

/-- What leaves the instrument's stop and row alone. -/
theorem Took.frame (h : Took stop runId snap d₀ iid r d)
    (hstop : stop d'.venue iid = stop d.venue iid)
    (hrow : d'.db.positionLocal runId iid = d.db.positionLocal runId iid) :
    Took stop runId snap d₀ iid r d' where
  size := h.size
  entry := h.entry
  stopTrigger := by rw [hstop]; exact h.stopTrigger
  guarded := by rw [hstop]; exact h.guarded
  state := h.state
  persisted := by rw [hrow]; exact h.persisted

/-- The positions whose guard is still to be looked at. -/
def Stage.unguarded (snap : AccountSnapshot) : Stage → List PositionView
  | .routers _ => snap.positions
  | .unknown rest => rest
  | _ => []

/-- The orders still to be looked at. -/
def Stage.left (orders : List OrderRow) : Stage → List OrderRow
  | .routers _ | .unknown _ => orders
  | .orders rest => rest
  | .foreign _ => []

/-- Where recovery stands. -/
structure Establishing (stop : V → InstrumentId → Option Decimal)
    (runId : String) (snap : AccountSnapshot) (c₀ : Recovery S)
    (d₀ : Durable V) (st : Stage) (w : World (Durable V) (Recovery S)) :
    Prop where
  orders : (∀ rest, st ≠ .orders rest) → (∀ rest, st ≠ .foreign rest) →
    w.disk.db.orders = d₀.db.orders
  took : ∀ j ∈ c₀.pf.ids, j ∉ st.todo →
    Took stop runId snap d₀ j (w.mem.pf.router j) w.disk
  untouched : ∀ j ∈ st.todo, stop w.disk.venue j = snap.stop j
  kept : ∀ j, (snap.stop j).isSome → (stop w.disk.venue j).isSome
  unguarded : ∀ pos ∈ snap.positions, pos.size ≠ 0 →
    pos.instrumentId ∉ c₀.pf.ids → pos ∈ st.unguarded snap ∨
      (stop w.disk.venue pos.instrumentId).isSome
  listed : ∀ pos ∈ st.unguarded snap, pos ∈ snap.positions
  left : ∀ j ∈ c₀.pf.ids, j ∉ st.todo → ∀ o ∈ d₀.db.listOrders runId,
    o.instrumentId = j → o.status.inFlight = true →
    o.clientOrderId ∈ snap.openOrders → ∀ row,
    d₀.db.positionLocal runId j = some row → row.state.pending = true →
      o ∈ st.left (d₀.db.listOrders runId) ∨
        (w.mem.pf.router j).state = row.state
  due : ∀ o ∈ st.left (d₀.db.listOrders runId), o ∈ d₀.db.listOrders runId

/-- The fields a turn takes from the venue. -/
theorem taken_position (snap : AccountSnapshot)
    (row : Option PositionLocalRow) (tables : Db) (iid : InstrumentId)
    (r : InstrumentRouter S) :
    let r' := taken snap row tables iid r
    r'.size = snap.size iid ∧
      r'.entry = (held snap iid).map PositionView.entryPrice ∧
      r'.stopTrigger = (held snap iid).map (fun pos =>
        (snap.stop iid).getD
          (stopPrice (decide (0 < pos.size)) pos.entryPrice r.limits)) := by
  rw [← held_size]
  unfold taken takenFrom
  have hl := loaded_limits row tables r
  cases held snap iid with
  | none => exact ⟨rfl, rfl, rfl⟩
  | some pos =>
      rw [← hl]
      exact ⟨rfl, rfl, rfl⟩

/-- The stop of a position that had its turn is the venue's. -/
theorem taken_stop (hv : StopVenue ex stop) (row : Option PositionLocalRow)
    (tables : Db) (r : InstrumentRouter S) {v : V}
    (h : stop v iid = snap.stop iid) :
    (taken snap row tables iid r).stopTrigger =
      (held snap iid).bind fun _ =>
        stop (guarded ex iid (stopDue snap iid r.limits) v) iid := by
  rw [(taken_position snap row tables iid r).2.2, guarded_stop hv, if_pos rfl,
    stopDue, h]
  cases held snap iid with
  | none => rfl
  | some pos => cases snap.stop iid <;> rfl

/-- One turn of the router loop. -/
theorem Turned.establishing {j : InstrumentId} {rest : List InstrumentId}
    (hv : StopVenue ex stop)
    (h : Turned ex snap (d₀.db.positionLocal runId j) j w w')
    (ha : Adopting runId c₀ d₀.db (j :: rest) w)
    (he : Establishing stop runId snap c₀ d₀ (.routers (j :: rest)) w) :
    Establishing stop runId snap c₀ d₀ (.routers rest) w' := by
  obtain ⟨w₁, now, halong, hdisk, -⟩ := h.written
  have hsame : SameTables w.disk w₁.disk := halong.between.1
  have hnj := (List.nodup_cons.mp ha.nodup).1
  have hstop : ∀ k, k ≠ j → stop w'.disk.venue k = stop w.disk.venue k := by
    intro k hk
    rw [h.venue, guarded_stop hv, if_neg hk]
  have hr := taken_same snap (d₀.db.positionLocal runId j) w.disk.db j
    (w.mem.pf.router j)
  have hpos := taken_position snap (d₀.db.positionLocal runId j) w.disk.db j
    (w.mem.pf.router j)
  have hst := taken_state snap (d₀.db.positionLocal runId j) w.disk.db j
    (w.mem.pf.router j)
  have hstopj := taken_stop hv (d₀.db.positionLocal runId j) w.disk.db
    (w.mem.pf.router j) (he.untouched j List.mem_cons_self)
  rw [← h.venue] at hstopj
  have hpf := h.pf
  generalize taken snap (d₀.db.positionLocal runId j) w.disk.db j
    (w.mem.pf.router j) = r at *
  have hrun : r.runId = runId := hr.1.trans (ha.identity j).1
  have hid : r.instrumentId = j := hr.2.1.trans (ha.identity j).2
  have hrow : w'.disk.db.positionLocal runId j = some (r.localRow now) := by
    rw [hdisk, ← hrun, ← hid]
    exact Db.positionLocal_upsertPositionLocal_self (p := r.localRow now)
  have hother : ∀ k, k ≠ j → w'.disk.db.positionLocal runId k =
      w.disk.db.positionLocal runId k := by
    intro k hk
    rw [hdisk]
    refine (Db.positionLocal_upsertPositionLocal_ne ?_).trans
      hsame.positionLocal
    intro heq
    exact hk ((Prod.mk.inj heq).2.trans hid)
  have hself : w'.mem.pf.router j = r := by
    rw [hpf, Portfolio.setRouter_self]
  have hrest : ∀ k, k ≠ j → w'.mem.pf.router k = w.mem.pf.router k := by
    intro k hk
    rw [hpf, Portfolio.setRouter_of_ne hk]
  have hnot : ∀ k, k ∉ rest → k ≠ j → k ∉ j :: rest := by
    intro k hk hkj hmem
    rcases List.mem_cons.mp hmem with heq | hmem
    · exact hkj heq
    · exact hk hmem
  refine ⟨fun _ _ => ?_, fun k hk hn => ?_, fun k hk => ?_, fun k hk => ?_,
    fun pos hp hne hu => Or.inl hp, he.listed, fun k hk hn => ?_, he.due⟩
  · rw [hdisk]
    exact hsame.orders.trans (he.orders nofun nofun)
  · by_cases hkj : k = j
    · subst hkj
      rw [hself]
      refine ⟨hpos.1, hpos.2.1, hstopj, fun hheld => ?_, Or.inl ?_, now, hrow⟩
      · rw [hpos.2.2] at hstopj
        obtain ⟨pos, hpos⟩ := Option.isSome_iff_exists.mp hheld
        rw [hpos] at hstopj
        exact Option.isSome_iff_exists.mpr ⟨_, hstopj.symm⟩
      rw [hst]
      unfold settledState
      cases hd : d₀.db.positionLocal runId k <;> rfl
    · rw [hrest k hkj]
      exact (he.took k hk (hnot k hn hkj)).frame (hstop k hkj) (hother k hkj)
  · have hkj : k ≠ j := fun heq => hnj (heq ▸ hk)
    rw [hstop k hkj]
    exact he.untouched k (List.mem_cons_of_mem j hk)
  · by_cases hkj : k = j
    · subst hkj
      rw [h.venue, guarded_stop hv, if_pos rfl]
      have := he.kept k hk
      cases stopDue snap k (w.mem.pf.router k).limits with
      | none => exact this
      | some _ => rfl
    · rw [hstop k hkj]
      exact he.kept k hk
  · intro o ho _ _ _ row _ _
    exact Or.inl ho

/-- What leaves the tables, the routers and the stops of the routers'
instruments alone. -/
theorem Establishing.next {st st' : Stage}
    (he : Establishing stop runId snap c₀ d₀ st w)
    (hsame : SameTables w.disk w'.disk) (hpf : w'.mem.pf = w.mem.pf)
    (hstop : ∀ j ∈ c₀.pf.ids, stop w'.disk.venue j = stop w.disk.venue j)
    (hkept : ∀ j, (stop w.disk.venue j).isSome →
      (stop w'.disk.venue j).isSome)
    (htodo : st'.todo = st.todo) (hsub : ∀ j ∈ st.todo, j ∈ c₀.pf.ids)
    (horders : (∀ rest, st' ≠ .orders rest) → (∀ rest, st' ≠ .foreign rest) →
      (∀ rest, st ≠ .orders rest) ∧ ∀ rest, st ≠ .foreign rest)
    (hguard : ∀ pos ∈ st.unguarded snap, pos.size ≠ 0 →
      pos.instrumentId ∉ c₀.pf.ids → pos ∈ st'.unguarded snap ∨
        (stop w'.disk.venue pos.instrumentId).isSome)
    (hlisted : ∀ pos ∈ st'.unguarded snap, pos ∈ st.unguarded snap)
    (hleft : ∀ o ∈ st.left (d₀.db.listOrders runId),
      o ∈ st'.left (d₀.db.listOrders runId))
    (hdue : ∀ o ∈ st'.left (d₀.db.listOrders runId),
      o ∈ d₀.db.listOrders runId) :
    Establishing stop runId snap c₀ d₀ st' w' where
  orders := by
    intro h1 h2
    obtain ⟨h1, h2⟩ := horders h1 h2
    exact hsame.orders.trans (he.orders h1 h2)
  took := by
    rw [htodo, hpf]
    exact fun j hj hn =>
      (he.took j hj hn).frame (hstop j hj) hsame.positionLocal
  untouched := by
    rw [htodo]
    exact fun j hj => (hstop j (hsub j hj)).trans (he.untouched j hj)
  kept := fun j hj => hkept j (he.kept j hj)
  unguarded := by
    intro pos hp hne hu
    rcases he.unguarded pos hp hne hu with h | h
    · exact hguard pos h hne hu
    · exact Or.inr (hkept _ h)
  listed := fun pos hp => he.listed pos (hlisted pos hp)
  left := by
    rw [htodo, hpf]
    intro j hj hn o ho h1 h2 h3 row h4 h5
    exact (he.left j hj hn o ho h1 h2 h3 row h4 h5).imp_left (hleft o)
  due := hdue

/-- One turn of the unknown-position loop. -/
theorem Guarded.establishing {pos : PositionView} {rest : List PositionView}
    (hv : StopVenue ex stop) (h : Guarded ex snap pos w w')
    (hids : w.mem.pf.ids = c₀.pf.ids)
    (he : Establishing stop runId snap c₀ d₀ (.unknown (pos :: rest)) w) :
    Establishing stop runId snap c₀ d₀ (.unknown rest) w' := by
  have hstop : ∀ j, stop w'.disk.venue j =
      if j = pos.instrumentId then
        (unknownDue snap w.mem.pf.ids pos).or (stop w.disk.venue j)
      else stop w.disk.venue j := by
    intro j
    rw [h.venue, guarded_stop hv]
  refine he.next h.along.between.1 h.pf (fun j hj => ?_) (fun j hj => ?_) rfl
    nofun (fun _ _ => ⟨nofun, nofun⟩) (fun x hx hne hu => ?_)
    (fun x hx => List.mem_cons_of_mem pos hx) (fun o ho => ho) he.due
  · rw [hstop]
    split
    · next heq =>
        rw [unknownDue, if_pos (Or.inr (by rw [hids, ← heq]; exact hj))]
        rfl
    · rfl
  · rw [hstop]
    split
    · cases unknownDue snap w.mem.pf.ids pos with
      | none => exact hj
      | some _ => rfl
    · exact hj
  · rcases List.mem_cons.mp hx with rfl | hx
    · right
      have hdue : ¬ (x.size = 0 ∨ x.instrumentId ∈ w.mem.pf.ids) := by
        rw [hids]
        exact not_or.mpr ⟨hne, hu⟩
      rw [hstop, if_pos rfl, unknownDue, if_neg hdue]
      split
      · rfl
      · next hsnap =>
          have hs := he.kept x.instrumentId (Option.isSome_iff_ne_none.mpr hsnap)
          exact hs
    · exact Or.inl hx

/-- Giving up a place in the order loop. -/
theorem Establishing.leave {o : OrderRow} {rest : List OrderRow}
    (he : Establishing stop runId snap c₀ d₀ (.orders (o :: rest)) w)
    (hpf : w'.mem.pf = w.mem.pf) (hvenue : w'.disk.venue = w.disk.venue)
    (hrows : w'.disk.db.positionsLocal = w.disk.db.positionsLocal)
    (hleft : o.instrumentId ∈ c₀.pf.ids → o.status.inFlight = true →
      o.clientOrderId ∈ snap.openOrders → ∀ row,
      d₀.db.positionLocal runId o.instrumentId = some row →
        row.state.pending = true → False) :
    Establishing stop runId snap c₀ d₀ (.orders rest) w' where
  orders := fun h => absurd rfl (h rest)
  took := by
    rw [hpf]
    intro j hj hn
    refine (he.took j hj hn).frame (by rw [hvenue]) ?_
    rw [Db.positionLocal, Db.positionLocal, hrows]
  untouched := nofun
  kept := by rw [hvenue]; exact he.kept
  unguarded := by rw [hvenue]; exact he.unguarded
  listed := nofun
  left := by
    rw [hpf]
    intro j hj hn x hx h1 h2 h3 row h4 h5
    rcases he.left j hj hn x hx h1 h2 h3 row h4 h5 with hmem | h
    · rcases List.mem_cons.mp hmem with rfl | hmem
      · exact (hleft (h1 ▸ hj) h2 h3 row (h1 ▸ h4) h5).elim
      · exact Or.inl hmem
    · exact Or.inr h
  due := fun x hx => he.due x (List.mem_cons_of_mem o hx)

/-- One turn of the order loop. -/
theorem Classified.establishing {o : OrderRow} {rest : List OrderRow}
    {rows : List PositionLocalRow}
    (hrows : ∀ j, rows.find? (fun r => r.instrumentId = j) =
      d₀.db.positionLocal runId j)
    (h : Classified ex snap rows o w w') (ha : Adopting runId c₀ d₀.db [] w)
    (he : Establishing stop runId snap c₀ d₀ (.orders (o :: rest)) w) :
    Establishing stop runId snap c₀ d₀ (.orders rest) w' := by
  cases h with
  | done h =>
      refine he.leave rfl rfl rfl fun _ hflight => ?_
      rw [h] at hflight
      cases hflight
  | relabelled rep status h hstatus hno =>
      refine he.leave rfl rfl rfl fun hid _ hrests row hrow hp => ?_
      have hnone := hno hrests
      rw [restoredState, ha.ids, if_pos hid, hrows, hrow, Option.map_some,
        Option.filter, if_pos hp] at hnone
      cases hnone
  | restored rep st r db h hrests hst hr hdb =>
      -- the row that waited, and the router that waits again
      rw [restoredState, ha.ids] at hst
      split at hst
      swap
      · cases hst
      next hid =>
      rw [hrows, Option.filter_eq_some_iff] at hst
      obtain ⟨hmap, hp⟩ := hst
      obtain ⟨row, hrow, hrst⟩ := Option.map_eq_some_iff.mp hmap
      have hrun : r.runId = runId := by rw [hr]; exact (ha.identity _).1
      have hrid : r.instrumentId = o.instrumentId := by
        rw [hr]; exact (ha.identity _).2
      have hstate : r.state = row.state := by rw [hr, hrst]; rfl
      have hmem : o ∈ d₀.db.listOrders runId := he.due o List.mem_cons_self
      rw [Db.listOrders, List.mem_insertionSort, List.mem_filter] at hmem
      have hwaits : Waits runId snap d₀ o.instrumentId :=
        ⟨⟨o, hmem.1, of_decide_eq_true hmem.2, rfl, h, hrests⟩,
          row, hrow, by rw [hrst]; exact hp⟩
      have hself : db.positionLocal runId o.instrumentId =
          some (r.localRow (ex.clock w.disk.venue)) := by
        rw [hdb, ← hrun, ← hrid]
        exact Db.positionLocal_upsertPositionLocal_self
          (p := r.localRow (ex.clock w.disk.venue))
      have hother : ∀ j, j ≠ o.instrumentId → db.positionLocal runId j =
          w.disk.db.positionLocal runId j := by
        intro j hj
        rw [hdb]
        refine Db.positionLocal_upsertPositionLocal_ne fun heq => ?_
        exact hj ((Prod.mk.inj heq).2.trans hrid)
      refine ⟨fun h => absurd rfl (h rest), fun j hj hn => ?_,
        fun _ h => absurd h List.not_mem_nil, he.kept, he.unguarded,
        fun _ h => absurd h List.not_mem_nil, fun j hj hn x hx h1 h2 h3 row' h4 h5 => ?_,
        fun x hx => he.due x (List.mem_cons_of_mem o hx)⟩
      · have htook := he.took j hj List.not_mem_nil
        show Took stop runId snap d₀ j
          ((w.mem.pf.setRouter o.instrumentId r).router j)
          { w.disk with db := _ }
        by_cases hjo : j = o.instrumentId
        · subst hjo
          rw [Portfolio.setRouter_self]
          refine ⟨?_, ?_, ?_, htook.guarded, Or.inr ⟨hwaits, ?_⟩, _, hself⟩
          · rw [hr]; exact htook.size
          · rw [hr]; exact htook.entry
          · rw [hr]; exact htook.stopTrigger
          · rw [hstate, hrow]; rfl
        · rw [Portfolio.setRouter_of_ne hjo]
          exact htook.frame rfl (hother j hjo)
      · show x ∈ rest ∨
          ((w.mem.pf.setRouter o.instrumentId r).router j).state = row'.state
        by_cases hjo : j = o.instrumentId
        · subst hjo
          rw [Portfolio.setRouter_self, hstate]
          rw [hrow] at h4
          exact Or.inr (congrArg PositionLocalRow.state (Option.some.inj h4))
        · rw [Portfolio.setRouter_of_ne hjo]
          rcases he.left j hj List.not_mem_nil x hx h1 h2 h3 row' h4 h5 with
            hmem | h
          · rcases List.mem_cons.mp hmem with rfl | hmem
            · exact absurd h1.symm hjo
            · exact Or.inl hmem
          · exact Or.inr h

/-- One turn of the cancel loop. -/
theorem Cancelled.establishing {oid : ClientOrderId}
    {rest : List ClientOrderId} (hv : StopVenue ex stop)
    (h : Cancelled ex oid w w')
    (he : Establishing stop runId snap c₀ d₀ (.foreign (oid :: rest)) w) :
    Establishing stop runId snap c₀ d₀ (.foreign rest) w' := by
  have hstop : ∀ j, stop w'.disk.venue j = stop w.disk.venue j := by
    intro j
    rw [h.venue]
    split
    · rfl
    · exact (hv.cancel oid w.disk.venue).2 j
  refine he.next h.along.between.1 h.pf (fun j _ => hstop j)
    (fun j hj => by rw [hstop]; exact hj) rfl nofun
    (fun _ h => absurd rfl (h rest)) (by simp [Stage.unguarded])
    (by simp [Stage.unguarded]) (by simp [Stage.left]) (by simp [Stage.left])

/-- A stop of a held position, at a positive price, is always taken. -/
theorem StopVenue.guards (hv : StopVenue ex stop)
    (hprice : ∀ pos ∈ snap.positions, pos.size ≠ 0 → 0 < pos.entryPrice)
    {pos : PositionView} (hpos : pos ∈ snap.positions) (hne : pos.size ≠ 0)
    {i : InstrumentId} {v : V}
    (h : pos.entryPrice ≤ 0 ∨ ∃ t e, (ex.placeStop i t v).1 = .error e) :
    False := by
  rcases h with h | ⟨t, e, h⟩
  · exact absurd (hprice pos hpos hne) (not_lt.mpr h)
  · rw [(hv.placeStop i t v).1] at h
    cases h

/-- What recovery does establishes the venue's truth, and no call raises. -/
theorem recovers_establishing {rows : List PositionLocalRow}
    (hrows : rows = d₀.db.getPositionsLocal runId) (hv : StopVenue ex stop)
    (hprice : ∀ pos ∈ snap.positions, pos.size ≠ 0 → 0 < pos.entryPrice) :
    Recovers ex snap rows runId
      (fun st w => Adopting runId c₀ d₀.db st.todo w ∧
        Establishing stop runId snap c₀ d₀ st w)
      (fun _ => False) := by
  have hfind : ∀ j, rows.find? (fun r => r.instrumentId = j) =
      d₀.db.positionLocal runId j := by
    intro j
    rw [hrows]
    exact find_getPositionsLocal runId j d₀.db
  exact
    { calm := fun hi h => ⟨hi.1.calm h.along.between.1 h.pf,
        hi.2.next h.along.between.1 h.pf (fun _ _ => by rw [h.venue])
          (fun _ hj => by rw [h.venue]; exact hj) rfl hi.1.sub
          (fun h1 h2 => ⟨h1, h2⟩) (fun _ hp _ _ => Or.inl hp)
          (fun _ hp => hp) (fun _ ho => ho) hi.2.due⟩
      turn := by
        intro j rest w w' hi h
        rw [hfind] at h
        exact ⟨(h.adopting (fun _ _ => True) j hi.1).1,
          h.establishing hv hi.1 hi.2⟩
      unknown := fun hi => ⟨hi.1,
        hi.2.next (refl_of _ _) rfl (fun _ _ => rfl) (fun _ hj => hj) rfl nofun
          (fun _ _ => ⟨nofun, nofun⟩) (fun _ hp _ _ => Or.inl hp)
          (fun _ hp => hp) (fun _ ho => ho) hi.2.due⟩
      guard := fun hi h => ⟨hi.1.calm h.along.between.1 h.pf,
        h.establishing hv hi.1.ids hi.2⟩
      orders := by
        intro w hi
        have hlist : w.disk.db.listOrders runId = d₀.db.listOrders runId := by
          rw [Db.listOrders, Db.listOrders, hi.2.orders nofun nofun]
        rw [hlist]
        exact ⟨hi.1, hi.2.next (refl_of _ _) rfl (fun _ _ => rfl)
          (fun _ hj => hj) rfl nofun (fun h => absurd rfl (h _))
          (by simp [Stage.unguarded]) (by simp [Stage.unguarded])
          (fun _ ho => ho) (fun _ ho => ho)⟩
      classify := by
        intro o rest w w' hi h
        exact ⟨(h.adopting (fun _ _ => True) o.instrumentId
          hfind hi.1).1, h.establishing hfind hi.1 hi.2⟩
      foreign := fun hi => ⟨hi.1,
        hi.2.next (refl_of _ _) rfl (fun _ _ => rfl) (fun _ hj => hj) rfl nofun
          (fun _ h => absurd rfl (h _)) (by simp [Stage.unguarded])
          (by simp [Stage.unguarded]) (by simp [Stage.left])
          (by simp [Stage.left])⟩
      cancel := fun hi h => ⟨hi.1.calm h.along.between.1 h.pf,
        h.establishing hv hi.2⟩
      turnRaised := by
        rintro j rest w w' hi - ⟨pos, hpos, -, h⟩
        have hmem : pos ∈ snap.positions :=
          List.mem_of_find?_eq_some (Option.filter_eq_some_iff.mp hpos).1
        exact hv.guards hprice hmem (held_instrument hpos).2 h
      guardRaised := fun hi _ hne _ h =>
        hv.guards hprice (hi.2.listed _ List.mem_cons_self) hne h
      cancelRaised := by
        rintro oid rest w w' hi - ⟨e, h⟩
        rw [(hv.cancel oid w.disk.venue).1] at h
        cases h
      raised := fun hf _ => hf }

/-- A router at the end of recovery. -/
theorem Establishing.established {j : InstrumentId}
    (he : Establishing stop runId snap c₀ d₀ (.foreign []) w)
    (hj : j ∈ c₀.pf.ids) :
    Established stop runId snap d₀ j (w.mem.pf.router j) w.disk := by
  have ht := he.took j hj nofun
  refine ⟨ht.size, ht.entry, ht.stopTrigger, fun row hrow hf => ?_,
    fun hw => ?_, fun hfrozen hw => ?_, ht.persisted⟩
  · rcases ht.state with hst | ⟨-, hst⟩
    · have hfr : frozenRow (d₀.db.positionLocal runId j) = true := by
        rw [hrow]
        exact hf
      rw [hst, settledState, if_pos hfr, hrow]
      rfl
    · rw [hrow] at hst
      exact Option.some.inj hst
  · obtain ⟨⟨o, ho, hrun, hid, hflight, hrests⟩, row, hrow, hp⟩ := hw
    have hmem : o ∈ d₀.db.listOrders runId := by
      rw [Db.listOrders, List.mem_insertionSort, List.mem_filter]
      exact ⟨ho, decide_eq_true hrun⟩
    rcases he.left j hj nofun o hmem hid hflight hrests row hrow hp with h | h
    · cases h
    · rw [h, hrow]
      rfl
  · have hst := ht.state.resolve_right fun h => hw h.1
    rw [settledState, hfrozen, if_neg (by simp)] at hst
    rw [hst, ht.size]
    by_cases hheld : (held snap j).isSome
    · have hne := held_isSome.mp hheld
      simp [hheld, hne]
    · have hzero : snap.size j = 0 := by
        by_contra hne
        exact hheld (held_isSome.mpr hne)
      simp [hheld, hzero]

end Loops

/-! ## The result -/

namespace Site

variable {stop : V → InstrumentId → Option Decimal} {snap : AccountSnapshot}

/-- **Recovery establishes the exchange's truth.** From any rows, on a venue
that takes stops and cancels and shows a positive entry price for each nonzero
position, `recover` returns; then every nonzero position has a venue stop, and
every router is what the venue, its own row and the orders that rest say. -/
theorem recover_establishes {c : Recovery S} {d : Durable V}
    (hc : Started runId c) (hv : StopVenue ex stop)
    (hsnap : (ex.snapshot d.venue).1 = .ok snap)
    (hone : (snap.positions.map PositionView.instrumentId).Nodup)
    (hprice : ∀ pos ∈ snap.positions, pos.size ≠ 0 → 0 < pos.entryPrice) :
    (recovering ex d c).1 = .ok () ∧
      (∀ pos ∈ snap.positions, pos.size ≠ 0 →
        (stop (recovering ex d c).2.disk.venue pos.instrumentId).isSome) ∧
      ∀ iid ∈ c.pf.ids, Established stop runId snap d iid
        ((recovering ex d c).2.mem.pf.router iid)
        (recovering ex d c).2.disk := by
  have hshown := hv.snapshot d.venue snap hsnap
  have hstart : Establishing stop runId snap c d (.routers c.pf.ids)
      (called ⟨c, d, []⟩ (ex.snapshot d.venue).2) :=
    { orders := fun _ _ => rfl
      took := fun j hj hn => absurd hj hn
      untouched := fun j _ => (hshown j).2.trans (hshown j).1.symm
      kept := by
        intro j hj
        rw [(hshown j).1] at hj
        exact (congrArg Option.isSome (hshown j).2).trans hj
      unguarded := fun pos hp _ _ => Or.inl hp
      listed := fun pos hp => hp
      left := fun j hj hn => absurd hj hn
      due := fun o ho => ho }
  have hwp : Prog.wp (recover ex)
      (fun _ w' => Adopting runId c d.db [] w' ∧
        Establishing stop runId snap c d (.foreign []) w')
      (fun _ _ => False) ⟨c, d, []⟩ := by
    refine recover_rule (w := ⟨c, d, []⟩)
      (I := fun st w => Adopting runId c d.db st.todo w ∧
        Establishing stop runId snap c d st w) (E := fun _ => False)
      rfl hc.pfRunId.symm rfl (fun e he => ?_) fun snap' hsnap' => ?_
    · rw [show (ex.snapshot d.venue).1 = .error e from he] at hsnap
      cases hsnap
    · have hsame : snap' = snap := by
        have heq : Except.ok snap' = (Except.ok snap : Except Exc _) :=
          (show (ex.snapshot d.venue).1 = .ok snap' from hsnap').symm.trans hsnap
        exact Except.ok.inj heq
      subst hsame
      exact ⟨⟨hc.adopting (d := { d with venue := (ex.snapshot d.venue).2 }),
        hstart⟩, recovers_establishing rfl hv hprice⟩
  have hok : (recovering ex d c).1 = .ok () := by
    unfold Prog.wp at hwp
    unfold recovering
    split at hwp
    · next a w' heq => rw [heq]
    · exact hwp.elim
  obtain ⟨ha, he⟩ := Prog.wp_returned hwp hok
  refine ⟨hok, fun pos hp hne => ?_, fun iid hid => he.established hid⟩
  by_cases hid : pos.instrumentId ∈ c.pf.ids
  · refine (he.took _ hid nofun).guarded ?_
    rw [held_of_mem hone hp hne]
    rfl
  · rcases he.unguarded pos hp hne hid with h | h
    · cases h
    · exact h

/-! ### A position without a stop -/

/-- A venue that holds one contract and keeps the stops it is given. -/
def keeping : Executor (List (InstrumentId × Decimal)) where
  name := "live"
  submit req v := (.ok ⟨req.clientOrderId, none, .accepted, "", 0⟩, v)
  cancel _ v := (.ok (), v)
  placeStop iid trigger v := (.ok (), (iid, trigger) :: v)
  cancelStop _ v := (.ok (), v)
  snapshot v := (.ok { oneContract with stops := v }, v)
  clock _ := 0

/-- The stop kept for an instrument. -/
def keptStop (v : List (InstrumentId × Decimal)) (iid : InstrumentId) :
    Option Decimal := v.lookup iid

theorem keeping_stops : StopVenue keeping keptStop where
  snapshot := by
    intro v snap hsnap iid
    cases hsnap
    exact ⟨rfl, rfl⟩
  placeStop := by
    intro iid trigger v
    refine ⟨rfl, fun j => ?_⟩
    show List.lookup j ((iid, trigger) :: v) = _
    rw [List.lookup_cons]
    split
    · next h => rw [if_pos (by simpa using h)]
    · next h =>
        rw [if_neg (by simpa using h)]
        rfl
  cancel := fun _ _ => ⟨rfl, fun _ => rfl⟩

/-- The venue holds the contract without a stop, and no table knows of it. -/
def unguardedDisk : Durable (List (InstrumentId × Decimal)) :=
  ⟨Db.empty, [], [], []⟩

def unguardedContract : AccountSnapshot := { oneContract with stops := [] }

theorem unguarded_snapshot :
    (keeping.snapshot unguardedDisk.venue).1 = .ok unguardedContract := rfl

theorem unguarded_price : ∀ pos ∈ unguardedContract.positions,
    pos.size ≠ 0 → 0 < pos.entryPrice := by
  intro pos hpos _
  rw [List.mem_singleton.mp hpos]
  decide +kernel

theorem recover_establishes_unguarded :
    (recovering keeping unguardedDisk oneRouter).1 = .ok () ∧
      (∀ pos ∈ unguardedContract.positions, pos.size ≠ 0 →
        (keptStop (recovering keeping unguardedDisk oneRouter).2.disk.venue
          pos.instrumentId).isSome) ∧
      ∀ iid ∈ oneRouter.pf.ids,
        Established keptStop "run" unguardedContract unguardedDisk iid
          ((recovering keeping unguardedDisk oneRouter).2.mem.pf.router iid)
          (recovering keeping unguardedDisk oneRouter).2.disk :=
  recover_establishes oneRouter_started keeping_stops unguarded_snapshot
    (List.nodup_singleton _) unguarded_price

end Site

end Polyperps
