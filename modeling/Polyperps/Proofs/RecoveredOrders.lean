import Polyperps.Proofs.RecoveryTruth

/-!
# Which orders recovery classifies

The order loop of `recover` looks at two statuses, `submitting` and
`accepted`. An order that may still be live can have three more: an order
update writes `open`, a partial fill `partial`, and an earlier recovery
`adopted`. Those rows are passed over, whatever the venue says of them, and
their router is not made to wait. `Accounted` is what the loop should
establish of every live order, `Fresh` the rows of which it does.
-/

namespace Polyperps

open ProgramLogic InstrumentRouter
open Recovery (frozenRow held)

variable {V S : Type} {ex : Executor V} {runId : String} {iid : InstrumentId}
  {snap : AccountSnapshot}

/-- The statuses of an order that may still be live. -/
def RowStatus.live : RowStatus → Bool
  | .submitting | .update .accepted | .update .opened | .update .partialFill
  | .adopted => true
  | _ => false

/-- An order that may still be live, of the run. -/
def OrderRow.liveIn (runId : String) (o : OrderRow) : Bool :=
  o.runId = runId && o.status.live

/-- What recovery should call a live order. -/
def classOf (snap : AccountSnapshot) (o : OrderRow) : RowStatus :=
  if o.clientOrderId ∈ snap.openOrders then .adopted else .abandoned

/-- Whether the instrument's row was waiting for an order. -/
def rowWaits (runId : String) (iid : InstrumentId) (db : Db) : Bool :=
  ((db.positionLocal runId iid).map fun row => row.state.pending).getD false

/-- Every live order of the tables `db₀` is classified in `db` and has its
router waiting for it if the row was; no other row changed, and there is none
but the old ones. -/
structure Accounted (runId : String) (snap : AccountSnapshot)
    (ids : List InstrumentId) (router : InstrumentId → InstrumentRouter S)
    (db₀ db : Db) : Prop where
  classified : ∀ o ∈ db₀.orders, o.liveIn runId = true →
    (db.getOrder o.clientOrderId).map OrderRow.status = some (classOf snap o)
  unchanged : ∀ o ∈ db₀.orders, o.liveIn runId = false →
    db.getOrder o.clientOrderId = some o
  rows : db.orders.map OrderRow.clientOrderId =
    db₀.orders.map OrderRow.clientOrderId
  owned : ∀ o ∈ db₀.orders, o.liveIn runId = true →
    o.clientOrderId ∈ snap.openOrders → o.instrumentId ∈ ids →
    rowWaits runId o.instrumentId db₀ = true →
    (router o.instrumentId).pendingCid = some o.clientOrderId

/-- The tables in which the two statuses recovery looks at are the only ones a
live order has: any other is `adopted`, still rests, and its router was not
waiting; and no router that was waiting has two orders at rest. -/
structure FreshOrders (runId : String) (snap : AccountSnapshot)
    (ids : List InstrumentId) (db : Db) : Prop where
  status : ∀ o ∈ db.orders, o.liveIn runId = true → o.status.inFlight = true ∨
    (o.status = .adopted ∧ o.clientOrderId ∈ snap.openOrders ∧
      (o.instrumentId ∈ ids → rowWaits runId o.instrumentId db = false))
  single : ∀ o ∈ db.orders, ∀ o' ∈ db.orders, o.liveIn runId = true →
    o'.liveIn runId = true → o.clientOrderId ∈ snap.openOrders →
    o'.clientOrderId ∈ snap.openOrders → o.instrumentId = o'.instrumentId →
    o.instrumentId ∈ ids → rowWaits runId o.instrumentId db = true →
    o.clientOrderId = o'.clientOrderId

theorem RowStatus.live_of_inFlight {st : RowStatus} (h : st.inFlight = true) :
    st.live = true := by
  unfold inFlight at h
  split at h
  · rfl
  · rfl
  · cases h

/-! ## The order loop -/

/-- The orders recovery gives back to a router. -/
def givenBack (snap : AccountSnapshot) (iid : InstrumentId) (o : OrderRow) :
    Bool :=
  o.status.inFlight && decide (o.clientOrderId ∈ snap.openOrders) &&
    decide (o.instrumentId = iid)

/-- The order a router waits for once the loop has visited `done`. -/
def waitsFor (runId : String) (snap : AccountSnapshot)
    (ids : List InstrumentId) (db : Db) (done : List OrderRow)
    (iid : InstrumentId) : Option ClientOrderId :=
  if decide (iid ∈ ids) && rowWaits runId iid db then
    (done.filter (givenBack snap iid)).getLast?.map OrderRow.clientOrderId
  else none

/-- The row the loop leaves of an order it has visited. -/
def reclassified (snap : AccountSnapshot) (now : DateTime) (o : OrderRow) :
    OrderRow :=
  if o.status.inFlight then { o with status := classOf snap o, updatedAt := now }
  else o

/-- Where the order loop stands. -/
structure Classifying (runId : String) (snap : AccountSnapshot)
    (c₀ : Recovery S) (db₀ : Db) (st : Stage)
    (w : World (Durable V) (Recovery S)) : Prop where
  ids : w.mem.pf.ids = c₀.pf.ids
  untouched : (∀ rest, st ≠ .orders rest) → (∀ rest, st ≠ .foreign rest) →
    w.disk.db.orders = db₀.orders
  rows : w.disk.db.orders.map OrderRow.clientOrderId =
    db₀.orders.map OrderRow.clientOrderId
  other : ∀ o ∈ db₀.orders, o.runId ≠ runId →
    w.disk.db.getOrder o.clientOrderId = some o
  left : ∀ o ∈ st.left (db₀.listOrders runId),
    w.disk.db.getOrder o.clientOrderId = some o
  visited : ∃ done, db₀.listOrders runId =
      done ++ st.left (db₀.listOrders runId) ∧
    (∀ o ∈ done, ∃ now, w.disk.db.getOrder o.clientOrderId =
      some (reclassified snap now o)) ∧
    ∀ j, (w.mem.pf.router j).pendingCid =
      waitsFor runId snap c₀.pf.ids db₀ done j

section Loop

variable {c₀ : Recovery S} {db₀ : Db} {w w' : World (Durable V) (Recovery S)}
  {o : OrderRow}

theorem mem_listOrders {db : Db} :
    o ∈ db.listOrders runId ↔ o ∈ db.orders ∧ o.runId = runId := by
  rw [Db.listOrders, List.mem_insertionSort, List.mem_filter]
  simp

/-- The state a resting order's router goes back to, if its row waits. -/
theorem restoredState_eq {rows : List PositionLocalRow}
    (hrows : ∀ j, rows.find? (fun r => r.instrumentId = j) =
      db₀.positionLocal runId j) (ids : List InstrumentId) :
    (restoredState rows ids o).isSome =
      (decide (o.instrumentId ∈ ids) && rowWaits runId o.instrumentId db₀) := by
  rw [restoredState]
  split
  · next hid =>
    rw [hrows, rowWaits, decide_eq_true hid, Bool.true_and]
    cases db₀.positionLocal runId o.instrumentId with
    | none => rfl
    | some row =>
        rw [Option.map_some, Option.map_some, Option.filter]
        cases h : row.state.pending <;> simp
  · next hid => rw [decide_eq_false hid, Bool.false_and]; rfl

/-- An order that is not given back leaves every router waiting as it was. -/
theorem waitsFor_other {ids : List InstrumentId} {done : List OrderRow}
    {j : InstrumentId} (h : givenBack snap j o = false ∨
      (decide (j ∈ ids) && rowWaits runId j db₀) = false) :
    waitsFor runId snap ids db₀ (done ++ [o]) j =
      waitsFor runId snap ids db₀ done j := by
  unfold waitsFor
  rcases h with h | h
  · rw [List.filter_append, List.filter_singleton, h]
    simp
  · rw [h]
    rfl

theorem waitsFor_self {ids : List InstrumentId} {done : List OrderRow}
    (h : givenBack snap o.instrumentId o = true)
    (hw : (decide (o.instrumentId ∈ ids) &&
      rowWaits runId o.instrumentId db₀) = true) :
    waitsFor runId snap ids db₀ (done ++ [o]) o.instrumentId =
      some o.clientOrderId := by
  unfold waitsFor
  rw [if_pos hw, List.filter_append, List.filter_singleton, h]
  simp

theorem givenBack_ne {j : InstrumentId} (h : o.instrumentId ≠ j) :
    givenBack snap j o = false := by
  rw [givenBack, decide_eq_false h, Bool.and_false]

/-- Visiting an order: what the write of its row must leave, and what its
router must come to wait for. -/
theorem Classifying.visit {rest : List OrderRow}
    (hkeys : (db₀.orders.map OrderRow.clientOrderId).Nodup)
    (hc : Classifying runId snap c₀ db₀ (.orders (o :: rest)) w)
    (hids : w'.mem.pf.ids = w.mem.pf.ids)
    (hrows : w'.disk.db.orders.map OrderRow.clientOrderId =
      w.disk.db.orders.map OrderRow.clientOrderId)
    (hself : ∃ now, w'.disk.db.getOrder o.clientOrderId =
      some (reclassified snap now o))
    (hother : ∀ cid, cid ≠ o.clientOrderId →
      w'.disk.db.getOrder cid = w.disk.db.getOrder cid)
    (hpending : ∀ done : List OrderRow,
      (∀ j, (w.mem.pf.router j).pendingCid =
        waitsFor runId snap c₀.pf.ids db₀ done j) →
      ∀ j, (w'.mem.pf.router j).pendingCid =
        waitsFor runId snap c₀.pf.ids db₀ (done ++ [o]) j) :
    Classifying runId snap c₀ db₀ (.orders rest) w' := by
  obtain ⟨done, hlist, hdone, hp⟩ := hc.visited
  have hlist : db₀.listOrders runId = done ++ o :: rest := hlist
  have hmem : ∀ x ∈ db₀.listOrders runId, x ∈ db₀.orders :=
    fun x hx => (mem_listOrders.mp hx).1
  have ho : o ∈ db₀.listOrders runId := by rw [hlist]; simp
  have hnd : (db₀.listOrders runId).Nodup := by
    rw [Db.listOrders]
    exact ((List.perm_insertionSort _ _).nodup_iff).mpr
      (hkeys.of_map _ |>.filter _)
  have hne : ∀ x ∈ db₀.orders, x ≠ o → x.clientOrderId ≠ o.clientOrderId :=
    fun x hx hxo heq => hxo
      (List.inj_on_of_nodup_map hkeys hx (hmem o ho) heq)
  rw [hlist, List.nodup_append, List.nodup_cons] at hnd
  refine ⟨hids.trans hc.ids, fun h => absurd rfl (h rest),
    hrows.trans hc.rows, fun x hx hrun => ?_, fun x hx => ?_,
    done ++ [o], ?_, fun x hx => ?_, hpending done hp⟩
  · have hxo : x ≠ o := fun h => hrun (h ▸ (mem_listOrders.mp ho).2)
    rw [hother _ (hne x hx hxo)]
    exact hc.other x hx hrun
  · have hx : x ∈ rest := hx
    have hxo : x ≠ o := fun h => hnd.2.1.1 (h ▸ hx)
    rw [hother _ (hne x (hmem x (by rw [hlist]; simp [hx])) hxo)]
    exact hc.left x (List.mem_cons_of_mem o hx)
  · rw [hlist]
    simp [Stage.left]
  · rcases List.mem_append.mp hx with hx | hx
    · have hxo : x ≠ o := fun h => hnd.2.2 x hx o (by simp) h
      obtain ⟨now, hnow⟩ := hdone x hx
      refine ⟨now, ?_⟩
      rw [hother _ (hne x (hmem x (by rw [hlist]; simp [hx])) hxo)]
      exact hnow
    · rw [List.mem_singleton.mp hx]
      exact hself

/-- The write of an order's row that is there, and the same but for the columns
the statement names. -/
theorem upsert_reclassified (snap : AccountSnapshot) {db : Db} (now : DateTime)
    (status : RowStatus)
    (hrow : db.getOrder o.clientOrderId = some o)
    (hflight : o.status.inFlight = true)
    (hstatus : status = classOf snap o) :
    let db' := db.upsertOrder { o with status, updatedAt := now }
    db'.orders.map OrderRow.clientOrderId =
        db.orders.map OrderRow.clientOrderId ∧
      db'.getOrder o.clientOrderId = some (reclassified snap now o) ∧
      ∀ cid, cid ≠ o.clientOrderId → db'.getOrder cid = db.getOrder cid := by
  intro db'
  refine ⟨KeyedTable.map_upsert (fun _ => rfl)
    ⟨o, (KeyedTable.lookup_mem hrow).1, rfl⟩, ?_,
    fun cid hcid => Db.getOrder_upsertOrder_ne hcid⟩
  have h := Db.getOrder_upsertOrder_self db
    ({ o with status, updatedAt := now })
  rw [show ({ o with status, updatedAt := now } : OrderRow).clientOrderId =
    o.clientOrderId from rfl, hrow] at h
  rw [h, reclassified, if_pos hflight, hstatus]
  rfl

/-- One turn of the order loop. -/
theorem Classified.classifying {rest : List OrderRow}
    {rows : List PositionLocalRow}
    (hkeys : (db₀.orders.map OrderRow.clientOrderId).Nodup)
    (hrows : ∀ j, rows.find? (fun r => r.instrumentId = j) =
      db₀.positionLocal runId j) (h : Classified ex snap rows o w w')
    (hc : Classifying runId snap c₀ db₀ (.orders (o :: rest)) w) :
    Classifying runId snap c₀ db₀ (.orders rest) w' := by
  have hrow := hc.left o List.mem_cons_self
  have hback : ∀ j, givenBack snap j o = true →
      o.status.inFlight = true ∧ o.clientOrderId ∈ snap.openOrders ∧
        o.instrumentId = j := by
    intro j hj
    simpa [givenBack, and_assoc] using hj
  cases h with
  | done h =>
      refine hc.visit hkeys rfl rfl ⟨0, ?_⟩ (fun _ _ => rfl)
        fun done hp j => ?_
      · rw [reclassified, if_neg (by simp [h])]
        exact hrow
      · rw [hp, waitsFor_other (Or.inl ?_)]
        rw [givenBack, h]
        rfl
  | relabelled rep status h hstatus hno =>
      obtain ⟨hmap, hself, hother⟩ := upsert_reclassified snap
        (ex.clock w.disk.venue) status hrow h hstatus
      refine hc.visit hkeys rfl hmap ⟨_, hself⟩ hother fun done hp j => ?_
      rw [waitsFor_other]
      · exact hp j
      by_cases hj : givenBack snap j o = true
      · obtain ⟨-, hrests, rfl⟩ := hback j hj
        right
        rw [← hc.ids, ← restoredState_eq hrows, hno hrests]
        rfl
      · exact Or.inl (by simpa using hj)
  | restored rep st r db h hrests hst hr hdb =>
      have hrow' : db.getOrder o.clientOrderId = some o := by
        rw [hdb]
        exact hrow
      have horders : db.orders = w.disk.db.orders := by rw [hdb]; rfl
      obtain ⟨hmap, hself, hother⟩ := upsert_reclassified snap
        (ex.clock w.disk.venue) .adopted hrow' h (by rw [classOf, if_pos hrests])
      refine hc.visit hkeys rfl (hmap.trans (by rw [horders])) ⟨_, hself⟩
        (fun cid hcid => (hother cid hcid).trans (by rw [hdb]; rfl))
        fun done hp j => ?_
      show ((w.mem.pf.setRouter o.instrumentId r).router j).pendingCid = _
      by_cases hj : j = o.instrumentId
      · subst hj
        rw [Portfolio.setRouter_self, hr, waitsFor_self]
        · rfl
        · simp [givenBack, h, hrests]
        · rw [← hc.ids, ← restoredState_eq hrows, hst]
          rfl
      · rw [Portfolio.setRouter_of_ne hj,
          waitsFor_other (Or.inl (givenBack_ne (Ne.symm hj)))]
        exact hp j

/-- What leaves the orders and every pending order alone. -/
theorem Classifying.next {st st' : Stage}
    (hc : Classifying runId snap c₀ db₀ st w)
    (hids : w'.mem.pf.ids = w.mem.pf.ids)
    (horders : w'.disk.db.orders = w.disk.db.orders)
    (hpending : ∀ j, (w'.mem.pf.router j).pendingCid =
      (w.mem.pf.router j).pendingCid)
    (hstage : (∀ rest, st' ≠ .orders rest) → (∀ rest, st' ≠ .foreign rest) →
      (∀ rest, st ≠ .orders rest) ∧ ∀ rest, st ≠ .foreign rest)
    (hleft : st'.left (db₀.listOrders runId) =
      st.left (db₀.listOrders runId)) :
    Classifying runId snap c₀ db₀ st' w' := by
  have hget : ∀ cid, w'.disk.db.getOrder cid = w.disk.db.getOrder cid :=
    fun cid => by rw [Db.getOrder, Db.getOrder, horders]
  refine ⟨hids.trans hc.ids, fun h1 h2 => ?_, by rw [horders]; exact hc.rows,
    fun o ho hrun => by rw [hget]; exact hc.other o ho hrun, ?_, ?_⟩
  · obtain ⟨h1, h2⟩ := hstage h1 h2
    exact horders.trans (hc.untouched h1 h2)
  · rw [hleft]
    exact fun o ho => by rw [hget]; exact hc.left o ho
  · obtain ⟨done, hlist, hdone, hp⟩ := hc.visited
    rw [hleft]
    refine ⟨done, hlist, fun o ho => by rw [hget]; exact hdone o ho,
      fun j => by rw [hpending]; exact hp j⟩

/-- A turn of the router loop writes position rows only, and makes no router
wait. -/
theorem Turned.classifying {j : InstrumentId} {rest : List InstrumentId}
    {row : Option PositionLocalRow} (h : Turned ex snap row j w w')
    (hc : Classifying runId snap c₀ db₀ (.routers (j :: rest)) w) :
    Classifying runId snap c₀ db₀ (.routers rest) w' := by
  obtain ⟨w₁, now, halong, hdisk, -⟩ := h.written
  refine hc.next (by rw [h.pf]; rfl) ?_ (fun k => ?_)
    (fun _ _ => ⟨nofun, nofun⟩) rfl
  · rw [hdisk]
    exact halong.between.1.orders
  · rw [h.pf]
    by_cases hk : k = j
    · rw [hk, Portfolio.setRouter_self]
      exact (taken_same snap row w.disk.db j (w.mem.pf.router j)).2.2.2
    · rw [Portfolio.setRouter_of_ne hk]

/-- What recovery does to the orders and to what the routers wait for. -/
theorem recovers_classifying {rows : List PositionLocalRow}
    (hrows : rows = db₀.getPositionsLocal runId)
    (hkeys : (db₀.orders.map OrderRow.clientOrderId).Nodup) :
    Recovers ex snap rows runId
      (fun st w => Classifying runId snap c₀ db₀ st w) (fun _ => True) := by
  have hfind : ∀ j, rows.find? (fun r => r.instrumentId = j) =
      db₀.positionLocal runId j := by
    intro j
    rw [hrows]
    exact find_getPositionsLocal runId j db₀
  exact
    { calm := fun hc h => hc.next (by rw [h.pf]) h.along.between.1.orders
        (fun _ => by rw [h.pf]) (fun h1 h2 => ⟨h1, h2⟩) rfl
      turn := fun hc h => h.classifying hc
      unknown := fun hc => hc.next rfl rfl (fun _ => rfl)
        (fun _ _ => ⟨by simp, by simp⟩) rfl
      guard := fun hc h => hc.next (by rw [h.pf]) h.along.between.1.orders
        (fun _ => by rw [h.pf]) (fun _ _ => ⟨by simp, by simp⟩) rfl
      orders := by
        intro w hc
        have hlist : w.disk.db.listOrders runId = db₀.listOrders runId := by
          rw [Db.listOrders, Db.listOrders, hc.untouched (by simp) (by simp)]
        rw [hlist]
        exact hc.next rfl rfl (fun _ => rfl) (fun h => absurd rfl (h _)) rfl
      classify := fun hc h => h.classifying hkeys hfind hc
      foreign := fun hc => hc.next rfl rfl (fun _ => rfl)
        (fun _ h => absurd rfl (h _)) rfl
      cancel := fun hc h => hc.next (by rw [h.pf]) h.along.between.1.orders
        (fun _ => by rw [h.pf]) (fun _ h => absurd rfl (h _)) rfl
      turnRaised := fun _ _ _ => trivial
      guardRaised := fun _ _ _ _ _ => trivial
      cancelRaised := fun _ _ _ => trivial
      raised := fun _ _ => trivial }

end Loop

/-! ## The result -/

/-- A live order that was not in flight is untouched, one that was is
classified. -/
theorem Classifying.row {c₀ : Recovery S} {db₀ : Db}
    {w : World (Durable V) (Recovery S)} {o : OrderRow}
    (hc : Classifying runId snap c₀ db₀ (.foreign []) w)
    (ho : o ∈ db₀.orders) :
    ∃ now, w.disk.db.getOrder o.clientOrderId =
      some (if o.runId = runId then reclassified snap now o else o) := by
  by_cases hrun : o.runId = runId
  · obtain ⟨done, hlist, hdone, -⟩ := hc.visited
    have hmem : o ∈ done := by
      have := mem_listOrders.mpr ⟨ho, hrun⟩
      rw [hlist] at this
      simpa [Stage.left] using this
    obtain ⟨now, hnow⟩ := hdone o hmem
    exact ⟨now, by rw [if_pos hrun]; exact hnow⟩
  · exact ⟨0, by rw [if_neg hrun]; exact hc.other o ho hrun⟩

/-- What a router waits for once the order loop is over. -/
theorem Classifying.pending {c₀ : Recovery S} {db₀ : Db}
    {w : World (Durable V) (Recovery S)}
    (hc : Classifying runId snap c₀ db₀ (.foreign []) w) (j : InstrumentId) :
    (w.mem.pf.router j).pendingCid =
      waitsFor runId snap c₀.pf.ids db₀ (db₀.listOrders runId) j := by
  obtain ⟨done, hlist, -, hp⟩ := hc.visited
  have hdone : db₀.listOrders runId = done := by
    rw [hlist]
    simp [Stage.left]
  rw [hp, hdone]

/-- Recovery accounts for every live order if and only if each is in one of the
two statuses it looks at, or was adopted before and is no router's business;
and no router that was waiting has two orders at rest. -/
theorem Classifying.accounted_iff {c₀ : Recovery S} {db₀ : Db}
    {w : World (Durable V) (Recovery S)}
    (hkeys : (db₀.orders.map OrderRow.clientOrderId).Nodup)
    (hc : Classifying runId snap c₀ db₀ (.foreign []) w) :
    Accounted runId snap c₀.pf.ids w.mem.pf.router db₀ w.disk.db ↔
      FreshOrders runId snap c₀.pf.ids db₀ := by
  have hlive : ∀ o : OrderRow, o.liveIn runId = true →
      o.runId = runId ∧ o.status.live = true := by
    intro o h
    simpa [OrderRow.liveIn] using h
  have hflight : ∀ o : OrderRow, o.runId = runId → o.status.inFlight = true →
      o.liveIn runId = true := by
    intro o h h'
    simp [OrderRow.liveIn, h, RowStatus.live_of_inFlight h']
  have hback : ∀ (o : OrderRow) j, givenBack snap j o = true ↔
      o.status.inFlight = true ∧ o.clientOrderId ∈ snap.openOrders ∧
        o.instrumentId = j := by
    intro o j
    simp [givenBack, and_assoc]
  -- the order a waiting router waits for is one that was in flight and rests
  have hwaits : ∀ (j : InstrumentId) cid, j ∈ c₀.pf.ids →
      rowWaits runId j db₀ = true → (w.mem.pf.router j).pendingCid = some cid →
      ∃ o ∈ db₀.orders, o.runId = runId ∧ o.status.inFlight = true ∧
        o.clientOrderId = cid := by
    intro j cid hj hw hcid
    rw [hc.pending, waitsFor, if_pos (by simp [hj, hw])] at hcid
    obtain ⟨o, ho, rfl⟩ := Option.map_eq_some_iff.mp hcid
    obtain ⟨hmem, hg⟩ := List.mem_filter.mp (List.mem_of_getLast? ho)
    obtain ⟨hdb, hrun⟩ := mem_listOrders.mp hmem
    exact ⟨o, hdb, hrun, ((hback o j).mp hg).1, rfl⟩
  constructor
  · intro ha
    refine ⟨fun o ho hl => ?_, fun o ho o' ho' hl hl' hr hr' hid hj hw => ?_⟩
    · obtain ⟨hrun, hst⟩ := hlive o hl
      by_cases hf : o.status.inFlight = true
      · exact Or.inl hf
      obtain ⟨now, hrow⟩ := hc.row ho
      rw [if_pos hrun, reclassified, if_neg hf] at hrow
      have hclass := ha.classified o ho hl
      rw [hrow, Option.map_some, Option.some.injEq] at hclass
      have hadopted : o.status = .adopted ∧
          o.clientOrderId ∈ snap.openOrders := by
        rw [classOf] at hclass
        split at hclass
        · next h => exact ⟨hclass, h⟩
        · rw [hclass] at hst
          cases hst
      refine Or.inr ⟨hadopted.1, hadopted.2, fun hj => ?_⟩
      by_contra hw
      have hcid := ha.owned o ho hl hadopted.2 hj (by simpa using hw)
      obtain ⟨x, hx, -, hxf, hxo⟩ := hwaits _ _ hj (by simpa using hw) hcid
      rw [List.inj_on_of_nodup_map hkeys hx ho hxo] at hxf
      exact hf hxf
    · have h1 := ha.owned o ho hl hr hj hw
      have h2 := ha.owned o' ho' hl' hr' (hid ▸ hj) (hid ▸ hw)
      rw [← hid, h1] at h2
      exact Option.some.inj h2
  · intro hf
    refine ⟨fun o ho hl => ?_, fun o ho hl => ?_, hc.rows,
      fun o ho hl hr hj hw => ?_⟩
    · obtain ⟨hrun, -⟩ := hlive o hl
      obtain ⟨now, hrow⟩ := hc.row ho
      rw [if_pos hrun, reclassified] at hrow
      rw [hrow]
      rcases hf.status o ho hl with h | ⟨h, hr, -⟩
      · rw [if_pos h]
        rfl
      · rw [if_neg (by rw [h]; nofun), Option.map_some, classOf, if_pos hr, h]
    · obtain ⟨now, hrow⟩ := hc.row ho
      rw [hrow]
      split
      · next hrun =>
        rw [reclassified, if_neg]
        intro hfl
        rw [hflight o hrun hfl] at hl
        cases hl
      · rfl
    · have hmine : ∀ x ∈ db₀.listOrders runId,
          givenBack snap o.instrumentId x = true →
          x.clientOrderId = o.clientOrderId := by
        intro x hx hg
        obtain ⟨hdb, hrun⟩ := mem_listOrders.mp hx
        obtain ⟨hxf, hxr, hxi⟩ := (hback x _).mp hg
        exact (hf.single o ho x hdb hl (hflight x hrun hxf) hr hxr hxi.symm
          hj hw).symm
      have hof : o.status.inFlight = true := by
        rcases hf.status o ho hl with h | ⟨-, -, h⟩
        · exact h
        · rw [h hj] at hw
          cases hw
      have hmem : o ∈ (db₀.listOrders runId).filter
          (givenBack snap o.instrumentId) :=
        List.mem_filter.mpr ⟨mem_listOrders.mpr ⟨ho, (hlive o hl).1⟩,
          (hback o _).mpr ⟨hof, hr, rfl⟩⟩
      rw [hc.pending, waitsFor, if_pos (by simp [hj, hw])]
      cases hlast : ((db₀.listOrders runId).filter
          (givenBack snap o.instrumentId)).getLast? with
      | none =>
          rw [List.getLast?_eq_none_iff] at hlast
          rw [hlast] at hmem
          cases hmem
      | some x =>
          obtain ⟨hx, hg⟩ := List.mem_filter.mp (List.mem_of_getLast? hlast)
          rw [Option.map_some, hmine x hx hg]

namespace Site

/-- A recovery that returns accounts for every order that may still be live if
and only if the tables it found were `FreshOrders`. -/
theorem recovered_orders_iff {c : Recovery S} {d : Durable V}
    (hc : Started runId c)
    (hkeys : (d.db.orders.map OrderRow.clientOrderId).Nodup)
    (hsnap : (ex.snapshot d.venue).1 = .ok snap)
    (hret : (recovering ex d c).1 = .ok ()) :
    Accounted runId snap c.pf.ids (recovering ex d c).2.mem.pf.router d.db
        (recovering ex d c).2.disk.db ↔
      FreshOrders runId snap c.pf.ids d.db := by
  have hstart : Classifying runId snap c d.db (.routers c.pf.ids)
      (called (⟨c, d, []⟩ : World (Durable V) (Recovery S))
        (ex.snapshot d.venue).2) := by
    refine ⟨rfl, fun _ _ => rfl, rfl, fun o ho _ => ?_, fun o ho => ?_, [],
      by simp [Stage.left], by simp, fun j => ?_⟩
    · exact (KeyedTable.lookup_eq_some_iff hkeys).mpr ⟨ho, rfl⟩
    · exact (KeyedTable.lookup_eq_some_iff hkeys).mpr
        ⟨(mem_listOrders.mp ho).1, rfl⟩
    · obtain ⟨_, _, _, _, _, hr⟩ := hc.router j
      show (c.pf.router j).pendingCid = _
      rw [hr]
      unfold waitsFor
      split <;> rfl
  have hwp : Prog.wp (recover ex)
      (fun _ w' => Classifying runId snap c d.db (.foreign []) w')
      (fun _ _ => True) ⟨c, d, []⟩ := by
    refine recover_rule (w := ⟨c, d, []⟩)
      (I := fun st w => Classifying runId snap c d.db st w)
      (E := fun _ => True) rfl hc.pfRunId.symm rfl (fun _ _ => trivial)
      fun snap' hsnap' => ?_
    have hsame : snap' = snap := by
      have heq : Except.ok snap' = (Except.ok snap : Except Exc _) :=
        (show (ex.snapshot d.venue).1 = .ok snap' from hsnap').symm.trans hsnap
      exact Except.ok.inj heq
    subst hsame
    exact ⟨hstart, recovers_classifying rfl hkeys⟩
  exact (Prog.wp_returned hwp hret).accounted_iff hkeys

/-! ### An order that was reported open -/

section Reported

/-- A venue where every order rests, and there is no position. -/
def resting : Executor (List ClientOrderId) where
  name := "live"
  submit req v := (.ok ⟨req.clientOrderId, none, .accepted, "", 0⟩,
    v ++ [req.clientOrderId])
  cancel cid v := (.ok (), v.filter (· ≠ cid))
  placeStop _ _ v := (.ok (), v)
  cancelStop _ v := (.ok (), v)
  snapshot v := (.ok ⟨1000, [], v, [], false, 0⟩, v)
  clock _ := 0

/-- A strategy that wants to be long. -/
def longStrategy : Strategy Unit where
  warmup := 0
  target s _ := (1, s)
  onFlatten := none
  onRecover := none

/-- The routers of a process with that strategy. -/
def longRouter : Recovery Unit where
  pf := { oneRouter.pf with
    router := fun iid => InstrumentRouter.fresh "run" iid longStrategy ()
      [] limitsDefault exposureDefault }
  rep := .empty

theorem longRouter_started : Started "run" longRouter :=
  ⟨rfl, by decide, fun _ => ⟨_, _, _, _, _, rfl⟩, rfl⟩

/-- A bar that closes at 100. -/
def flatBar : Bar :=
  ⟨1, .polymarketWs, 0, some 100, some 100, some 100, some 100, some 100,
    some 0, 5, .constant, true⟩

def noTables : Durable (List ClientOrderId) := ⟨Db.empty, [], [], []⟩

/-- The process that recovers from nothing. -/
@[irreducible] def firstProcess :
    World (Durable (List ClientOrderId)) (Recovery Unit) :=
  (recovering resting noTables longRouter).2

/-- That process after a bar on which it buys. -/
@[irreducible] def bought :
    World (Durable (List ClientOrderId)) (Portfolio Unit) :=
  operating resting firstProcess.disk firstProcess.mem.pf
    (.onBar [(1, [flatBar])] .run)

/-- And after the venue reported the order as open. -/
@[irreducible] def reported :
    World (Durable (List ClientOrderId)) (Portfolio Unit) :=
  operating resting bought.disk bought.mem
    (.dispatch (.order ⟨"run-1-1", .opened, 0, 0⟩))

theorem firstProcess_step : Step resting "run" ⟨noTables, none⟩
    (.start longRouter) firstProcess.moments
    ⟨firstProcess.disk, some firstProcess.mem.pf⟩ := by
  unfold firstProcess
  exact Step.started longRouter_started (by decide +kernel)

theorem bought_step : Step resting "run"
    ⟨firstProcess.disk, some firstProcess.mem.pf⟩
    (.perform (.onBar [(1, [flatBar])] .run)) bought.moments
    ⟨bought.disk, some bought.mem⟩ := by
  unfold bought
  exact .perform

theorem reported_step : Step resting "run" ⟨bought.disk, some bought.mem⟩
    (.perform (.dispatch (.order ⟨"run-1-1", .opened, 0, 0⟩)))
    reported.moments ⟨reported.disk, some reported.mem⟩ := by
  unfold reported
  exact .perform

/-- What the process stopped then leaves, and what recovery makes of it. -/
theorem reported_forgotten :
    (recovering resting reported.disk longRouter).1.toBool = true ∧
      reported.disk.venue = ["run-1-1"] ∧
      (reported.disk.db.orders.map fun o =>
        (o.clientOrderId, o.runId, o.status)) =
          [("run-1-1", "run", .update .opened)] ∧
      ((recovering resting reported.disk longRouter).2.disk.db.orders.map
        fun o => (o.clientOrderId, o.status)) =
          [("run-1-1", .update .opened)] := by
  decide +kernel

theorem reported_returns :
    (recovering resting reported.disk longRouter).1 = .ok () :=
  Prog.ok_of_toBool reported_forgotten.1

/-- The order rests on the venue and its router's row was waiting for it; it is
passed over. -/
theorem open_order_passed_over :
    ¬ ∀ (s : Site (List ClientOrderId) Unit)
      (ds : List (Durable (List ClientOrderId))) (c : Recovery Unit)
      (snap : AccountSnapshot),
      Run resting "run" anything ⟨noTables, none⟩ ds s → s.process = none →
      Started "run" c → (resting.snapshot s.disk.venue).1 = .ok snap →
      (recovering resting s.disk c).1 = .ok () →
      Accounted "run" snap c.pf.ids (recovering resting s.disk c).2.mem.pf.router
        s.disk.db (recovering resting s.disk c).2.disk.db := by
  intro hall
  have hrun : Run resting "run" anything ⟨noTables, none⟩ _
      ⟨reported.disk, none⟩ :=
    .next (.next (.next (.next .here trivial firstProcess_step) trivial
      bought_step) trivial reported_step) trivial .stop
  obtain ⟨-, -, hbefore, hafter⟩ := reported_forgotten
  have ha := hall ⟨reported.disk, none⟩ _ longRouter
    ⟨1000, [], reported.disk.venue, [], false, 0⟩ hrun rfl longRouter_started
    rfl reported_returns
  obtain ⟨o, rest, horders, ho, -⟩ := List.map_eq_cons_iff.mp hbefore
  obtain ⟨o', rest', horders', ho', hnil⟩ := List.map_eq_cons_iff.mp hafter
  simp only [Prod.mk.injEq] at ho ho'
  have hclass := ha.classified o (by rw [horders]; simp)
    (by rw [OrderRow.liveIn, ho.2.1, ho.2.2]; rfl)
  have hfound : (recovering resting reported.disk
      longRouter).2.disk.db.getOrder o.clientOrderId = some o' := by
    rw [Db.getOrder, horders', KeyedTable.lookup_cons, if_pos (by
      rw [ho.1, ho'.1])]
  rw [hfound, Option.map_some, ho'.2, classOf, Option.some.injEq] at hclass
  split at hclass <;> cases hclass

theorem recovered_orders_iff_reported :
    Accounted "run" ⟨1000, [], reported.disk.venue, [], false, 0⟩
        longRouter.pf.ids
        (recovering resting reported.disk longRouter).2.mem.pf.router
        reported.disk.db
        (recovering resting reported.disk longRouter).2.disk.db ↔
      FreshOrders "run" ⟨1000, [], reported.disk.venue, [], false, 0⟩
        longRouter.pf.ids reported.disk.db := by
  exact recovered_orders_iff longRouter_started (by decide +kernel) rfl
    reported_returns

end Reported

end Site

end Polyperps
