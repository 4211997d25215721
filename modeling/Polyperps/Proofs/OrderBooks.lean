import Polyperps.Proofs.ClientOrderIds
import Polyperps.Proofs.HaltSurvives

/-!
# What the tables say of the orders made

What the tables must say so that a process that starts can number its orders
(`Sound`), and what a router's counters must cover while it runs (`Counts`).
Every change a router makes keeps both, at each of its writes: an announcement
writes its decision row, its order row and its position row, and what is
submitted afterwards is the order these rows name.
-/

namespace Polyperps

open ProgramLogic InstrumentRouter

variable {V S : Type} {ex : Executor V} {runId : String} {iid : InstrumentId}

/-- What a row says of its order and no statement updates. -/
structure Terms where
  clientOrderId : ClientOrderId
  runId : String
  instrumentId : InstrumentId
  side : Side
  quantity : Decimal
  reduceOnly : Bool
  submittedAt : DateTime
deriving DecidableEq

def OrderRow.terms (o : OrderRow) : Terms :=
  ⟨o.clientOrderId, o.runId, o.instrumentId, o.side, o.quantity, o.reduceOnly,
    o.submittedAt⟩

/-- The terms a request is made on. -/
def OrderRequest.terms (runId : String) (req : OrderRequest) : Terms :=
  ⟨req.clientOrderId, runId, req.instrumentId, req.side, req.quantity,
    req.reduceOnly, req.ts⟩

/-- The terms of the order of an id. -/
def Db.termsOf (cid : ClientOrderId) (db : Db) : Option Terms :=
  (db.getOrder cid).map OrderRow.terms

theorem Db.termsOf_eq (cid : ClientOrderId) (db : Db) :
    db.termsOf cid =
      (db.orders.map OrderRow.terms).find? fun t => t.clientOrderId = cid := by
  rw [Db.termsOf, Db.getOrder, KeyedTable.lookup, List.find?_map]
  rfl

theorem Db.termsOf_cid {cid : ClientOrderId} {db : Db} {t : Terms}
    (h : db.termsOf cid = some t) :
    t ∈ db.orders.map OrderRow.terms ∧ t.clientOrderId = cid := by
  rw [Db.termsOf_eq] at h
  exact ⟨List.mem_of_find?_eq_some h, by simpa using List.find?_some h⟩

/-! ## Disks that number orders alike -/

/-- Nothing was decided, ordered or submitted from one disk to the other. -/
structure SameBooks (d d' : Durable V) : Prop where
  decisions : d'.db.decisions = d.db.decisions
  orders : d'.db.orders.map OrderRow.terms = d.db.orders.map OrderRow.terms
  rows : ∀ runId iid, (d.rowState runId iid).isSome →
    (d'.rowState runId iid).isSome
  submitted : d'.submitted = d.submitted
  refused : d'.refusedDecisions = d.refusedDecisions

instance : Std.Refl (SameBooks (V := V)) :=
  ⟨fun _ => ⟨rfl, rfl, fun _ _ h => h, rfl, rfl⟩⟩

instance : IsTrans (Durable V) SameBooks :=
  ⟨fun _ _ _ h h' => ⟨h'.1.trans h.1, h'.2.trans h.2,
    fun r i hs => h'.3 r i (h.3 r i hs), h'.4.trans h.4, h'.5.trans h.5⟩⟩

section Books

variable {d d' : Durable V}

theorem SameTables.books (h : SameTables d d') : SameBooks d d' where
  decisions := h.decisions
  orders := by rw [h.orders]
  rows := by
    intro r i hs
    rw [Durable.rowState, h.positionLocal]
    exact hs
  submitted := h.submitted
  refused := h.refused

theorem SameBooks.termsOf (h : SameBooks d d') (cid : ClientOrderId) :
    d'.db.termsOf cid = d.db.termsOf cid := by
  rw [Db.termsOf_eq, Db.termsOf_eq, h.orders]

/-- Writing a position row takes none away. -/
theorem rowState_upsert_isSome {p : PositionLocalRow} {r : String}
    {i : InstrumentId} (h : (d.rowState r i).isSome) :
    (Durable.rowState r i
      { d with db := d.db.upsertPositionLocal p }).isSome := by
  by_cases heq : (r, i) = (p.runId, p.instrumentId)
  · obtain ⟨rfl, rfl⟩ := Prod.mk.inj heq
    rw [rowState_upsert_self]
    rfl
  · rw [Durable.rowState, Db.positionLocal_upsertPositionLocal_ne heq]
    exact h

theorem SameBooks.position (d : Durable V) (p : PositionLocalRow) :
    SameBooks d { d with db := d.db.upsertPositionLocal p } :=
  ⟨rfl, rfl, fun _ _ => rowState_upsert_isSome, rfl, rfl⟩

/-- Updating the row of an order that is there. -/
theorem SameBooks.order {o : OrderRow}
    (h : ∃ x ∈ d.db.orders, x.clientOrderId = o.clientOrderId) :
    SameBooks d { d with db := d.db.upsertOrder o } :=
  ⟨rfl, KeyedTable.map_upsert (fun _ => rfl) h, fun _ _ h => h, rfl, rfl⟩

end Books

/-! ## Tables a process can go on from -/

/-- What the tables a submit was made over held of its order. -/
structure Announced (runId : String) (s : Submission) : Prop where
  decision : ∃ x ∈ s.tables.decisions,
    x.key = (runId, s.request.instrumentId, s.decision) ∧
      x.clientOrderId = some s.request.clientOrderId
  order : s.tables.termsOf s.request.clientOrderId =
    some (s.request.terms runId)
  position : ∃ row,
    s.tables.positionLocal runId s.request.instrumentId = some row ∧
      row.state.pending = true

/-- What the tables still hold of an order that was submitted: its terms, and
no later decision under its id. -/
structure Backed (runId : String) (d : Durable V) (s : Submission) : Prop where
  announced : Announced runId s
  terms : d.db.termsOf s.request.clientOrderId = some (s.request.terms runId)
  decision : ∃ x ∈ d.db.decisions,
    x.key = (runId, s.request.instrumentId, s.decision) ∧
      x.clientOrderId = some s.request.clientOrderId
  last : ∀ x ∈ d.db.decisions, x.runId = runId →
    x.instrumentId = s.request.instrumentId →
    x.clientOrderId = some s.request.clientOrderId → x.seq ≤ s.decision

/-- An id of the run is of an order of the run; an instrument with a decision
or an order has a position row; no decision was refused. -/
structure Sound (runId : String) (d : Durable V) : Prop where
  named : ∀ t ∈ d.db.orders.map OrderRow.terms, ∀ i n,
    t.clientOrderId = clientOrderId runId i n →
      t.runId = runId ∧ t.instrumentId = i
  ordered : ∀ t ∈ d.db.orders.map OrderRow.terms, t.runId = runId →
    (d.rowState runId t.instrumentId).isSome
  decided : ∀ x ∈ d.db.decisions, x.runId = runId →
    (d.rowState runId x.instrumentId).isSome
  refused : d.refusedDecisions = []
  backed : ∀ s ∈ d.submitted, Backed runId d s

/-- A router's counters cover the rows of its instrument, and the order it
waits for has its row. -/
structure Counts (d : Durable V) (r : InstrumentRouter S) : Prop where
  seq : ∀ t ∈ d.db.orders.map OrderRow.terms, ∀ n,
    t.clientOrderId = clientOrderId r.runId r.instrumentId n → n ≤ r.seq
  dseq : ∀ x ∈ d.db.decisions, x.runId = r.runId →
    x.instrumentId = r.instrumentId → x.seq ≤ r.dseq
  pending : ∀ cid since i, r.pendingCid = some cid →
    r.pendingSince = some since → r.pendingIntent = some i →
    d.db.termsOf cid = some ⟨cid, r.runId, r.instrumentId, i.side, i.quantity,
      i.reduceOnly, since⟩

section Keep

variable {d d' : Durable V} {r r' : InstrumentRouter S}

theorem Sound.books (hs : Sound runId d) (h : SameBooks d d') :
    Sound runId d' where
  named := by rw [h.orders]; exact hs.named
  ordered := by
    rw [h.orders]
    exact fun t ht hr => h.rows _ _ (hs.ordered t ht hr)
  decided := by
    rw [h.decisions]
    exact fun x hx hr => h.rows _ _ (hs.decided x hx hr)
  refused := h.refused.trans hs.refused
  backed := by
    rw [h.submitted]
    intro s hsub
    obtain ⟨ha, ht, hd, hl⟩ := hs.backed s hsub
    exact ⟨ha, by rw [h.termsOf]; exact ht, by rw [h.decisions]; exact hd,
      by rw [h.decisions]; exact hl⟩

theorem Counts.books (hc : Counts d r) (h : SameBooks d d') : Counts d' r where
  seq := by rw [h.orders]; exact hc.seq
  dseq := by rw [h.decisions]; exact hc.dseq
  pending := by
    intro cid since i h1 h2 h3
    rw [h.termsOf]
    exact hc.pending cid since i h1 h2 h3

/-- A router with the same counters that waits for the same order or none. -/
theorem Counts.duty (hc : Counts d r) (h : SameDuty r r') : Counts d r' where
  seq := by
    rw [h.runId, h.instrumentId, h.seq]
    exact hc.seq
  dseq := by
    rw [h.runId, h.instrumentId, h.dseq]
    exact hc.dseq
  pending := by
    intro cid since i h1 h2 h3
    rw [h.runId, h.instrumentId]
    rcases h.pending with hn | ⟨hp1, hp2, hp3⟩
    · rw [hn] at h1
      cases h1
    · exact hc.pending cid since i (hp1 ▸ h1) (hp2 ▸ h2) (hp3 ▸ h3)

/-! ### A decision row -/

/-- A decision under no id an order was submitted with. -/
theorem Sound.decide (hs : Sound runId d) {x : DecisionRow}
    (hrow : x.runId = runId → (d.rowState runId x.instrumentId).isSome)
    (hnew : ∀ s ∈ d.submitted,
      x.clientOrderId ≠ some s.request.clientOrderId) :
    Sound runId { d with db := decidedDb d.db x } where
  named := hs.named
  ordered := hs.ordered
  decided := by
    intro y hy hr
    rcases List.mem_append.mp hy with hy | hy
    · exact hs.decided y hy hr
    · rw [List.mem_singleton.mp hy] at hr ⊢
      exact hrow hr
  refused := hs.refused
  backed := by
    intro s hsub
    obtain ⟨ha, ht, ⟨y, hy, hk⟩, hl⟩ := hs.backed s hsub
    refine ⟨ha, ht, ⟨y, List.mem_append_left _ hy, hk⟩, ?_⟩
    intro z hz h1 h2 h3
    rcases List.mem_append.mp hz with hz | hz
    · exact hl z hz h1 h2 h3
    · rw [List.mem_singleton.mp hz] at h3
      exact absurd h3 (hnew s hsub)

/-- Another router's counters do not see it. -/
theorem Counts.decide (hc : Counts d r) {x : DecisionRow}
    (h : x.runId = r.runId → x.instrumentId = r.instrumentId →
      x.seq ≤ r.dseq) :
    Counts { d with db := decidedDb d.db x } r where
  seq := hc.seq
  dseq := by
    intro y hy h1 h2
    rcases List.mem_append.mp hy with hy | hy
    · exact hc.dseq y hy h1 h2
    · rw [List.mem_singleton.mp hy] at h1 h2 ⊢
      exact h h1 h2
  pending := hc.pending

/-! ### An order row -/

variable {o : OrderRow}

theorem upsertOrder_new (h : d.db.termsOf o.clientOrderId = none) :
    (d.db.upsertOrder o).orders = d.db.orders ++ [o] := by
  refine KeyedTable.upsert_of_none ?_
  rw [Db.termsOf, Option.map_eq_none_iff] at h
  exact h

theorem termsOf_new_self (h : d.db.termsOf o.clientOrderId = none) :
    (d.db.upsertOrder o).termsOf o.clientOrderId = some o.terms := by
  rw [Db.termsOf_eq] at h ⊢
  rw [upsertOrder_new (by rw [Db.termsOf_eq]; exact h), List.map_append,
    List.find?_append, h]
  simp [OrderRow.terms]

/-- An order that is there keeps its terms. -/
theorem termsOf_new (h : d.db.termsOf o.clientOrderId = none)
    {cid : ClientOrderId} {t : Terms} (ht : d.db.termsOf cid = some t) :
    (d.db.upsertOrder o).termsOf cid = some t := by
  rw [Db.termsOf_eq] at ht ⊢
  rw [upsertOrder_new h, List.map_append, List.find?_append, ht]
  rfl

theorem mem_terms_new (h : d.db.termsOf o.clientOrderId = none) {t : Terms}
    (ht : t ∈ (d.db.upsertOrder o).orders.map OrderRow.terms) :
    t ∈ d.db.orders.map OrderRow.terms ∨ t = o.terms := by
  rw [upsertOrder_new h, List.map_append] at ht
  simpa using ht

theorem Sound.order (hs : Sound runId d)
    (hnew : d.db.termsOf o.clientOrderId = none)
    (hrow : (d.rowState runId o.instrumentId).isSome)
    (hname : ∀ i n, o.clientOrderId = clientOrderId runId i n →
      o.runId = runId ∧ o.instrumentId = i) :
    Sound runId { d with db := d.db.upsertOrder o } where
  named := by
    intro t ht i n hcid
    rcases mem_terms_new hnew ht with ht | rfl
    · exact hs.named t ht i n hcid
    · exact hname i n hcid
  ordered := by
    intro t ht hr
    rcases mem_terms_new hnew ht with ht | rfl
    · exact hs.ordered t ht hr
    · exact hrow
  decided := hs.decided
  refused := hs.refused
  backed := by
    intro s hsub
    obtain ⟨ha, ht, hd, hl⟩ := hs.backed s hsub
    exact ⟨ha, termsOf_new hnew ht, hd, hl⟩

theorem Counts.order (hc : Counts d r)
    (hnew : d.db.termsOf o.clientOrderId = none)
    (h : ∀ n, o.clientOrderId = clientOrderId r.runId r.instrumentId n →
      n ≤ r.seq) :
    Counts { d with db := d.db.upsertOrder o } r where
  seq := by
    intro t ht n hcid
    rcases mem_terms_new hnew ht with ht | rfl
    · exact hc.seq t ht n hcid
    · exact h n hcid
  dseq := hc.dseq
  pending := fun cid since i h1 h2 h3 =>
    termsOf_new hnew (hc.pending cid since i h1 h2 h3)

/-- The number after a router's counter is free. -/
theorem Counts.next_free (hc : Counts d r) :
    d.db.termsOf (nextCid r) = none := by
  rw [Option.eq_none_iff_forall_ne_some]
  intro t ht
  obtain ⟨hmem, hcid⟩ := Db.termsOf_cid ht
  have hle := hc.seq t hmem (r.seq + 1) hcid
  omega

/-! ### A submit -/

theorem Sound.submit (hs : Sound runId d) {v : V} {x : Submission}
    (hx : Backed runId d x) :
    Sound runId
      { d with venue := v, submitted := d.submitted ++ [x] } where
  named := hs.named
  ordered := hs.ordered
  decided := hs.decided
  refused := hs.refused
  backed := by
    intro s hsub
    rcases List.mem_append.mp hsub with hsub | hsub
    · exact ⟨(hs.backed s hsub).1, (hs.backed s hsub).2, (hs.backed s hsub).3,
        (hs.backed s hsub).4⟩
    · rw [List.mem_singleton.mp hsub]
      exact ⟨hx.1, hx.2, hx.3, hx.4⟩

end Keep

/-! ## What a router does -/

/-- Every disk passed through is sound. -/
def Books {μ : Type} (runId : String) (w : World (Durable V) μ) : Prop :=
  ∀ d ∈ w.moments, Sound runId d

section Worlds

variable {μ ν : Type} {w : World (Durable V) μ}

theorem Books.disk (h : Books runId w) : Sound runId w.disk :=
  h _ w.mem_moments_self

theorem Books.commit (h : Books runId w) {m : ν} {d : Durable V}
    (hd : Sound runId d) : Books runId ⟨m, d, w.past ++ [w.disk]⟩ := by
  intro a ha
  rcases List.mem_append.mp ha with ha | ha
  · exact h a ha
  · rw [List.mem_singleton.mp ha]
    exact hd

theorem Books.along {w' : World (Durable V) μ} (h : Books runId w)
    (ha : World.Along SameBooks w w') : Books runId w' := by
  intro d hd
  rcases ha.between.2 d hd with hold | hnew
  · exact h d hold
  · exact h.disk.books hnew.1

end Worlds

section Router

variable {g : State → State → Prop}
  {w w' : World (Durable V) (InstrumentRouter S)}

/-- What a router's world must be for its next order to get a new id. -/
structure Orderly (runId : String)
    (w : World (Durable V) (InstrumentRouter S)) : Prop where
  run : w.mem.runId = runId
  books : Books runId w
  linked : Linked w
  counts : Counts w.disk w.mem

theorem Orderly.row (h : Orderly runId w) :
    (w.disk.rowState runId w.mem.instrumentId).isSome := by
  have hl : w.disk.rowState w.mem.runId w.mem.instrumentId =
      some w.mem.state := h.linked
  rw [← h.run, hl]
  rfl

/-- The next decision row has a key of its own. -/
theorem Counts.no_collision {d : Durable V} {r : InstrumentRouter S}
    (hc : Counts d r) {row : DecisionRow}
    (hkey : row.key = (r.runId, r.instrumentId, r.dseq + 1)) :
    ¬ ∃ x ∈ d.db.decisions, x.key = row.key := by
  rintro ⟨x, hx, hk⟩
  rw [hkey] at hk
  simp only [DecisionRow.key, Prod.mk.injEq] at hk
  have hle := hc.dseq x hx hk.1 hk.2.1
  omega

/-- An order being announced has an id no submit was made under. -/
theorem Orderly.unsent (h : Orderly runId w) :
    ∀ s ∈ w.disk.submitted, nextCid w.mem ≠ s.request.clientOrderId := by
  intro s hs heq
  have ht := (h.books.disk.backed s hs).terms
  rw [← heq, h.counts.next_free] at ht
  cases ht

section Announce

variable {intent : Intent} {target : Option Decimal}
  {verdicts : List (String × String)}

/-- The disk once the decision row is written. -/
def decidedDisk (ex : Executor V) (intent : Intent) (target : Option Decimal)
    (verdicts : List (String × String))
    (w : World (Durable V) (InstrumentRouter S)) : Durable V :=
  { w.disk with
    db := decidedDb w.disk.db (intentRow ex intent target verdicts w) }

/-- The disk once the order row is written too. -/
def announcedDisk (ex : Executor V) (intent : Intent) (target : Option Decimal)
    (verdicts : List (String × String))
    (w : World (Durable V) (InstrumentRouter S)) : Durable V :=
  { w.disk with db := announcedDb ex intent target verdicts w }

theorem Orderly.decided (h : Orderly runId w) :
    Sound runId (decidedDisk ex intent target verdicts w) := by
  refine h.books.disk.decide (fun _ => h.row) fun s hs heq => ?_
  exact h.unsent s hs (Option.some.inj heq)

theorem Orderly.announced (h : Orderly runId w) :
    Sound runId (announcedDisk ex intent target verdicts w) := by
  refine Sound.order (d := decidedDisk ex intent target verdicts w) h.decided
    h.counts.next_free h.row fun i n hcid => ?_
  have hcid' : clientOrderId runId w.mem.instrumentId (w.mem.seq + 1) =
      clientOrderId runId i n := by
    rw [← hcid, ← h.run]
    rfl
  exact ⟨h.run, (clientOrderId_inj hcid').1⟩

/-- The three writes of an announcement leave sound tables each. -/
theorem Orderly.announcement (h : Orderly runId w) :
    Books runId (announcedWorld ex intent target verdicts w) := by
  have h₁ : Sound runId (decidedDisk ex intent target verdicts w) := h.decided
  have h₂ : Sound runId (announcedDisk ex intent target verdicts w) :=
    h.announced
  have h₃ := h₂.books (.position _
    ((waiting w.mem intent (ex.clock w.disk.venue)).localRow
      (ex.clock w.disk.venue)))
  let m := waiting w.mem intent (ex.clock w.disk.venue)
  exact ((h.books.commit (m := m) h₁).commit (m := m) h₂).commit (m := m) h₃

theorem Counts.advance {d : Durable V} {r : InstrumentRouter S}
    (hc : Counts d r) : Counts d (numbered r) where
  seq := fun t ht n hcid => (hc.seq t ht n hcid).trans (Nat.le_succ _)
  dseq := fun x hx h1 h2 => (hc.dseq x hx h1 h2).trans (Nat.le_succ _)
  pending := hc.pending

/-- The announcing router counts its order and waits for its row. -/
theorem Counts.announced (h : Orderly runId w) :
    Counts (announcedWorld ex intent target verdicts w).disk
      (waiting w.mem intent (ex.clock w.disk.venue)) := by
  have hnew := h.counts.next_free
  have hnumbered : Counts (announcedDisk ex intent target verdicts w)
      (numbered w.mem) := by
    refine Counts.order (d := decidedDisk ex intent target verdicts w)
      (h.counts.advance.decide fun _ _ => le_refl _) hnew fun n hcid => ?_
    exact (clientOrderId_inj hcid).2.symm.le
  have hwaiting : Counts (announcedDisk ex intent target verdicts w)
      (waiting w.mem intent (ex.clock w.disk.venue)) :=
    { seq := hnumbered.seq
      dseq := hnumbered.dseq
      pending := by
        intro cid since i h1 h2 h3
        cases h1
        cases h2
        cases h3
        exact termsOf_new_self
          (d := decidedDisk ex intent target verdicts w)
          (o := w.mem.orderRow (nextCid w.mem) intent
            (ex.clock w.disk.venue)) hnew }
  exact hwaiting.books (.position _ _)

/-- The other routers' counters do not see it. -/
theorem Counts.other_announced {r : InstrumentRouter S} (h : Orderly runId w)
    (hc : Counts w.disk r) (hr : r.runId = runId)
    (hi : r.instrumentId ≠ w.mem.instrumentId) :
    Counts (announcedWorld ex intent target verdicts w).disk r := by
  have hdecided : Counts (decidedDisk ex intent target verdicts w) r :=
    hc.decide fun _ heq => absurd heq.symm hi
  have hannounced : Counts (announcedDisk ex intent target verdicts w) r := by
    refine Counts.order (d := decidedDisk ex intent target verdicts w) hdecided
      h.counts.next_free fun n hcid => ?_
    have hcid' : clientOrderId runId w.mem.instrumentId (w.mem.seq + 1) =
        clientOrderId runId r.instrumentId n := by
      rw [hr] at hcid
      rw [← hcid, ← h.run]
      rfl
    exact absurd (clientOrderId_inj hcid').1.symm hi
  exact hannounced.books (.position _ _)

end Announce

/-- What is submitted is the announced order, with its rows in the tables. -/
theorem Orderly.backed (h : Orderly runId w) {req : OrderRequest}
    (hready : Ready req w) :
    Backed runId w.disk ⟨req, w.mem.dseq, w.disk.db⟩ := by
  obtain ⟨i, hi, hside, hquantity, hreduce⟩ := hready.intent
  have hterms := h.counts.pending req.clientOrderId req.ts i hready.cid
    hready.since hi
  rw [h.run, ← hready.instrument, ← hside, ← hquantity, ← hreduce] at hterms
  obtain ⟨x, hx, hkey, hxcid⟩ := hready.decision
  rw [h.run, ← hready.instrument] at hkey
  have hl : w.disk.rowState w.mem.runId w.mem.instrumentId =
      some w.mem.state := h.linked
  rw [h.run, ← hready.instrument, Durable.rowState,
    Option.map_eq_some_iff] at hl
  obtain ⟨row, hrow, hstate⟩ := hl
  have hpending : row.state.pending = true := by
    rw [hstate, hready.pending]
    split <;> rfl
  refine ⟨⟨⟨x, hx, hkey, hxcid⟩, hterms, row, hrow, hpending⟩, hterms,
    ⟨x, hx, hkey, hxcid⟩, fun y hy h1 h2 _ => ?_⟩
  exact h.counts.dseq y hy (h1.trans h.run.symm)
    (h2.trans hready.instrument)

/-- A change of a router leaves sound tables at every write, and counters that
cover them: its own, and those of the routers of other instruments. -/
theorem Change.orderly (hchange : Change ex g w w') (h : Orderly runId w) :
    Orderly runId w' ∧ ∀ r : InstrumentRouter S, Counts w.disk r →
      r.runId = runId → r.instrumentId ≠ w.mem.instrumentId →
      Counts w'.disk r := by
  have hid := hchange.identity
  have hl := hchange.linked h.linked
  have hr : w'.mem.runId = runId := hid.1.trans h.run
  -- a change that orders nothing and keeps the counters
  have hquiet : ∀ {w₁ : World (Durable V) (InstrumentRouter S)},
      World.Along SameBooks w w₁ → Counts w.disk w₁.mem →
      Books runId w₁ ∧ Counts w₁.disk w₁.mem ∧
        ∀ r : InstrumentRouter S, Counts w.disk r → r.runId = runId →
          r.instrumentId ≠ w.mem.instrumentId → Counts w₁.disk r := by
    intro w₁ ha hc
    have hb := ha.between.1
    exact ⟨h.books.along ha, hc.books hb, fun r hr _ _ => hr.books hb⟩
  suffices hmain : Books runId w' ∧ Counts w'.disk w'.mem ∧
      ∀ r : InstrumentRouter S, Counts w.disk r → r.runId = runId →
        r.instrumentId ≠ w.mem.instrumentId → Counts w'.disk r from
    ⟨⟨hr, hmain.1, hl, hmain.2.1⟩, hmain.2.2⟩
  cases hchange with
  | memory r' hduty => exact hquiet (.memory r') (h.counts.duty hduty)
  | persist now => exact hquiet (.commit _ _ (.position _ _)) h.counts
  | enter st now hg =>
      refine hquiet (.commit _ _ (.position _ _)) ?_
      exact ⟨h.counts.seq, h.counts.dseq, h.counts.pending⟩
  | alert a =>
      exact hquiet (.commit _ _ ⟨rfl, rfl, fun _ _ h => h, rfl, rfl⟩) h.counts
  | note target verdicts text =>
      rcases record_cases ex target verdicts none none text w with
        hok | ⟨-, hcol⟩
      · rw [hok]
        refine ⟨h.books.commit (h.books.disk.decide (fun _ => h.row)
          fun _ _ heq => ?_), ?_, fun r hc _ hi => ?_⟩
        · cases heq
        · have hc : Counts w.disk { w.mem with dseq := w.mem.dseq + 1 } :=
            ⟨h.counts.seq, fun x hx h1 h2 =>
              (h.counts.dseq x hx h1 h2).trans (Nat.le_succ _),
              h.counts.pending⟩
          exact hc.decide fun _ _ => le_refl _
        · exact hc.decide fun _ heq => absurd heq.symm hi
      · exact absurd hcol (h.counts.no_collision rfl)
  | order o o' hget hsame =>
      refine hquiet (.commit _ _ (.order
        ⟨o, (KeyedTable.lookup_mem hget).1, ?_⟩)) h.counts
      exact hsame.cid.symm
  | venue v =>
      exact hquiet (.commit _ _ ⟨rfl, rfl, fun _ _ h => h, rfl, rfl⟩) h.counts
  | announce intent target verdicts hg =>
      rcases announce_cases ex intent target verdicts w with
        hok | ⟨-, hcol⟩
      · rw [hok]
        exact ⟨h.announcement, .announced h,
          fun r hc hr hi => .other_announced h hc hr hi⟩
      · exact absurd hcol (h.counts.no_collision rfl)
  | submit req v hready =>
      refine ⟨h.books.commit (h.books.disk.submit (h.backed hready)), ?_,
        fun r hc _ _ => ⟨hc.seq, hc.dseq, hc.pending⟩⟩
      exact ⟨h.counts.seq, h.counts.dseq, h.counts.pending⟩

end Router

end Polyperps
