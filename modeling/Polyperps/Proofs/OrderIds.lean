import Polyperps.Proofs.OrderBooks

/-!
# Every order has an id of its own

Over runs of processes on one database. A running portfolio's counters cover
its rows (`Numbered`), a recovery counts them again, and every disk passed
through on the way is sound. So wherever a process is stopped, the next one
goes on with numbers that no order has: no decision row is ever refused, no
id is submitted for two orders, and what is submitted has its rows.
-/

namespace Polyperps

open ProgramLogic InstrumentRouter
open Recovery (frozenRow held)

variable {V S : Type} {ex : Executor V} {runId : String} {iid : InstrumentId}

/-! ## Operations -/

section Portfolio

variable {down : InstrumentId → Option Decimal → Prop}
  {w w' : World (Durable V) (Portfolio S)}

/-- A portfolio whose next orders get new ids. -/
structure Numbered (runId : String) (w : World (Durable V) (Portfolio S)) :
    Prop where
  running : Running runId w
  books : Books runId w
  counts : ∀ j ∈ w.mem.ids, Counts w.disk (w.mem.router j)

theorem Numbered.orderly (h : Numbered runId w) (hid : iid ∈ w.mem.ids) :
    Orderly runId (seen w iid) where
  run := (h.running.router iid hid).1
  books := h.books
  linked := h.running.linked hid
  counts := h.counts iid hid

/-- One router's change. -/
theorem Numbered.changed (hw : Numbered runId w) (hid : iid ∈ w.mem.ids)
    {g : State → State → Prop} {r : World (Durable V) (InstrumentRouter S)}
    (h : Change ex g (seen w iid) r) : Numbered runId (putBack w iid r) := by
  obtain ⟨hown, hothers⟩ := h.orderly (hw.orderly hid)
  refine ⟨hw.running.changed hid h, hown.books, fun j hj => ?_⟩
  by_cases hji : j = iid
  · subst hji
    simp only [putBack, Portfolio.setRouter_self]
    exact hown.counts
  · simp only [putBack, Portfolio.setRouter_of_ne hji]
    obtain ⟨hr, hi, -⟩ := hw.running.router j hj
    refine hothers (w.mem.router j) (hw.counts j hj) hr ?_
    rw [hi, show (seen w iid).mem.instrumentId = iid from
      (hw.running.router iid hid).2.1]
    exact hji

theorem Numbered.moved (hw : Numbered runId w) (hid : iid ∈ w.mem.ids)
    {g : State → State → Prop} {r : World (Durable V) (InstrumentRouter S)}
    (h : Moves ex g (seen w iid) r) : Numbered runId (putBack w iid r) := by
  induction h with
  | refl => rw [putBack_seen]; exact hw
  | tail _ hc ih =>
      have hn := Numbered.changed (w := putBack w iid _) ih hid
        (by rw [seen_putBack]; exact hc)
      rw [putBack_putBack] at hn
      exact hn

theorem Deed.numbered (h : Deed ex down w w') (hw : Numbered runId w) :
    Numbered runId w' := by
  have hrun := h.running hw.running
  cases h with
  | own pf' hr hids hrouter =>
      refine ⟨hrun, hw.books, ?_⟩
      rw [hids, hrouter]
      exact hw.counts
  | alert a =>
      have hb : SameBooks w.disk (wrote w (w.disk.db.insertAlert
          w.mem.runId a)).disk := ⟨rfl, rfl, fun _ _ h => h, rfl, rfl⟩
      exact ⟨hrun, hw.books.commit (hw.books.disk.books hb),
        fun j hj => (hw.counts j hj).books hb⟩
  | venue v =>
      have hb : SameBooks w.disk (called w v).disk :=
        ⟨rfl, rfl, fun _ _ h => h, rfl, rfl⟩
      exact ⟨hrun, hw.books.commit (hw.books.disk.books hb),
        fun j hj => (hw.counts j hj).books hb⟩
  | router iid hid h => exact hw.changed hid h
  | shutdown iid hid mark exchangeSize hdown =>
      obtain ⟨g, hg⟩ := shutdown_any ex (seen w iid) mark exchangeSize
      exact hw.moved hid hg

theorem Deeds.numbered (h : Deeds ex down w w') (hw : Numbered runId w) :
    Numbered runId w' := by
  induction h with
  | refl => exact hw
  | tail _ hd ih => exact hd.numbered ih

end Portfolio

/-! ## Recovery -/

section Recovery

variable {c₀ : Recovery S} {d₀ : Durable V} {snap : AccountSnapshot}
  {w w' : World (Durable V) (Recovery S)}

/-- The orders that have not had their turn. -/
def Stage.due : Stage → List OrderRow
  | .orders rest => rest
  | _ => []

/-- Where recovery stands: nothing was ordered since it started, the routers
that had their turn count their rows, and none waits for an order that it
announced itself. -/
structure Loading (runId : String) (c₀ : Recovery S) (d₀ : Durable V)
    (st : Stage) (w : World (Durable V) (Recovery S)) : Prop where
  along : World.Along SameBooks ⟨c₀, d₀, []⟩ w
  intent : ∀ j, (w.mem.pf.router j).pendingIntent = none
  counts : ∀ j ∈ c₀.pf.ids, j ∉ st.todo →
    Counts w.disk (w.mem.pf.router j)
  due : ∀ o ∈ st.due, o.terms ∈ w.disk.db.orders.map OrderRow.terms

theorem Loading.books {st : Stage} (h : Loading runId c₀ d₀ st w) :
    SameBooks d₀ w.disk := h.along.between.1

/-- What touches no table and no router. -/
theorem Loading.next {st st' : Stage} (h : Loading runId c₀ d₀ st w)
    (ha : World.Along SameTables w w') (hpf : w'.mem.pf = w.mem.pf)
    (htodo : st'.todo = st.todo)
    (hdue : ∀ o ∈ st'.due, o.terms ∈ w.disk.db.orders.map OrderRow.terms) :
    Loading runId c₀ d₀ st' w' := by
  have hb : World.Along SameBooks w w' := ha.mono fun _ _ => SameTables.books
  refine ⟨trans_of _ h.along hb, ?_, ?_, ?_⟩
  · rw [hpf]
    exact h.intent
  · rw [htodo, hpf]
    exact fun j hj hn => (h.counts j hj hn).books hb.between.1
  · rw [hb.between.1.orders]
    exact hdue

/-! ### The router loop -/

theorem le_foldl_max {l : List ℕ} {n : ℕ} (h : n ∈ l) :
    n ≤ l.foldl max 0 := by
  rw [List.foldl_max]
  exact (List.le_max?_getD_of_mem h).trans (le_max_right _ _)

/-- The counters of a turn are those that were loaded. -/
theorem taken_counters (snap : AccountSnapshot) (row : Option PositionLocalRow)
    (tables : Db) (iid : InstrumentId) (r : InstrumentRouter S) :
    let r' := taken snap row tables iid r
    r'.seq = (loaded row tables r).seq ∧ r'.dseq = (loaded row tables r).dseq ∧
      r'.pendingIntent = r.pendingIntent := by
  unfold taken takenFrom loaded
  cases row <;> cases held snap iid <;> exact ⟨rfl, rfl, rfl⟩

/-- The counters `load_local` derives cover the rows they are derived from. -/
theorem loadLocal_covers {d : Durable V} {row : PositionLocalRow}
    {r : InstrumentRouter S} (hs : Sound runId d) (hr : r.runId = runId) :
    (∀ t ∈ d.db.orders.map OrderRow.terms, ∀ n,
      t.clientOrderId = clientOrderId runId r.instrumentId n →
        n ≤ (r.loadLocal row d.db).seq) ∧
      ∀ x ∈ d.db.decisions, x.runId = runId →
        x.instrumentId = r.instrumentId →
          x.seq ≤ (r.loadLocal row d.db).dseq := by
  constructor
  · intro t ht n hcid
    obtain ⟨h1, h2⟩ := hs.named t ht _ n hcid
    obtain ⟨o, ho, rfl⟩ := List.mem_map.mp ht
    refine le_foldl_max ?_
    have hnum : orderNumber o.clientOrderId = some n := by
      rw [show o.clientOrderId = _ from hcid, orderNumber_clientOrderId]
    rw [hr, List.mem_filterMap]
    refine ⟨o, ?_, hnum⟩
    rw [List.mem_filter, Db.listOrders, List.mem_insertionSort,
      List.mem_filter]
    exact ⟨⟨ho, decide_eq_true h1⟩, decide_eq_true h2⟩
  · intro x hx h1 h2
    refine le_foldl_max (List.mem_map_of_mem ?_)
    rw [hr, Db.listDecisions, List.mem_insertionSort, List.mem_filter]
    exact ⟨hx, by simp [h1, h2]⟩

/-- A router that has had its turn counts its rows: those the tables hold, or
none where it has no position row. -/
theorem taken_counts (snap : AccountSnapshot) {d : Durable V} {r : InstrumentRouter S}
    (h₀ : Sound runId d₀) (hb : SameBooks d₀ d) (hr : r.runId = runId)
    (hi : r.instrumentId = iid) (hintent : r.pendingIntent = none) :
    Counts d (taken snap (d₀.db.positionLocal runId iid) d.db iid r) := by
  have hsame := taken_same snap (d₀.db.positionLocal runId iid) d.db iid r
  obtain ⟨hs, hd, hp⟩ :=
    taken_counters snap (d₀.db.positionLocal runId iid) d.db iid r
  have hcover : (∀ t ∈ d.db.orders.map OrderRow.terms, ∀ n,
      t.clientOrderId = clientOrderId runId iid n →
        n ≤ (loaded (d₀.db.positionLocal runId iid) d.db r).seq) ∧
      ∀ x ∈ d.db.decisions, x.runId = runId → x.instrumentId = iid →
        x.seq ≤ (loaded (d₀.db.positionLocal runId iid) d.db r).dseq := by
    cases hrow : d₀.db.positionLocal runId iid with
    | some row =>
        rw [← hi]
        exact loadLocal_covers (h₀.books hb) hr
    | none =>
        have hnone : ¬ (d₀.rowState runId iid).isSome := by
          rw [Durable.rowState, hrow]
          simp
        constructor
        · intro t ht n hcid
          rw [hb.orders] at ht
          obtain ⟨h1, rfl⟩ := h₀.named t ht _ n hcid
          exact absurd (h₀.ordered t ht h1) hnone
        · intro x hx h1 h2
          rw [hb.decisions] at hx
          exact absurd (h2 ▸ h₀.decided x hx h1) hnone
  generalize taken snap (d₀.db.positionLocal runId iid) d.db iid r = r' at *
  refine ⟨?_, ?_, fun cid since i _ _ h3 => ?_⟩
  · rw [hsame.1, hsame.2.1, hr, hi, hs]
    exact hcover.1
  · rw [hsame.1, hsame.2.1, hr, hi, hd]
    exact hcover.2
  · rw [hp, hintent] at h3
    cases h3

/-- One turn of the router loop. -/
theorem Turned.loading {j : InstrumentId} {rest : List InstrumentId}
    (h : Turned ex snap (d₀.db.positionLocal runId j) j w w')
    (h₀ : Sound runId d₀)
    (ha : Adopting runId c₀ d₀.db (j :: rest) w)
    (hl : Loading runId c₀ d₀ (.routers (j :: rest)) w) :
    Loading runId c₀ d₀ (.routers rest) w' := by
  obtain ⟨w₁, now, halong, hdisk, hpast⟩ := h.written
  have hw : World.Along SameBooks w w' := by
    refine trans_of _ (halong.mono fun _ _ => SameTables.books) ?_
    have hw' : w' = { mem := w'.mem, disk := w'.disk
                      past := w₁.past ++ [w₁.disk] } := by
      rw [← hpast]
    rw [hw', hdisk]
    exact .commit _ _ (.position _ _)
  have hcounts := taken_counts snap h₀ hl.books
    (ha.identity j).1 (ha.identity j).2 (hl.intent j)
  refine ⟨trans_of _ hl.along hw, fun k => ?_, fun k hk hn => ?_,
    by simp [Stage.due]⟩
  · rw [h.pf]
    by_cases hkj : k = j
    · subst hkj
      rw [Portfolio.setRouter_self, (taken_counters _ _ _ _ _).2.2]
      exact hl.intent k
    · rw [Portfolio.setRouter_of_ne hkj]
      exact hl.intent k
  · rw [h.pf]
    by_cases hkj : k = j
    · subst hkj
      rw [Portfolio.setRouter_self]
      exact hcounts.books hw.between.1
    · rw [Portfolio.setRouter_of_ne hkj]
      refine (hl.counts k hk fun hmem => ?_).books hw.between.1
      rcases List.mem_cons.mp hmem with heq | hmem
      · exact hkj heq
      · exact hn hmem

/-! ### The order loop -/

/-- Relabelling an order that is there. -/
theorem SameBooks.relabel {d : Durable V} {o o' : OrderRow}
    (ho : o.terms ∈ d.db.orders.map OrderRow.terms)
    (hcid : o'.clientOrderId = o.clientOrderId) :
    SameBooks d { d with db := d.db.upsertOrder o' } := by
  obtain ⟨x, hx, ht⟩ := List.mem_map.mp ho
  exact .order ⟨x, hx, (congrArg Terms.clientOrderId ht).trans hcid.symm⟩

/-- One turn of the order loop. -/
theorem Classified.loading {o : OrderRow} {rest : List OrderRow}
    {rows : List PositionLocalRow} (h : Classified ex snap rows o w w')
    (hl : Loading runId c₀ d₀ (.orders (o :: rest)) w) :
    Loading runId c₀ d₀ (.orders rest) w' := by
  have ho := hl.due o List.mem_cons_self
  have hrest : ∀ x ∈ rest, x.terms ∈ w.disk.db.orders.map OrderRow.terms :=
    fun x hx => hl.due x (List.mem_cons_of_mem o hx)
  cases h with
  | done h => exact hl.next (refl_of _ w) rfl rfl hrest
  | relabelled rep status h hstatus hno =>
      have hb := SameBooks.relabel ho
        (show ({ o with status, updatedAt := ex.clock w.disk.venue } :
          OrderRow).clientOrderId = o.clientOrderId from rfl)
      refine ⟨trans_of _ hl.along (.commit _ _ hb), hl.intent,
        fun j hj hn => (hl.counts j hj hn).books hb, fun x hx => ?_⟩
      have hmem := hrest x hx
      rw [← hb.orders] at hmem
      exact hmem
  | restored rep st r db h hrests hst hr hdb =>
      have hp : SameBooks w.disk { w.disk with db := db } := by
        rw [hdb]
        exact .position _ _
      have hb : SameBooks { w.disk with db := db } { w.disk with
          db := db.upsertOrder { o with
            status := .adopted, updatedAt := ex.clock w.disk.venue } } := by
        refine SameBooks.relabel (d := { w.disk with db := db }) (o := o) ?_ rfl
        rw [hp.orders]
        exact ho
      have hall := trans_of SameBooks hp hb
      have hintent : r.pendingIntent = none := by
        rw [hr]
        exact hl.intent _
      refine ⟨?_, fun k => ?_, fun k hk hn => ?_, fun x hx => ?_⟩
      · refine trans_of _ hl.along (trans_of _ (.commit w.mem
          { w.disk with db := db } hp) (.commit _ _ hb))
      · show ((w.mem.pf.setRouter o.instrumentId r).router k).pendingIntent =
          none
        by_cases hko : k = o.instrumentId
        · rw [hko, Portfolio.setRouter_self]
          exact hintent
        · rw [Portfolio.setRouter_of_ne hko]
          exact hl.intent k
      · refine Counts.books (d := w.disk) ?_ hall
        show Counts w.disk ((w.mem.pf.setRouter o.instrumentId r).router k)
        by_cases hko : k = o.instrumentId
        · rw [hko, Portfolio.setRouter_self]
          have hc := hl.counts k hk hn
          rw [hko] at hc
          refine ⟨by rw [hr]; exact hc.seq, by rw [hr]; exact hc.dseq,
            fun cid since i _ _ h3 => ?_⟩
          rw [hintent] at h3
          cases h3
        · rw [Portfolio.setRouter_of_ne hko]
          exact hl.counts k hk hn
      · have hmem := hrest x hx
        rw [← hall.orders] at hmem
        exact hmem

/-- What recovery does orders nothing, and leaves counted routers. -/
theorem recovers_loading {rows : List PositionLocalRow}
    (hrows : rows = d₀.db.getPositionsLocal runId) (h₀ : Sound runId d₀) :
    Recovers ex snap rows runId
      (fun st w => Adopting runId c₀ d₀.db st.todo w ∧
        Loading runId c₀ d₀ st w)
      (fun w => World.Along SameBooks ⟨c₀, d₀, []⟩ w) := by
  have hfind : ∀ j, rows.find? (fun r => r.instrumentId = j) =
      d₀.db.positionLocal runId j := by
    intro j
    rw [hrows]
    exact find_getPositionsLocal runId j d₀.db
  have hraised : ∀ {st : Stage} {w w' : World (Durable V) (Recovery S)},
      Loading runId c₀ d₀ st w → World.Along SameTables w w' →
      World.Along SameBooks ⟨c₀, d₀, []⟩ w' :=
    fun hl ha => trans_of _ hl.along (ha.mono fun _ _ => SameTables.books)
  exact
    { calm := fun hi h => ⟨hi.1.calm h.along.between.1 h.pf,
        hi.2.next h.along h.pf rfl hi.2.due⟩
      turn := by
        intro j rest w w' hi h
        rw [hfind] at h
        exact ⟨(h.adopting (fun _ _ => True) j hi.1).1,
          h.loading h₀ hi.1 hi.2⟩
      unknown := fun hi => ⟨hi.1,
        hi.2.next (refl_of _ _) rfl rfl (by simp [Stage.due])⟩
      guard := fun hi h => ⟨hi.1.calm h.along.between.1 h.pf,
        hi.2.next h.along h.pf rfl (by simp [Stage.due])⟩
      orders := by
        intro w hi
        refine ⟨hi.1, hi.2.next (refl_of _ _) rfl rfl fun o ho => ?_⟩
        have hmem : o ∈ w.disk.db.listOrders runId := ho
        rw [Db.listOrders, List.mem_insertionSort] at hmem
        exact List.mem_map_of_mem (List.mem_filter.mp hmem).1
      classify := by
        intro o rest w w' hi h
        exact ⟨(h.adopting (fun _ _ => True) o.instrumentId
          hfind hi.1).1, h.loading hi.2⟩
      foreign := fun hi => ⟨hi.1,
        hi.2.next (refl_of _ _) rfl rfl (by simp [Stage.due])⟩
      cancel := fun hi h => ⟨hi.1.calm h.along.between.1 h.pf,
        hi.2.next h.along h.pf rfl (by simp [Stage.due])⟩
      turnRaised := fun hi ha _ => hraised hi.2 ha
      guardRaised := fun hi ha _ _ _ => hraised hi.2 ha
      cancelRaised := fun hi ha _ => hraised hi.2 ha
      raised := fun he h =>
        trans_of _ he (h.along.mono fun _ _ => SameTables.books) }

/-- A started process recovers without an order, and its routers count the
rows they find. -/
theorem recovering_loads (ex : Executor V) {c : Recovery S} {d : Durable V}
    (h : Started runId c) (hd : Sound runId d) :
    Prog.wp (recover ex)
      (fun _ w' => Adopting runId c d.db [] w' ∧
        Loading runId c d (.foreign []) w')
      (fun _ w' => World.Along SameBooks ⟨c, d, []⟩ w')
      { mem := c, disk := d, past := [] } := by
  have hcall : World.Along SameBooks
      (⟨c, d, []⟩ : World (Durable V) (Recovery S))
      (called ⟨c, d, []⟩ (ex.snapshot d.venue).2) :=
    .commit _ _ ⟨rfl, rfl, fun _ _ h => h, rfl, rfl⟩
  refine recover_rule rfl h.pfRunId.symm rfl (fun _ _ => hcall) fun snap _ =>
    ⟨⟨?_, ⟨hcall, fun j => ?_, fun j hj hn => absurd hj hn, ?_⟩⟩,
      recovers_loading rfl hd⟩
  · exact h.adopting (d := { d with venue := (ex.snapshot d.venue).2 })
  · obtain ⟨strategy, strategyState, categories, limits, exposure, hr⟩ :=
      h.router j
    show (c.pf.router j).pendingIntent = none
    rw [hr]
    rfl
  · simp [Stage.due]

end Recovery

/-! ## Runs -/

/-- Two submits under one id are of one decision and one request. -/
theorem Sound.one_order {d : Durable V} {a b : Submission}
    (hs : Sound runId d) (ha : a ∈ d.submitted) (hb : b ∈ d.submitted)
    (h : a.request.clientOrderId = b.request.clientOrderId) :
    a.request = b.request ∧ a.decision = b.decision := by
  have ba := hs.backed a ha
  have bb := hs.backed b hb
  have hterms : a.request.terms runId = b.request.terms runId := by
    have ht := ba.terms
    rw [h, bb.terms] at ht
    exact (Option.some.inj ht).symm
  have hreq : a.request = b.request := by
    revert hterms
    cases a.request
    cases b.request
    simp only [OrderRequest.terms, Terms.mk.injEq, OrderRequest.mk.injEq]
    tauto
  -- each decision is the last one of the id
  obtain ⟨x, hx, hxk, hxc⟩ := ba.decision
  obtain ⟨y, hy, hyk, hyc⟩ := bb.decision
  simp only [DecisionRow.key, Prod.mk.injEq] at hxk hyk
  have hle := bb.last x hx hxk.1 (by rw [hxk.2.1, hreq]) (by rw [hxc, h])
  have hge := ba.last y hy hyk.1 (by rw [hyk.2.1, hreq]) (by rw [hyc, h])
  exact ⟨hreq, by omega⟩

namespace Site

variable {s s' s₀ : Site V S} {h : Happening V S} {ms ds : List (Durable V)}
  {may : Site V S → Happening V S → Prop}

/-- The tables are sound, and a process that runs counts them. -/
structure Counted (runId : String) (s : Site V S) : Prop where
  steady : Steady runId s
  sound : Sound runId s.disk
  counts : ∀ pf, s.process = some pf → ∀ j ∈ pf.ids,
    Counts s.disk (pf.router j)

theorem Counted.numbered (hs : Counted runId s) {pf : Portfolio S}
    (hpf : s.process = some pf) :
    Numbered runId { mem := pf, disk := s.disk, past := [] } where
  running := hs.steady pf hpf
  books := by
    intro d hd
    rw [show d = s.disk by simpa [World.moments] using hd]
    exact hs.sound
  counts := hs.counts pf hpf

/-- Every happening passes through sound tables only. -/
theorem Step.counted (hstep : Step ex runId s h ms s')
    (hs : Counted runId s) : Counted runId s' ∧ ∀ d ∈ ms, Sound runId d := by
  have hsteady := hstep.steady hs.steady
  suffices hmain : (Sound runId s'.disk ∧ ∀ pf, s'.process = some pf →
      ∀ j ∈ pf.ids, Counts s'.disk (pf.router j)) ∧
      ∀ d ∈ ms, Sound runId d from
    ⟨⟨hsteady, hmain.1.1, hmain.1.2⟩, hmain.2⟩
  have hrecover : ∀ {d : Durable V} {c : Recovery S}, Sound runId d →
      Started runId c → Books runId (recovering ex d c).2 := by
    intro d c hd hc
    have ha := Prog.wp_state.mp (Prog.wp_mono (recovering_loads ex hc hd)
      (fun _ _ h => h.2.along) (fun _ _ h => h))
    refine Books.along (fun a ha => ?_) ha
    rw [show a = d by simpa [World.moments] using ha]
    exact hd
  cases hstep with
  | @start d c hc =>
      have hb := hrecover hs.sound hc
      refine ⟨⟨hb.disk, fun pf hpf j hj => ?_⟩, hb⟩
      obtain ⟨hok, rfl⟩ := recovered_eq_some hpf
      obtain ⟨ha, hl⟩ := Prog.wp_returned (recovering_loads ex hc
        hs.sound) hok
      exact hl.counts j (ha.ids ▸ hj) List.not_mem_nil
  | @startCut d d' c ms hc hcut =>
      have hb := hrecover hs.sound hc
      have hall : ∀ a ∈ ms ++ [d'], Sound runId a :=
        fun a ha => hb a (hcut.subset ha)
      exact ⟨⟨hall d' (by simp), by simp⟩, hall⟩
  | @perform d pf op =>
      have hn := Deeds.numbered (perform_deeds ex op ⟨pf, d, []⟩)
        (hs.numbered rfl)
      refine ⟨⟨hn.books.disk, fun pf' hpf' => ?_⟩, hn.books⟩
      cases hpf'
      exact hn.counts
  | @cut d d' pf op ms hcut =>
      have hn := Deeds.numbered (perform_deeds ex op ⟨pf, d, []⟩)
        (hs.numbered rfl)
      have hall : ∀ a ∈ ms ++ [d'], Sound runId a :=
        fun a ha => hn.books a (hcut.subset ha)
      exact ⟨⟨hall d' (by simp), by simp⟩, hall⟩
  | @clearHalt d pf j hid =>
      obtain ⟨r, hc, heq⟩ := clearing_change ex j d pf
      have hn := (hs.numbered rfl).changed hid hc
      rw [← heq] at hn
      refine ⟨⟨hn.books.disk, fun pf' hpf' => ?_⟩, hn.books⟩
      cases hpf'
      exact hn.counts
  | @stop d pf =>
      refine ⟨⟨hs.sound, by simp⟩, fun a ha => ?_⟩
      rw [List.mem_singleton.mp ha]
      exact hs.sound
  | @venue s v =>
      have hb : SameBooks s.disk { s.disk with venue := v } :=
        ⟨rfl, rfl, fun _ _ h => h, rfl, rfl⟩
      have hv := hs.sound.books hb
      refine ⟨⟨hv, fun pf hpf j hj => (hs.counts pf hpf j hj).books hb⟩,
        fun a ha => ?_⟩
      rw [List.mem_singleton.mp ha]
      exact hv
  | @strategies d pf states =>
      refine ⟨⟨hs.sound, fun pf' hpf' j hj => ?_⟩, fun a ha => ?_⟩
      · cases hpf'
        have hc := hs.counts pf rfl j hj
        exact ⟨hc.seq, hc.dseq, hc.pending⟩
      · rw [List.mem_singleton.mp ha]
        exact hs.sound

theorem Run.counted (hrun : Run ex runId may s₀ ds s)
    (h₀ : Counted runId s₀) :
    Counted runId s ∧ ∀ d ∈ ds, Sound runId d := by
  induction hrun with
  | here =>
      refine ⟨h₀, fun d hd => ?_⟩
      rw [List.mem_singleton.mp hd]
      exact h₀.sound
  | next _ _ hstep ih =>
      obtain ⟨hc, hms⟩ := hstep.counted ih.1
      refine ⟨hc, fun d hd => ?_⟩
      rcases List.mem_append.mp hd with hd | hd
      · exact ih.2 d hd
      · exact hms d hd

/-- A database in which nothing carries the run's name, at the beginning of
the record of submits. -/
structure Fresh (runId : String) (d : Durable V) : Prop where
  decisions : ∀ x ∈ d.db.decisions, x.runId ≠ runId
  orders : ∀ o ∈ d.db.orders, o.runId ≠ runId ∧
    ∀ i n, o.clientOrderId ≠ clientOrderId runId i n
  submitted : d.submitted = []
  refused : d.refusedDecisions = []

theorem Fresh.sound {d : Durable V} (h : Fresh runId d) : Sound runId d where
  named := by
    intro t ht i n hcid
    obtain ⟨o, ho, rfl⟩ := List.mem_map.mp ht
    exact absurd hcid ((h.orders o ho).2 i n)
  ordered := by
    intro t ht hr
    obtain ⟨o, ho, rfl⟩ := List.mem_map.mp ht
    exact absurd hr (h.orders o ho).1
  decided := fun x hx hr => absurd hr (h.decisions x hx)
  refused := h.refused
  backed := by rw [h.submitted]; nofun

/-- **An id is for one order, and its rows come first.** In every run of
processes on one database, stopped anywhere: no decision row was refused,
what was submitted had its decision row, its order row and a pending position
row before, and two submits under one id are the same request. -/
theorem orders_announced_once (hfresh : Fresh runId s₀.disk)
    (h₀ : s₀.process = none) (hrun : Run ex runId anything s₀ ds s) :
    ∀ d ∈ ds, d.refusedDecisions = [] ∧
      (∀ a ∈ d.submitted, Announced runId a) ∧
      ∀ a ∈ d.submitted, ∀ b ∈ d.submitted,
        a.request.clientOrderId = b.request.clientOrderId →
          a.request = b.request ∧ a.decision = b.decision := by
  intro d hd
  have hs := (hrun.counted ⟨steady_of_none h₀, hfresh.sound,
    fun pf hpf => by rw [h₀] at hpf; cases hpf⟩).2 d hd
  exact ⟨hs.refused, fun a ha => (hs.backed a ha).announced,
    fun a ha b hb h => hs.one_order ha hb h⟩

theorem haltedDisk_fresh : Fresh "run" haltedDisk :=
  ⟨by simp [haltedDisk, Db.empty], by simp [haltedDisk, Db.empty], rfl, rfl⟩

/-- The shutdown of the process that recovers from `haltedDisk` submits one
order. -/
theorem orders_announced_once_shutDown :
    shutDown.disk.submitted.map (fun a => a.request.clientOrderId) =
        ["run-1-1"] ∧
      ∀ d ∈ [haltedDisk] ++ haltedProcess.moments ++ shutDown.moments,
        d.refusedDecisions = [] ∧
        (∀ a ∈ d.submitted, Announced "run" a) ∧
        ∀ a ∈ d.submitted, ∀ b ∈ d.submitted,
          a.request.clientOrderId = b.request.clientOrderId →
            a.request = b.request ∧ a.decision = b.decision := by
  have hrun : Run holding "run" anything ⟨haltedDisk, none⟩
      ([haltedDisk] ++ haltedProcess.moments ++ shutDown.moments)
      ⟨shutDown.disk, some shutDown.mem⟩ :=
    .next (.next .here (h := .start oneRouter) trivial haltedProcess_step)
      (h := .perform (.onBar [] .shutdown)) trivial shutDown_step
  exact ⟨by decide +kernel, orders_announced_once haltedDisk_fresh rfl hrun⟩

end Site

end Polyperps
