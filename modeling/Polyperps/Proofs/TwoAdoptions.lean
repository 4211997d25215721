import Polyperps.Proofs.RecoveryTruth

/-!
# The two adoptions

A router takes the exchange's position in two places: in recovery, from its
row, and while it runs, in `_adopt_and_settle`. Where no order rests the two
leave the same size, entry price, stop and state, and with a position the same
funding. Without one the running router forgets the funding it had counted;
recovery keeps what the row says.
-/

namespace Polyperps

open ProgramLogic InstrumentRouter
open Recovery (frozenRow held)

variable {V S : Type} {ex : Executor V} {iid : InstrumentId}
  {snap : AccountSnapshot} {row : PositionLocalRow}

/-- What an adoption sets. -/
structure Adoption where
  size : Decimal
  entry : Option Decimal
  stopTrigger : Option Decimal
  cumulativeFunding : Decimal
  state : State
  deriving DecidableEq

def InstrumentRouter.adoption (r : InstrumentRouter S) : Adoption :=
  ⟨r.size, r.entry, r.stopTrigger, r.cumulativeFunding, r.state⟩

/-- The adoption of a snapshot by a router that is not frozen; `funding` is
what it counts without a position. -/
def adopted (funding : Decimal) (snap : AccountSnapshot) (iid : InstrumentId)
    (limits : RiskLimits) : Adoption :=
  match held snap iid with
  | some pos =>
      ⟨pos.size, some pos.entryPrice,
        some ((snap.stop iid).getD
          (stopPrice (decide (0 < pos.size)) pos.entryPrice limits)),
        pos.cumulativeFunding, .opened⟩
  | none => ⟨0, none, none, funding, .flat⟩

/-- A running router with the fields of the row. -/
structure HasFields (row : PositionLocalRow) (r : InstrumentRouter S) :
    Prop where
  instrumentId : r.instrumentId = row.instrumentId
  state : r.state = row.state
  size : r.size = row.size
  entry : r.entry = row.entryPrice
  stopTrigger : r.stopTrigger = row.stopTrigger
  cumulativeFunding : r.cumulativeFunding = row.cumulativeFunding

/-- The funding counted without a position is all the two can differ in. -/
theorem adopted_eq_iff {funding : Decimal} {limits : RiskLimits} :
    adopted funding snap iid limits = adopted 0 snap iid limits ↔
      snap.size iid ≠ 0 ∨ funding = 0 := by
  rw [← held_isSome]
  unfold adopted
  cases held snap iid with
  | some pos => simp
  | none => simp

/-! ## The running router -/

/-- The state that follows from the size. -/
def settled (r : InstrumentRouter S) : InstrumentRouter S :=
  { r with state := if r.size ≠ 0 then .opened else .flat }

/-- A position's stop: the one the snapshot shows, or one placed now. -/
theorem adoptStop_spec {w : World (Durable V) (InstrumentRouter S)}
    {pos : PositionView} (hprice : 0 < pos.entryPrice)
    (hplace : ∀ trigger v,
      (ex.placeStop pos.instrumentId trigger v).1 = .ok ()) :
    Prog.wp (adoptStop ex snap pos)
      (fun _ w' => w'.mem =
        { w.mem with
          stopTrigger := some ((snap.stop w.mem.instrumentId).getD
            (stopPrice (decide (0 < pos.size)) pos.entryPrice
              w.mem.limits)) })
      (fun _ _ => False) w := by
  unfold adoptStop
  rw [Prog.wp_bind, Prog.wp_mem]
  cases hstop : snap.stop w.mem.instrumentId with
  | some trigger => exact rfl
  | none =>
      dsimp only
      rw [Prog.wp_catching, Prog.wp_bind]
      refine Prog.wp_mono (placeStop_spec w pos w.mem.limits)
        (fun t w' h => ?_) (fun e w' h => ?_)
      · obtain ⟨rfl, -, rfl⟩ := h
        rfl
      · exfalso
        rcases h.2.2 with h | ⟨t, e, h⟩
        · exact absurd hprice (not_lt.mpr h)
        · rw [hplace] at h
          cases h

/-- `_adopt` leaves the state to its caller. -/
theorem adopt_spec {w : World (Durable V) (InstrumentRouter S)}
    (hprice : ∀ pos ∈ snap.positions, pos.size ≠ 0 → 0 < pos.entryPrice)
    (hplace : ∀ iid trigger v, (ex.placeStop iid trigger v).1 = .ok ()) :
    Prog.wp (adopt ex snap)
      (fun _ w' => w'.mem.state = w.mem.state ∧ (settled w'.mem).adoption =
        adopted 0 snap w.mem.instrumentId w.mem.limits)
      (fun _ _ => False) w := by
  unfold adopt
  rw [Prog.wp_bind, Prog.wp_modifyMem, Prog.wp_bind, Prog.wp_mem]
  unfold adopted
  cases hheld : held snap w.mem.instrumentId with
  | none =>
      have hview : (snap.position w.mem.instrumentId).filter (·.size ≠ 0) =
          none := hheld
      dsimp only
      rw [hview]
      dsimp only
      rw [Prog.wp_bind, Prog.wp_modifyMem, wp_persist]
      refine ⟨rfl, ?_⟩
      simp [settled, adoption]
  | some pos =>
      have hview : (snap.position w.mem.instrumentId).filter (·.size ≠ 0) =
          some pos := hheld
      dsimp only
      rw [hview]
      obtain ⟨hid, hne⟩ := held_instrument hheld
      have hpos : pos ∈ snap.positions :=
        List.mem_of_find?_eq_some (Option.filter_eq_some_iff.mp hheld).1
      dsimp only
      rw [Prog.wp_bind, Prog.wp_modifyMem, Prog.wp_bind]
      refine Prog.wp_mono (adoptStop_spec (hprice pos hpos hne)
        (hplace pos.instrumentId)) (fun _ w' h => ?_) fun _ _ hf => hf
      rw [wp_persist, wrote_mem, h]
      refine ⟨rfl, ?_⟩
      simp [settled, adoption, hne]

/-- `_adopt_and_settle` has set the fields when it asks the venue to cancel
the stop. -/
theorem adoptAndSettle_adoption {w : World (Durable V) (InstrumentRouter S)}
    (hfrozen : w.mem.state.frozen = false)
    (hprice : ∀ pos ∈ snap.positions, pos.size ≠ 0 → 0 < pos.entryPrice)
    (hplace : ∀ iid trigger v, (ex.placeStop iid trigger v).1 = .ok ()) :
    (adoptAndSettle ex snap w).2.mem.adoption =
      adopted 0 snap w.mem.instrumentId w.mem.limits := by
  suffices hwp : Prog.wp (adoptAndSettle ex snap)
      (fun _ w' => w'.mem.adoption =
        adopted 0 snap w.mem.instrumentId w.mem.limits)
      (fun _ w' => w'.mem.adoption =
        adopted 0 snap w.mem.instrumentId w.mem.limits) w from
    Prog.wp_state.mp hwp
  unfold adoptAndSettle
  rw [Prog.wp_bind]
  refine Prog.wp_mono (adopt_spec hprice hplace) (fun _ w₁ h => ?_)
    fun _ _ hf => hf.elim
  obtain ⟨hstate, h⟩ := h
  rw [Prog.wp_bind, settleState, Prog.wp_bind, Prog.wp_mem,
    if_neg (by rw [hstate, hfrozen]; nofun), wp_setState]
  generalize hw₂ : entered w₁ _ _ = w₂
  have hmem : w₂.mem = settled w₁.mem := by
    rw [← hw₂]
    rfl
  rw [← hmem] at h
  rw [Prog.wp_bind, Prog.wp_mem, Prog.wp_ite]
  split
  · rw [Prog.wp_bind]
    rcases call_cases (ex.cancelStop w₂.mem.instrumentId) w₂ with
      ⟨a, ha, hc⟩ | ⟨e, hc⟩
    · rw [Prog.wp_of_ok hc]
      exact h
    · rw [Prog.wp_of_error hc]
      exact h
  · exact h

/-! ## Recovery -/

/-- A row that is not frozen, at the end of its router's turn. -/
theorem taken_adoption (tables : Db) (r : InstrumentRouter S)
    (hfrozen : row.state.frozen = false) :
    (taken snap (some row) tables iid r).adoption =
      adopted row.cumulativeFunding snap iid r.limits := by
  have hrow : frozenRow (some row) = false := hfrozen
  unfold taken takenFrom adopted
  rw [hrow]
  cases held snap iid <;> rfl

/-- What is left of the snapshot's lists comes from them, and no order
rests. -/
def Stage.within (snap : AccountSnapshot) : Stage → Prop
  | .unknown rest => ∀ pos ∈ rest, pos ∈ snap.positions
  | .foreign rest => rest = []
  | _ => True

/-- Where recovery stands: the routers that had their turn have adopted. -/
structure Adopts (snap : AccountSnapshot) (c₀ : Recovery S) (db₀ : Db)
    (st : Stage) (w : World (Durable V) (Recovery S)) : Prop where
  within : st.within snap
  limits : ∀ j, (w.mem.pf.router j).limits = (c₀.pf.router j).limits
  adopted : ∀ j ∈ c₀.pf.ids, j ∉ st.todo → ∀ row,
    db₀.positionLocal c₀.pf.runId j = some row → row.state.frozen = false →
    (w.mem.pf.router j).adoption =
      adopted row.cumulativeFunding snap j (c₀.pf.router j).limits

section Loops

variable {c₀ : Recovery S} {db₀ : Db} {w w' : World (Durable V) (Recovery S)}

/-- What leaves the routers alone. -/
theorem Adopts.next {st st' : Stage} (h : Adopts snap c₀ db₀ st w)
    (hpf : w'.mem.pf = w.mem.pf) (htodo : st'.todo = st.todo)
    (hwithin : st'.within snap) : Adopts snap c₀ db₀ st' w' where
  within := hwithin
  limits := by rw [hpf]; exact h.limits
  adopted := by rw [hpf, htodo]; exact h.adopted

/-- One turn of the router loop. -/
theorem Turned.adopts {j : InstrumentId} {rest : List InstrumentId}
    (h : Turned ex snap (db₀.positionLocal c₀.pf.runId j) j w w')
    (ha : Adopts snap c₀ db₀ (.routers (j :: rest)) w) :
    Adopts snap c₀ db₀ (.routers rest) w' where
  within := trivial
  limits := by
    intro k
    rw [h.pf]
    by_cases hk : k = j
    · subst hk
      rw [Portfolio.setRouter_self]
      exact (taken_same _ _ _ _ _).2.2.1.trans (ha.limits k)
    · rw [Portfolio.setRouter_of_ne hk]
      exact ha.limits k
  adopted := by
    intro k hid hn row hrow hfrozen
    rw [h.pf]
    by_cases hk : k = j
    · subst hk
      rw [Portfolio.setRouter_self, hrow, taken_adoption _ _ hfrozen,
        ha.limits]
    · rw [Portfolio.setRouter_of_ne hk]
      refine ha.adopted k hid (fun hmem => ?_) row hrow hfrozen
      rcases List.mem_cons.mp hmem with heq | hmem
      · exact hk heq
      · exact hn hmem

/-- With no order resting, the order loop touches no router. -/
theorem Classified.pf_eq {o : OrderRow} {rows : List PositionLocalRow}
    (h : Classified ex snap rows o w w') (hopen : snap.openOrders = []) :
    w'.mem.pf = w.mem.pf := by
  cases h with
  | done h => rfl
  | relabelled rep status h hstatus hno => rfl
  | restored rep st r db h hrests hst hr hdb =>
      rw [hopen] at hrests
      cases hrests

theorem recovers_adopts {rows : List PositionLocalRow}
    (hrows : rows = db₀.getPositionsLocal c₀.pf.runId)
    (hopen : snap.openOrders = [])
    (hprice : ∀ pos ∈ snap.positions, pos.size ≠ 0 → 0 < pos.entryPrice)
    (hplace : ∀ iid trigger v, (ex.placeStop iid trigger v).1 = .ok ()) :
    Recovers ex snap rows c₀.pf.runId (Adopts snap c₀ db₀)
      (fun _ => False) where
  calm := fun ha h => ha.next h.pf rfl ha.within
  turn := by
    intro j rest w w' ha h
    rw [hrows, find_getPositionsLocal] at h
    exact h.adopts ha
  unknown := fun ha => ha.next rfl rfl fun _ h => h
  guard := fun ha h => ha.next h.pf rfl
    fun pos hpos => ha.within pos (List.mem_cons_of_mem _ hpos)
  orders := fun ha => ha.next rfl rfl trivial
  classify := fun ha h => ha.next (h.pf_eq hopen) rfl trivial
  foreign := fun ha => ha.next rfl rfl hopen
  cancel := fun ha _ => nomatch ha.within
  turnRaised := by
    rintro j rest w w' - - ⟨pos, hpos, -, h⟩
    have hmem : pos ∈ snap.positions :=
      List.mem_of_find?_eq_some (Option.filter_eq_some_iff.mp hpos).1
    rcases h with h | ⟨t, e, h⟩
    · exact absurd (hprice pos hmem (held_instrument hpos).2) (not_lt.mpr h)
    · rw [hplace] at h
      cases h
  guardRaised := by
    rintro pos rest w w' ha - hne - (h | ⟨t, e, h⟩)
    · exact absurd (hprice pos (ha.within pos List.mem_cons_self) hne)
        (not_lt.mpr h)
    · rw [hplace] at h
      cases h
  cancelRaised := fun ha _ _ => nomatch ha.within
  raised := fun hf _ => hf

end Loops

/-! ## The result -/

namespace Site

/-- Recovery, where no order rests. -/
theorem recover_adopts {c : Recovery S} {d : Durable V}
    (hsnap : (ex.snapshot d.venue).1 = .ok snap)
    (hopen : snap.openOrders = [])
    (hprice : ∀ pos ∈ snap.positions, pos.size ≠ 0 → 0 < pos.entryPrice)
    (hplace : ∀ iid trigger v, (ex.placeStop iid trigger v).1 = .ok ()) :
    ∃ w', recovering ex d c = (.ok (), w') ∧
      Adopts snap c d.db (.foreign []) w' := by
  have hwp : Prog.wp (recover ex)
      (fun _ w' => Adopts snap c d.db (.foreign []) w')
      (fun _ _ => False) ⟨c, d, []⟩ := by
    refine recover_rule (w := ⟨c, d, []⟩) (I := Adopts snap c d.db)
      (E := fun _ => False) rfl rfl rfl (fun e he => ?_)
      fun snap' hsnap' => ?_
    · rw [show (ex.snapshot d.venue).1 = .error e from he] at hsnap
      cases hsnap
    · have heq : Except.ok snap' = (Except.ok snap : Except Exc _) :=
        (show (ex.snapshot d.venue).1 = .ok snap' from hsnap').symm.trans hsnap
      obtain rfl := Except.ok.inj heq
      exact ⟨⟨trivial, fun _ => rfl, fun j hj hn => absurd hj hn⟩,
        recovers_adopts rfl hopen hprice hplace⟩
  obtain ⟨⟨⟩, w', hret, h⟩ := Prog.wp_returns hwp fun _ _ hf => hf
  exact ⟨w', hret, h⟩

/-- **The two adoptions agree but for the funding of a position that is
gone.** Where no order rests, recovery returns, and what it makes of a row
that is not frozen is what `_adopt_and_settle` makes of a running router with
the row's fields, exactly if the venue holds a position of the instrument or
the row counts no funding. -/
theorem adoptions_agree {c : Recovery S} {d : Durable V}
    {w : World (Durable V) (InstrumentRouter S)} (hid : iid ∈ c.pf.ids)
    (hsnap : (ex.snapshot d.venue).1 = .ok snap)
    (hopen : snap.openOrders = [])
    (hprice : ∀ pos ∈ snap.positions, pos.size ≠ 0 → 0 < pos.entryPrice)
    (hplace : ∀ iid trigger v, (ex.placeStop iid trigger v).1 = .ok ())
    (hrow : d.db.positionLocal c.pf.runId iid = some row)
    (hfrozen : row.state.frozen = false) (hfields : HasFields row w.mem)
    (hlimits : w.mem.limits = (c.pf.router iid).limits) :
    (recovering ex d c).1 = .ok () ∧
      (((recovering ex d c).2.mem.pf.router iid).adoption =
          (adoptAndSettle ex snap w).2.mem.adoption ↔
        snap.size iid ≠ 0 ∨ row.cumulativeFunding = 0) := by
  obtain ⟨w', hret, h⟩ := recover_adopts hsnap hopen hprice hplace (c := c)
  have hiid : w.mem.instrumentId = iid :=
    hfields.instrumentId.trans
      (Prod.mk.inj (KeyedTable.lookup_mem hrow).2).2
  rw [hret, h.adopted iid hid nofun row hrow hfrozen,
    adoptAndSettle_adoption (by rw [hfields.state]; exact hfrozen) hprice
      hplace, hiid, hlimits]
  exact ⟨rfl, adopted_eq_iff⟩

/-! ### A position whose stop fired while nothing ran -/

section Emptied

/-- A venue with nothing on it. -/
def emptied : Executor Unit where
  name := "live"
  submit req _ := (.ok ⟨req.clientOrderId, none, .accepted, "", 0⟩, ())
  cancel _ _ := (.ok (), ())
  placeStop _ _ _ := (.ok (), ())
  cancelStop _ _ := (.ok (), ())
  snapshot _ :=
    (.ok { oneContract with positions := [], stops := [] }, ())
  clock _ := 0

/-- The row of a contract that was paid five in funding. -/
def earningRow : PositionLocalRow :=
  ⟨"run", 1, .opened, 1, some 100, some 85, -5, 0⟩

def earningDisk : Durable Unit where
  db := { Db.empty with positionsLocal := [earningRow] }
  venue := ()
  submitted := []
  refusedDecisions := []

/-- The router that held it. -/
def earning : World (Durable Unit) (InstrumentRouter Unit) where
  mem := InstrumentRouter.loadLocal earningRow earningDisk.db
    (oneRouter.pf.router 1)
  disk := earningDisk
  past := []

theorem earning_fields : HasFields earningRow earning.mem :=
  ⟨rfl, rfl, rfl, rfl, rfl, rfl⟩

theorem funding_outlives_position :
    ¬ ∀ (row : PositionLocalRow) (d : Durable Unit)
      (w : World (Durable Unit) (InstrumentRouter Unit))
      (snap : AccountSnapshot), (emptied.snapshot d.venue).1 = .ok snap →
      snap.openOrders = [] →
      (∀ pos ∈ snap.positions, pos.size ≠ 0 → 0 < pos.entryPrice) →
      d.db.positionLocal "run" 1 = some row → row.state.frozen = false →
      HasFields row w.mem → w.mem.limits = (oneRouter.pf.router 1).limits →
      ((recovering emptied d oneRouter).2.mem.pf.router 1).adoption =
        (adoptAndSettle emptied snap w).2.mem.adoption := by
  intro hall
  have h := hall earningRow earningDisk earning _ rfl rfl nofun rfl rfl
    earning_fields rfl
  have hne : ((recovering emptied earningDisk oneRouter).2.mem.pf.router
        1).adoption.cumulativeFunding ≠
      (adoptAndSettle emptied { oneContract with positions := [], stops := [] }
        earning).2.mem.adoption.cumulativeFunding := by
    decide +kernel
  exact hne (congrArg Adoption.cumulativeFunding h)

theorem adoptions_agree_emptied :
    (recovering emptied earningDisk oneRouter).1 = .ok () ∧
      (((recovering emptied earningDisk oneRouter).2.mem.pf.router 1).adoption =
          (adoptAndSettle emptied
            { oneContract with positions := [], stops := [] }
            earning).2.mem.adoption ↔
        ({ oneContract with positions := [], stops := [] } :
            AccountSnapshot).size 1 ≠ 0 ∨
          earningRow.cumulativeFunding = 0) :=
  adoptions_agree (by decide) rfl rfl nofun (fun _ _ _ => rfl) rfl rfl
    earning_fields rfl

end Emptied

end Site

end Polyperps
