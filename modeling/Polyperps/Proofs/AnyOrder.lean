import Polyperps.Proofs.Coherent
import Polyperps.Proofs.Stranded

/-!
# The order of one order's events

The fills and updates of an order come in any order, and each order takes
other branches of the handlers: a fill may find its order pending, already
filled in part, cancelled, or flattened. What they leave in the end depends on
totals alone: how much was executed, what was paid for it, and how the order
ended. `Outstanding` gives the router's fields as functions of these totals,
`Stands` says that a router is where they put it, and one event moves it from
the totals before to the totals after. Totals do not see a permutation.
-/

namespace Polyperps

open ProgramLogic InstrumentRouter

/-! ## What a list of events comes to -/

/-- An update after which an order changes no more. -/
def OrderStatus.final : OrderStatus → Bool
  | .filled | .cancelled | .autoCancelled | .rejected => true
  | _ => false

theorem OrderStatus.final_of_ends {s : OrderStatus} (h : s.ends = true) :
    s.final = true := by
  cases s
  all_goals first | rfl | cases h

/-- The status an event ends its order with. -/
def Event.final? : Event → Option OrderStatus
  | .order ev => if ev.status.final then some ev.status else none
  | _ => none

namespace Totals

/-- The quantity the events execute. -/
def executed (evs : List Event) : Decimal :=
  ((evs.filterMap Event.fill?).map FillUpdate.quantity).sum

/-- What is paid for it. -/
def paid (evs : List Event) : Decimal :=
  ((evs.filterMap Event.fill?).map fun ev => ev.quantity * ev.price).sum

/-- The ends among the events. -/
def finals (evs : List Event) : List OrderStatus :=
  evs.filterMap Event.final?

variable {evs evs' : List Event}

theorem executed_perm (h : evs.Perm evs') :
    executed evs = executed evs' := ((h.filterMap _).map _).sum_eq

theorem paid_perm (h : evs.Perm evs') :
    paid evs = paid evs' := ((h.filterMap _).map _).sum_eq

theorem finals_perm (h : evs.Perm evs') :
    (finals evs).Perm (finals evs') := h.filterMap _

end Totals

/-- An order in flight, with what its router held when it was sent: an entry
from nothing, or an exit for the whole position. -/
structure Outstanding where
  cid : ClientOrderId
  iid : InstrumentId
  side : Side
  quantity : Decimal
  held : Decimal
  entry : Option Decimal
  waiting : State
  kind : (held = 0 ∧ waiting = .entryPending) ∨
    (held ≠ 0 ∧ waiting = .exitPending ∧
      side = (if 0 < held then .sell else .buy) ∧ quantity = |held|)

namespace Outstanding

variable (o : Outstanding)

/-- The router's size once `x` of the order was executed. -/
def size (x : Decimal) : Decimal := o.held + o.side.sign * x

/-- Its entry price, once `v` was paid for that. -/
def price (x v : Decimal) : Option Decimal :=
  if o.size x = 0 then none
  else if o.held = 0 then some (v / x)
  else o.entry

/-- The state it stands in, and the order it waits for: an entry ends with its
first fill, an exit with its last, and a cancelled order at once. -/
def standing (x : Decimal) (ended : Bool) : State × Option ClientOrderId :=
  if ended = true ∨ (o.waiting = .entryPending ↔ o.size x ≠ 0) then
    (if o.size x ≠ 0 then .opened else .flat, none)
  else (o.waiting, some o.cid)

variable {o} {x v q p : Decimal}

theorem sign_ne_zero (side : Side) : side.sign ≠ 0 := by
  cases side <;> simp [Side.sign]

theorem size_entry (h : o.held = 0) : o.size x = 0 ↔ x = 0 := by
  rw [size, h, zero_add, mul_eq_zero]
  exact or_iff_right (sign_ne_zero o.side)

/-- The size of an exit, by the sign of the position. -/
theorem size_exit (h : o.held ≠ 0) :
    (0 < o.held ∧ o.quantity = o.held ∧ o.size x = o.quantity - x) ∨
      (o.held < 0 ∧ o.quantity = -o.held ∧ o.size x = x - o.quantity) := by
  obtain ⟨h0, -⟩ | ⟨-, -, hside, hq⟩ := o.kind
  · exact absurd h0 h
  rcases lt_or_gt_of_ne h with hneg | hpos
  · right
    rw [abs_of_neg hneg] at hq
    refine ⟨hneg, hq, ?_⟩
    rw [size, hside, if_neg (not_lt.mpr hneg.le), hq, Side.sign]
    ring
  · left
    rw [abs_of_pos hpos] at hq
    refine ⟨hpos, hq, ?_⟩
    rw [size, hside, if_pos hpos, hq, Side.sign]
    ring

theorem size_exit_eq_zero (h : o.held ≠ 0) : o.size x = 0 ↔ x = o.quantity := by
  obtain ⟨-, -, hs⟩ | ⟨-, -, hs⟩ := size_exit (x := x) h
  · rw [hs, sub_eq_zero]
    exact eq_comm
  · rw [hs, sub_eq_zero]

theorem size_add : o.size (x + q) = o.size x + o.side.sign * q := by
  rw [size, size]
  ring

/-- A size that stays on its side of zero, or reaches it, is below the order's
quantity in the way the fills go. -/
theorem abs_size_exit (h : o.held ≠ 0) (hx : x ≤ o.quantity) :
    |o.size x| = o.quantity - x := by
  obtain ⟨-, -, hs⟩ | ⟨-, -, hs⟩ := size_exit (x := x) h
  · rw [hs, abs_of_nonneg (sub_nonneg.mpr hx)]
  · rw [hs, abs_of_nonpos (sub_nonpos.mpr hx), neg_sub]

theorem abs_size_entry (h : o.held = 0) (hx : 0 ≤ x) : |o.size x| = x := by
  rw [size, h, zero_add]
  cases o.side
  · rw [Side.sign, one_mul, abs_of_nonneg hx]
  · rw [Side.sign, neg_one_mul, abs_neg, abs_of_nonneg hx]

/-- Two sizes that are not zero have one sign. -/
theorem size_pos_iff (hx : 0 ≤ x) (hq : 0 < q) (hle : x + q ≤ o.quantity)
    (h0 : o.size x ≠ 0) (h1 : o.size (x + q) ≠ 0) :
    0 < o.size x ↔ 0 < o.size (x + q) := by
  by_cases h : o.held = 0
  · have hx0 : x ≠ 0 := fun hz => h0 ((size_entry h).mpr hz)
    have hpos : 0 < x := lt_of_le_of_ne hx hx0.symm
    rw [size, size, h, zero_add, zero_add]
    cases o.side
    · simp only [Side.sign, one_mul]
      exact ⟨fun _ => by linarith, fun _ => hpos⟩
    · simp only [Side.sign, neg_one_mul, neg_pos]
      exact ⟨fun _ => by linarith, fun _ => by linarith⟩
  · have hne : x + q ≠ o.quantity := fun hz => h1 ((size_exit_eq_zero h).mpr hz)
    have hlt : x + q < o.quantity := lt_of_le_of_ne hle hne
    rcases size_exit (x := x) h with ⟨hp, hh, hs⟩ | ⟨hn, hh, hs⟩
    · obtain ⟨-, -, hs'⟩ | ⟨hn, -, -⟩ := size_exit (x := x + q) h
      · rw [hs, hs']
        exact ⟨fun _ => by linarith, fun _ => by linarith⟩
      · exact absurd hp (not_lt.mpr hn.le)
    · obtain ⟨hp, -, -⟩ | ⟨-, -, hs'⟩ := size_exit (x := x + q) h
      · exact absurd hp (not_lt.mpr hn.le)
      · rw [hs, hs']
        exact ⟨fun _ => by linarith, fun _ => by linarith⟩

/-- What a fill makes of a router's size and price is what the totals say. -/
theorem filled_stands {S : Type} {r : InstrumentRouter S} {ev : FillUpdate}
    (hside : ev.side = o.side) (hx : 0 ≤ x) (hq : 0 < ev.quantity)
    (hle : x + ev.quantity ≤ o.quantity) (hv : x = 0 → v = 0)
    (hsize : r.size = o.size x) (hprice : r.entry = o.price x v) :
    (filled ev r).size = o.size (x + ev.quantity) ∧
      (filled ev r).entry =
        o.price (x + ev.quantity) (v + ev.quantity * ev.price) := by
  have hdelta : o.size x + ev.delta = o.size (x + ev.quantity) := by
    rw [size_add, FillUpdate.delta, hside]
  simp only [filled, hsize, hprice, hdelta, true_and]
  have hx' : x + ev.quantity ≠ 0 := by linarith
  by_cases h1 : o.size (x + ev.quantity) = 0
  · rw [if_pos (Or.inr (Or.inl h1)), if_neg (not_not.mpr h1), price, if_pos h1]
  by_cases h0 : o.size x = 0
  · rw [if_pos (Or.inl h0), if_pos h1, price, if_neg h1]
    have hheld : o.held = 0 := by
      by_contra h
      rw [size_exit_eq_zero h] at h0
      linarith
    have hx0 : x = 0 := (size_entry hheld).mp h0
    rw [if_pos hheld, hv hx0, hx0, zero_add, zero_add,
      mul_div_cancel_left₀ _ hq.ne']
  have hiff := size_pos_iff hx hq hle h0 h1
  have hold : o.price x v = if o.held = 0 then some (v / x) else o.entry :=
    if_neg h0
  rw [if_neg (by simp only [not_or, not_not]; exact ⟨h0, h1, hiff⟩), hold,
    price, if_neg h1]
  by_cases hheld : o.held = 0
  · have habs := abs_size_entry hheld hx
    have habs' := abs_size_entry (x := x + ev.quantity) hheld (by linarith)
    have hx0 : x ≠ 0 := fun hz => h0 ((size_entry hheld).mpr hz)
    have hd : |ev.delta| = ev.quantity := by
      rw [FillUpdate.delta]
      cases ev.side
      · rw [Side.sign, one_mul, abs_of_pos hq]
      · rw [Side.sign, neg_one_mul, abs_neg, abs_of_pos hq]
    rw [habs, habs', if_pos (by linarith), if_pos hheld, if_pos hheld, hd,
      Option.getD_some, mul_div_cancel₀ _ hx0]
  · have habs := abs_size_exit hheld (x := x) (by linarith)
    have habs' := abs_size_exit hheld hle
    rw [habs, habs', if_neg (by linarith), if_neg hheld, if_neg hheld]

/-! ### The state -/

theorem standing_settled {e : Bool}
    (h : e = true ∨ (o.waiting = .entryPending ↔ o.size x ≠ 0)) :
    o.standing x e =
      (if o.size x ≠ 0 then .opened else .flat, none) := if_pos h

theorem standing_waiting {ended : Bool}
    (h : ¬ (ended = true ∨ (o.waiting = .entryPending ↔ o.size x ≠ 0))) :
    o.standing x ended = (o.waiting, some o.cid) := if_neg h

/-- A router stands frozen by no event of the order. -/
theorem standing_not_frozen {ended : Bool} :
    (o.standing x ended).1.frozen = false := by
  unfold standing
  split
  · split <;> rfl
  · rcases o.kind with h | h
    · rw [h.2]
      rfl
    · rw [h.2.1]
      rfl

/-- What a fill finds an entry in: open, or with nothing executed. -/
theorem standing_entry {e : Bool} (h : o.held = 0) :
    o.waiting = .entryPending ∧
      o.standing x e =
        if x ≠ 0 then (.opened, none)
        else if e = true then (.flat, none)
        else (.entryPending, some o.cid) := by
  obtain ⟨-, hw⟩ | ⟨hne, -⟩ := o.kind
  swap
  · exact absurd h hne
  refine ⟨hw, ?_⟩
  have hs : o.size x ≠ 0 ↔ x ≠ 0 := not_congr (size_entry h)
  rw [standing, hw]
  by_cases hx : x ≠ 0
  · rw [if_pos (Or.inr (iff_of_true rfl (hs.mpr hx))), if_pos (hs.mpr hx),
      if_pos hx]
  · rw [if_neg hx, if_neg (mt hs.mp hx)]
    cases e
    · rw [if_neg]
      · rfl
      · simpa [hs] using hx
    · rfl

/-- And an exit: closed, given up with the rest held, or still going. -/
theorem standing_exit {e : Bool} (h : o.held ≠ 0) :
    o.waiting = .exitPending ∧
      o.standing x e =
        if x = o.quantity then (.flat, none)
        else if e = true then (.opened, none)
        else (.exitPending, some o.cid) := by
  obtain ⟨h0, -⟩ | ⟨-, hw, -, -⟩ := o.kind
  · exact absurd h0 h
  refine ⟨hw, ?_⟩
  have hs : o.size x = 0 ↔ x = o.quantity := size_exit_eq_zero h
  rw [standing, hw]
  by_cases hx : x = o.quantity
  · rw [if_pos (Or.inr (iff_of_false nofun (not_not.mpr (hs.mpr hx)))),
      if_neg (not_not.mpr (hs.mpr hx)), if_pos hx]
  · rw [if_neg hx, if_pos (mt hs.mp hx)]
    cases e
    · rw [if_neg]
      · rfl
      · simpa [hs] using hx
    · rfl

end Outstanding

/-! ## The order's row -/

/-- The average price of `x` for which `v` was paid. -/
def average (x v : Decimal) : Option Decimal :=
  if x = 0 then none else some (v / x)

/-- The row counts `x` for `v`; where it has an end that is `st`, and it has
one if `last`. -/
structure Recorded (o : Outstanding) (st : OrderStatus) (x v : Decimal)
    (last : Bool) (row : OrderRow) : Prop where
  quantity : row.quantity = o.quantity
  filledQuantity : row.filledQuantity = x
  avgPrice : row.avgPrice = average x v
  own : row.status.terminal = true → row.status = .update st
  last : last = true → row.status = .update st

namespace Recorded

variable {o : Outstanding} {st : OrderStatus} {x v : Decimal} {last : Bool}
  {row : OrderRow} {ev : FillUpdate}

theorem not_gaveUp (h : Recorded o st x v last row) :
    row.status.gaveUp = false := by
  by_contra hg
  have hterm : row.status.terminal = true := by
    revert hg
    cases row.status <;> simp [RowStatus.gaveUp, RowStatus.terminal]
  rw [h.own hterm] at hg
  exact hg rfl

theorem averagePrice_eq (h : Recorded o st x v last row) (hx : 0 ≤ x)
    (hq : 0 < ev.quantity) (hv : x = 0 → v = 0) :
    averagePrice row ev = .ok ((v + ev.quantity * ev.price) /
      (x + ev.quantity)) := by
  unfold averagePrice
  rw [h.avgPrice, h.filledQuantity, average]
  by_cases hx0 : x = 0
  · rw [if_pos hx0, hv hx0, hx0, zero_add, zero_add,
      mul_div_cancel_left₀ _ hq.ne']
  · have hne : x + ev.quantity ≠ 0 := by linarith
    rw [if_neg hx0]
    dsimp only
    rw [if_neg hx0, divide_of_ne_zero hne, div_mul_cancel₀ _ hx0,
      mul_comm ev.price]

theorem terminal_update (s : OrderStatus) :
    (RowStatus.update s).terminal = s.final := by
  cases s <;> rfl

/-- An update of the order, after which the row may have its end. -/
theorem updated (h : Recorded o st x v last row) (hst : st.final = true)
    {s : OrderStatus} (hs : s.final = true → s = st) (skip : Bool)
    (hskip : skip = false → s.final = true) (now : DateTime) :
    Recorded o st x v (last || s.final) (updatedRow skip
      (fun o => { o with status := .update s }) now row) := by
  by_cases ht : row.status.terminal = true ∧ skip = true
  · have hkept : updatedRow skip (fun o => { o with status := .update s }) now
        row = row := by
      rw [updatedRow, ht.1, ht.2]
      rfl
    rw [hkept]
    exact ⟨h.quantity, h.filledQuantity, h.avgPrice, h.own,
      fun _ => h.own ht.1⟩
  have hrow : updatedRow skip (fun o => { o with status := .update s }) now
      row = row.updateWith { row with status := .update s, updatedAt := now } := by
    rw [updatedRow, if_neg]
    simpa [and_comm] using ht
  rw [hrow]
  refine ⟨h.quantity, h.filledQuantity, h.avgPrice, fun hf => ?_, fun hl => ?_⟩
  · show RowStatus.update s = _
    rw [hs (terminal_update s ▸ hf)]
  · show RowStatus.update s = _
    by_cases hf : s.final = true
    · rw [hs hf]
    · rw [Bool.eq_false_iff.mpr hf, Bool.or_false] at hl
      have hterm : row.status.terminal = true := by
        rw [h.last hl, terminal_update, hst]
      cases skip
      · exact absurd (hskip rfl) hf
      · exact absurd ⟨hterm, rfl⟩ ht

/-- A fill counted in the row: the last one makes it `filled`, and only a
filled order has one. -/
theorem filled (h : Recorded o st x v last row) (hst : st.final = true)
    (hx : 0 ≤ x) (hq : 0 < ev.quantity) (hle : x + ev.quantity ≤ o.quantity)
    (hfull : x + ev.quantity = o.quantity → st = .filled) (now : DateTime) :
    Recorded o st (x + ev.quantity) (v + ev.quantity * ev.price) last
      (updatedRow false (fun o => { o with
        status := if row.status.terminal then row.status
          else if row.quantity ≤ row.filledQuantity + ev.quantity then
            .update .filled
          else .update .partialFill
        filledQuantity := row.filledQuantity + ev.quantity
        avgPrice := some ((v + ev.quantity * ev.price) / (x + ev.quantity)) })
        now row) := by
  have hne : x + ev.quantity ≠ 0 := by linarith
  rw [h.quantity, h.filledQuantity]
  refine ⟨h.quantity, rfl, (if_neg hne).symm, ?_, fun hl => ?_⟩
  · show (if row.status.terminal = true then row.status else _).terminal = true →
      (if row.status.terminal = true then row.status else _) = _
    by_cases ht : row.status.terminal = true
    · rw [if_pos ht]
      exact h.own
    rw [if_neg ht]
    by_cases hall : o.quantity ≤ x + ev.quantity
    · rw [if_pos hall, hfull (le_antisymm hle hall)]
      exact fun _ => rfl
    · rw [if_neg hall]
      nofun
  · show (if row.status.terminal = true then row.status else _) = _
    have hend := h.last hl
    rw [if_pos (by rw [hend, terminal_update, hst]), hend]

end Recorded

/-! ## One event at its router -/

/-- A venue whose stop calls succeed. -/
structure KeepsStops {V : Type} (ex : Executor V) : Prop where
  placeStop : ∀ iid trigger v, (ex.placeStop iid trigger v).1 = .ok ()
  cancelStop : ∀ iid v, (ex.cancelStop iid v).1 = .ok ()

section Router

variable {V S : Type} {ex : Executor V} {o : Outstanding} {st : OrderStatus}
  {x v y : Decimal} {ended last : Bool} {ev : FillUpdate}
  {w w' : World (Durable V) (InstrumentRouter S)}

/-- The order has a row, which counts `x` for `v`. -/
def Rowed (o : Outstanding) (st : OrderStatus) (x v : Decimal) (last : Bool)
    (db : Db) : Prop :=
  ∃ row, db.getOrder o.cid = some row ∧ Recorded o st x v last row

/-- The router's fields are those the totals give. -/
structure Placed (o : Outstanding) (x v : Decimal) (ended : Bool)
    (r : InstrumentRouter S) : Prop where
  instrumentId : r.instrumentId = o.iid
  size : r.size = o.size x
  entry : r.entry = o.price x v
  standing : (r.state, r.pendingCid) = o.standing x ended

/-- What follows a fill leaves the size, the price and the orders, and puts
the router where `y` does. -/
structure Lands (o : Outstanding) (y : Decimal) (ended : Bool)
    (w w' : World (Durable V) (InstrumentRouter S)) : Prop where
  kept : (w'.mem.instrumentId, w'.mem.size, w'.mem.entry) =
    (w.mem.instrumentId, w.mem.size, w.mem.entry)
  standing : (w'.mem.state, w'.mem.pendingCid) = o.standing y ended
  orders : ∀ cid, w'.disk.db.getOrder cid = w.disk.db.getOrder cid

/-- Placing a stop changes no other field. -/
theorem replaceStop_lands (hex : KeepsStops ex)
    (h : (w.mem.state, w.mem.pendingCid) = o.standing y ended) :
    Prog.wp (replaceStop ex) (fun _ w' => Lands o y ended w w')
      (fun _ _ => False) w := by
  have hsame : Lands o y ended w w := ⟨rfl, h, fun _ => rfl⟩
  unfold replaceStop
  rw [Prog.wp_bind, Prog.wp_mem]
  cases w.mem.entry with
  | none => exact hsame
  | some entry =>
      dsimp only
      rw [Prog.wp_ite]
      split
      · exact hsame
      have hok := hex.placeStop w.mem.instrumentId
        (stopPrice (decide (0 < w.mem.size)) entry w.mem.limits) w.disk.venue
      simp only [Prog.wp_catching, Prog.wp_bind, wp_call]
      cases hcall : ex.placeStop w.mem.instrumentId
        (stopPrice (decide (0 < w.mem.size)) entry w.mem.limits)
        w.disk.venue with
      | mk answer v' =>
      rw [hcall] at hok
      subst hok
      simp only [Prog.wp_modifyMem, wp_persist, wp_alert]
      exact ⟨rfl, h, fun _ => rfl⟩

theorem fillFlattened_lands (hex : KeepsStops ex) {ours : Bool}
    (hf : w.mem.state.frozen = false)
    (h : (State.flat, none) = o.standing y ended) :
    Prog.wp (fillFlattened ex ev ours) (fun _ w' => Lands o y ended w w')
      (fun _ _ => False) w := by
  have hok := hex.cancelStop w.mem.instrumentId w.disk.venue
  unfold fillFlattened
  simp only [Prog.wp_bind, Prog.wp_mem, Prog.wp_modifyMem, wp_call]
  cases hcall : ex.cancelStop w.mem.instrumentId w.disk.venue with
  | mk answer v' =>
  rw [hcall] at hok
  subst hok
  simp only [hf, Bool.false_eq_true, if_false, flattenStrategy]
  split
  · exact ⟨rfl, h, fun _ => rfl⟩
  · exact ⟨rfl, h, fun _ => rfl⟩

/-- What follows a fill of the order puts the router where the new total
does. -/
theorem afterFill_lands (hex : KeepsStops ex) {sizeBefore : Decimal}
    (hcid : ev.clientOrderId = o.cid) (hx : 0 ≤ x) (hxy : x < y)
    (hle : y ≤ o.quantity) (hended : ended = true → y ≠ o.quantity)
    (hsize : w.mem.size = o.size y)
    (h : (w.mem.state, w.mem.pendingCid) = o.standing x ended) :
    Prog.wp (afterFill ex sizeBefore true ev)
      (fun _ w' => Lands o y ended w w') (fun _ _ => False) w := by
  have hfrozen : w.mem.state.frozen = false := by
    rw [show w.mem.state = (o.standing x ended).1 from congrArg Prod.fst h]
    exact Outstanding.standing_not_frozen
  unfold afterFill
  rw [Prog.wp_bind, Prog.wp_mem]
  by_cases hheld : o.held = 0
  · -- an entry: the first fill opens it, the later ones find it open
    have hy : y ≠ 0 := (lt_of_le_of_lt hx hxy).ne'
    have hsize0 : w.mem.size ≠ 0 := by
      rw [hsize]
      exact mt (Outstanding.size_entry hheld).mp hy
    have hopened : ((.opened, none) : State × Option ClientOrderId) =
        o.standing y ended := by
      rw [(Outstanding.standing_entry hheld).2, if_pos hy]
    rw [(Outstanding.standing_entry hheld).2] at h
    by_cases hx0 : x ≠ 0
    · rw [if_pos hx0] at h
      obtain ⟨hstate, hpend⟩ := Prod.mk.inj h
      rw [if_neg (by rw [hstate]; simp), if_neg hsize0, if_neg (by simp [hfrozen]),
        if_pos ⟨rfl, by rw [hstate]; nofun⟩]
      exact ⟨rfl, h.trans hopened, fun _ => rfl⟩
    rw [if_neg hx0] at h
    cases ended with
    | true =>
        rw [if_pos rfl] at h
        obtain ⟨hstate, hpend⟩ := Prod.mk.inj h
        rw [if_neg (by rw [hstate]; simp), if_neg hsize0,
          if_neg (by simp [hfrozen]), if_neg (by simp [hstate]), Prog.wp_bind,
          wp_alert, if_pos hstate, Prog.wp_bind, wp_setState]
        refine Prog.wp_mono (replaceStop_lands hex (o := o) (y := y) ?_)
          (fun _ w' hw' => ⟨hw'.kept, hw'.standing, hw'.orders⟩)
          fun _ _ hf => hf
        rw [← hopened, ← hpend]
        rfl
    | false =>
        rw [if_neg (by simp)] at h
        obtain ⟨hstate, hpend⟩ := Prod.mk.inj h
        rw [if_pos ⟨hstate, by rw [hpend, hcid], hsize0⟩, Prog.wp_bind,
          Prog.wp_modifyMem, Prog.wp_bind, wp_setState]
        exact Prog.wp_mono (replaceStop_lands hex hopened)
          (fun _ w' hw' => ⟨hw'.kept, hw'.standing, hw'.orders⟩)
          fun _ _ hf => hf
  · -- an exit: only the last fill closes it
    have hxq : x ≠ o.quantity := (lt_of_lt_of_le hxy hle).ne
    rw [(Outstanding.standing_exit hheld).2, if_neg hxq] at h
    have hstate : w.mem.state ≠ .entryPending ∧ w.mem.state ≠ .flat := by
      cases ended
      · rw [(Prod.mk.inj h).1]
        exact ⟨nofun, nofun⟩
      · rw [(Prod.mk.inj h).1]
        exact ⟨nofun, nofun⟩
    rw [if_neg fun hc => hstate.1 hc.1]
    by_cases hyq : y = o.quantity
    · rw [if_pos (by rw [hsize]; exact (Outstanding.size_exit_eq_zero hheld).mpr hyq)]
      refine fillFlattened_lands hex hfrozen ?_
      rw [(Outstanding.standing_exit hheld).2, if_pos hyq]
    · rw [if_neg (by rw [hsize]; exact mt (Outstanding.size_exit_eq_zero hheld).mp hyq),
        if_neg (by simp [hfrozen]), if_pos ⟨rfl, hstate.2⟩]
      refine ⟨rfl, ?_, fun _ => rfl⟩
      rw [(Outstanding.standing_exit hheld).2, if_neg hyq]
      exact h

/-- A fill of the order, at its router. -/
theorem handleFill_stands (hex : KeepsStops ex)
    (hcid : ev.clientOrderId = o.cid) (hiid : ev.instrumentId = o.iid)
    (hside : ev.side = o.side) (hst : st.final = true) (hx : 0 ≤ x)
    (hq : 0 < ev.quantity) (hle : x + ev.quantity ≤ o.quantity)
    (hv : x = 0 → v = 0) (hfull : x + ev.quantity = o.quantity → st = .filled)
    (hended : ended = true → x + ev.quantity ≠ o.quantity)
    (hplace : Placed o x v ended w.mem) (hrow : Rowed o st x v last w.disk.db) :
    Prog.wp (handleFill ex ev)
      (fun _ w' => Placed o (x + ev.quantity) (v + ev.quantity * ev.price)
          ended w'.mem ∧
        Rowed o st (x + ev.quantity) (v + ev.quantity * ev.price) last
          w'.disk.db)
      (fun _ _ => False) w := by
  obtain ⟨row, hget, hrec⟩ := hrow
  have hrowcid : row.clientOrderId = o.cid := Db.getOrder_cid hget
  obtain ⟨hsize, hentry⟩ := Outstanding.filled_stands hside hx hq hle hv
    hplace.size hplace.entry
  unfold handleFill
  rw [Prog.wp_bind, Prog.wp_mem, if_neg (by rw [hiid, hplace.instrumentId]; simp),
    Prog.wp_bind, Prog.wp_disk, hcid, hget]
  dsimp only
  rw [if_neg (by rw [hrec.not_gaveUp]; nofun)]
  unfold countFill applyFill recordOurs recordFill
  rw [Prog.wp_bind, Prog.wp_mem, Prog.wp_bind, Prog.wp_bind, Prog.wp_modifyMem,
    wp_persist, Prog.wp_bind, Prog.wp_bind,
    hrec.averagePrice_eq hx hq hv, Prog.wp_ofExcept_ok, wp_updateOrder, hrowcid]
  generalize hw₁ : wrote { w with mem := filled ev w.mem } _ = w₁
  have hmem₁ : w₁.mem = filled ev w.mem := by rw [← hw₁]; rfl
  have hget₁ : w₁.disk.db.getOrder o.cid = some row := by
    rw [← hw₁]
    exact hget
  refine Prog.wp_mono (afterFill_lands hex hcid hx (by linarith) hle hended
    ?_ ?_) (fun _ w' hw' => ?_) fun _ _ hf => hf
  · rw [updated_mem, hmem₁]
    exact hsize
  · rw [updated_mem, hmem₁]
    exact hplace.standing
  · have hkept := hw'.kept
    rw [updated_mem, hmem₁, Prod.mk.injEq, Prod.mk.injEq] at hkept
    refine ⟨⟨hkept.1.trans hplace.instrumentId, hkept.2.1.trans hsize,
      hkept.2.2.trans hentry, hw'.standing⟩, ?_⟩
    refine ⟨_, ?_, hrec.filled hst hx hq hle hfull (ex.clock w₁.disk.venue)⟩
    rw [hw'.orders, updated_getOrder (by intro; rfl), hget₁]
    rfl

/-- An update that does not end what the router waits for goes to the row
alone. -/
theorem handleOrderUpdate_row {up : OrderUpdate}
    (hcid : up.clientOrderId = o.cid) (hst : st.final = true)
    (hfinal : up.status.final = true → up.status = st)
    (hother : ¬ (w.mem.pendingCid = some o.cid ∧ up.status.ends = true))
    (hrow : Rowed o st x v last w.disk.db) :
    Prog.wp (handleOrderUpdate ex up)
      (fun _ w' => w'.mem = w.mem ∧
        Rowed o st x v (last || up.status.final) w'.disk.db)
      (fun _ _ => False) w := by
  obtain ⟨row, hget, hrec⟩ := hrow
  unfold handleOrderUpdate
  rw [Prog.wp_bind, Prog.wp_mem, if_neg (by rw [hcid]; exact hother),
    Prog.wp_bind, Prog.wp_disk, hcid, hget]
  dsimp only
  rw [if_neg (by rw [hrec.not_gaveUp]; nofun), wp_updateOrder]
  refine ⟨updated_mem, _, ?_, hrec.updated hst hfinal true nofun
    (ex.clock w.disk.venue)⟩
  rw [updated_getOrder (by intro; rfl), hget]
  rfl

/-- An update of the order, at its router. -/
theorem handleOrderUpdate_stands {up : OrderUpdate}
    (hcid : up.clientOrderId = o.cid) (hst : st.final = true)
    (hfinal : up.status.final = true → up.status = st)
    (hplace : Placed o x v ended w.mem) (hrow : Rowed o st x v last w.disk.db) :
    Prog.wp (handleOrderUpdate ex up)
      (fun _ w' => Placed o x v (ended || up.status.ends) w'.mem ∧
        Rowed o st x v (last || up.status.final) w'.disk.db)
      (fun _ _ => False) w := by
  by_cases hends : w.mem.pendingCid = some o.cid ∧ up.status.ends = true
  · -- the order it waits for is given up: the size says where it stands
    obtain ⟨row, hget, hrec⟩ := hrow
    have hf := OrderStatus.final_of_ends hends.2
    have hfrozen : w.mem.state.frozen = false := by
      rw [show w.mem.state = (o.standing x ended).1 from
        congrArg Prod.fst hplace.standing]
      exact Outstanding.standing_not_frozen
    unfold handleOrderUpdate
    rw [Prog.wp_bind, Prog.wp_mem, if_pos ⟨by rw [hends.1, hcid], hends.2⟩, hcid]
    simp only [Prog.wp_bind, wp_updateOrder, wp_alert, Prog.wp_modifyMem,
      settleState, Prog.wp_mem, updated_mem, wrote_mem, hfrozen,
      Bool.false_eq_true, if_false, wp_setState]
    refine ⟨⟨hplace.instrumentId, hplace.size, hplace.entry, ?_⟩, _, ?_,
      hrec.updated hst hfinal false (fun _ => hf) (ex.clock w.disk.venue)⟩
    · rw [Outstanding.standing_settled (Or.inl (by rw [hends.2, Bool.or_true]))]
      show ((if w.mem.size ≠ 0 then State.opened else .flat), none) = _
      rw [hplace.size]
    · simp only [entered_getOrder, wrote_db, Db.getOrder_insertAlert]
      rw [updated_getOrder (by intro; rfl), hget]
      rfl
  · refine Prog.wp_mono (handleOrderUpdate_row hcid hst hfinal hends hrow)
      (fun _ w' h => ⟨?_, h.2⟩) fun _ _ hf => hf
    rw [h.1]
    refine ⟨hplace.instrumentId, hplace.size, hplace.entry, ?_⟩
    rw [hplace.standing]
    cases he : up.status.ends with
    | false => rw [Bool.or_false]
    | true =>
        -- it no longer waits for the order, so it has settled
        rw [Outstanding.standing_settled (e := ended || true)
          (Or.inl (Bool.or_true _))]
        by_contra hne
        refine hends ⟨?_, he⟩
        rw [show w.mem.pendingCid = _ from congrArg Prod.snd hplace.standing,
          Outstanding.standing_waiting]
        exact fun hs => hne (Outstanding.standing_settled hs)

end Router

/-! ## The events of an order -/

/-- The event is one of the order's: a fill in its direction, or an update
other than a rejection. -/
def Event.of (o : Outstanding) : Event → Prop
  | .fill ev => ev.clientOrderId = o.cid ∧ ev.instrumentId = o.iid ∧
      ev.side = o.side ∧ 0 < ev.quantity
  | .order ev => ev.clientOrderId = o.cid ∧ ev.status ≠ .rejected
  | .reconcileNow => False

/-- The events of one order: no more executed than ordered, and one end, which
is `filled` if the whole of it was executed. -/
structure OneOrder (o : Outstanding) (evs : List Event) : Prop where
  own : ∀ ev ∈ evs, ev.of o
  most : Totals.executed evs ≤ o.quantity
  ends : ∃ st, Totals.finals evs = [st] ∧
    (st = .filled ↔ Totals.executed evs = o.quantity)

/-- The events, one operation each. -/
def deliver {V S : Type} (ex : Executor V) (evs : List Event) :
    Act V (Portfolio S) Unit :=
  Prog.forEach evs (Portfolio.dispatch ex)

section Portfolio

variable {V S : Type} {ex : Executor V} {o : Outstanding} {st : OrderStatus}
  {x v : Decimal} {ended last : Bool} {w : World (Durable V) (Portfolio S)}

/-- The order's router and its row are where the totals put them, and no other
router waits for it. -/
structure Stands (o : Outstanding) (st : OrderStatus) (x v : Decimal)
    (ended last : Bool) (w : World (Durable V) (Portfolio S)) : Prop where
  routed : o.iid ∈ w.mem.ids
  alone : ∀ j ∈ w.mem.ids, j ≠ o.iid →
    (w.mem.router j).pendingCid ≠ some o.cid
  placed : Placed o x v ended (w.mem.router o.iid)
  rowed : Rowed o st x v last w.disk.db

theorem Stands.putBack {x' v' : Decimal} {ended' last' : Bool}
    (h : Stands o st x v ended last w)
    {r : World (Durable V) (InstrumentRouter S)}
    (hp : Placed o x' v' ended' r.mem) (hr : Rowed o st x' v' last' r.disk.db) :
    Stands o st x' v' ended' last' (Polyperps.putBack w o.iid r) := by
  refine ⟨h.routed, fun j hj hne => ?_, ?_, hr⟩
  · rw [show (Polyperps.putBack w o.iid r).mem.router j = w.mem.router j from
      Portfolio.setRouter_of_ne hne]
    exact h.alone j hj hne
  · rw [show (Polyperps.putBack w o.iid r).mem.router o.iid = r.mem from
      Portfolio.setRouter_self]
    exact hp

theorem Rowed.less {db : Db} (h : Rowed o st x v last db) {last' : Bool}
    (hl : last' = true → last = true) : Rowed o st x v last' db := by
  obtain ⟨row, hget, hrec⟩ := h
  exact ⟨row, hget, hrec.quantity, hrec.filledQuantity, hrec.avgPrice, hrec.own,
    fun h => hrec.last (hl h)⟩

theorem dispatch_fill {ev : FillUpdate} (hex : KeepsStops ex)
    (hev : Event.of o (.fill ev)) (hst : st.final = true) (hx : 0 ≤ x)
    (hle : x + ev.quantity ≤ o.quantity) (hv : x = 0 → v = 0)
    (hfull : x + ev.quantity = o.quantity → st = .filled)
    (hended : ended = true → x + ev.quantity ≠ o.quantity)
    (h : Stands o st x v ended last w) :
    Prog.wp (Portfolio.dispatch ex (.fill ev))
      (fun _ w' => Stands o st (x + ev.quantity)
        (v + ev.quantity * ev.price) ended last w')
      (fun _ _ => False) w := by
  obtain ⟨hcid, hiid, hside, hq⟩ := hev
  unfold Portfolio.dispatch
  dsimp only
  rw [Prog.wp_bind, Prog.wp_mem, hiid, if_pos h.routed, Portfolio.onRouter,
    Prog.wp_focus]
  exact Prog.wp_mono (handleFill_stands hex hcid hiid hside hst hx hq hle hv
    hfull hended (w := seen w o.iid) h.placed h.rowed)
    (fun _ w' hw' => h.putBack hw'.1 hw'.2) fun _ _ hf => hf

/-- An update at a router the order is not of. -/
theorem visit_other {up : OrderUpdate} {j : InstrumentId}
    (hcid : up.clientOrderId = o.cid) (hst : st.final = true)
    (hfinal : up.status.final = true → up.status = st)
    (hj : j ∈ w.mem.ids) (hne : j ≠ o.iid) (h : Stands o st x v ended last w) :
    Prog.wp (Portfolio.onRouter j (handleOrderUpdate ex up))
      (fun _ w' => Stands o st x v ended last w' ∧ w'.mem.ids = w.mem.ids)
      (fun _ _ => False) w := by
  rw [Portfolio.onRouter, Prog.wp_focus]
  refine Prog.wp_mono (handleOrderUpdate_row (w := seen w j) hcid hst hfinal
    (fun hc => h.alone j hj hne hc.1) h.rowed) (fun _ w' hw' => ⟨?_, rfl⟩)
    fun _ _ hf => hf
  have hsame : w.mem.setRouter j w'.mem = w.mem := by
    rw [hw'.1]
    exact congrArg World.mem (putBack_seen : putBack w j (seen w j) = w)
  refine ⟨h.routed, ?_, ?_, hw'.2.less fun hl => by rw [hl, Bool.true_or]⟩
  · rw [hsame]
    exact h.alone
  · rw [hsame]
    exact h.placed

/-- And at its own. -/
theorem visit_own {up : OrderUpdate} (hcid : up.clientOrderId = o.cid)
    (hst : st.final = true)
    (hfinal : up.status.final = true → up.status = st)
    (h : Stands o st x v ended last w) :
    Prog.wp (Portfolio.onRouter o.iid (handleOrderUpdate ex up))
      (fun _ w' => Stands o st x v (ended || up.status.ends)
        (last || up.status.final) w' ∧ w'.mem.ids = w.mem.ids)
      (fun _ _ => False) w := by
  rw [Portfolio.onRouter, Prog.wp_focus]
  exact Prog.wp_mono (handleOrderUpdate_stands (w := seen w o.iid) hcid hst
    hfinal h.placed h.rowed) (fun _ w' hw' => ⟨h.putBack hw'.1 hw'.2, rfl⟩)
    fun _ _ hf => hf

/-- An update goes to every router, and moves the order's own. -/
theorem dispatch_order {up : OrderUpdate} (hev : Event.of o (.order up))
    (hst : st.final = true)
    (hfinal : up.status.final = true → up.status = st)
    (h : Stands o st x v ended last w) :
    Prog.wp (Portfolio.dispatch ex (.order up))
      (fun _ w' => Stands o st x v (ended || up.status.ends)
        (last || up.status.final) w')
      (fun _ _ => False) w := by
  have hcid := hev.1
  unfold Portfolio.dispatch Portfolio.forRouters
  dsimp only
  rw [Prog.wp_bind, Prog.wp_mem]
  obtain ⟨before, after, hids, hbefore⟩ := List.eq_append_cons_of_mem h.routed
  -- before its own router, nothing; after it, an update it has had
  have hleft : ∀ js : List InstrumentId, (∀ j ∈ js, j ∈ w.mem.ids ∧ j ≠ o.iid) →
      Prog.wp (Prog.forEach js fun j =>
          Portfolio.onRouter j (handleOrderUpdate ex up))
        (fun _ w' => Stands o st x v ended last w' ∧ w'.mem.ids = w.mem.ids)
        (fun _ _ => False) w := fun js hjs =>
    Prog.wp_forEach_mem
      (fun w' => Stands o st x v ended last w' ∧ w'.mem.ids = w.mem.ids)
      (fun j hj w' hw' => Prog.wp_mono (visit_other hcid hst hfinal
        (by rw [hw'.2]; exact (hjs j hj).1) (hjs j hj).2 hw'.1)
        (fun _ w'' hw'' => ⟨hw''.1, hw''.2.trans hw'.2⟩) fun _ _ hf => hf)
      ⟨h, rfl⟩
  have hright : ∀ w₁ : World (Durable V) (Portfolio S),
      Stands o st x v (ended || up.status.ends) (last || up.status.final) w₁ →
      w₁.mem.ids = w.mem.ids →
      Prog.wp (Prog.forEach after fun j =>
          Portfolio.onRouter j (handleOrderUpdate ex up))
        (fun _ w' => Stands o st x v (ended || up.status.ends)
          (last || up.status.final) w' ∧ w'.mem.ids = w.mem.ids)
        (fun _ _ => False) w₁ := by
    intro w₁ h₁ hids₁
    refine Prog.wp_forEach_mem (fun w' => Stands o st x v
        (ended || up.status.ends) (last || up.status.final) w' ∧
      w'.mem.ids = w.mem.ids) (fun j hj w' hw' => ?_) ⟨h₁, hids₁⟩
    by_cases hji : j = o.iid
    · subst hji
      refine Prog.wp_mono (visit_own hcid hst hfinal hw'.1)
        (fun _ w'' hw'' => ⟨?_, hw''.2.trans hw'.2⟩) fun _ _ hf => hf
      simpa using hw''.1
    · refine Prog.wp_mono (visit_other hcid hst hfinal ?_ hji hw'.1)
        (fun _ w'' hw'' => ⟨hw''.1, hw''.2.trans hw'.2⟩) fun _ _ hf => hf
      rw [hw'.2, hids]
      simp [hj]
  rw [hids, Prog.forEach_append, Prog.wp_bind]
  refine Prog.wp_mono (hleft before fun j hj => ⟨by rw [hids]; simp [hj], ?_⟩)
    (fun _ w₁ h₁ => ?_) fun _ _ hf => hf
  · rintro rfl
    exact hbefore hj
  rw [Prog.forEach, Prog.wp_bind]
  refine Prog.wp_mono (visit_own hcid hst hfinal h₁.1) (fun _ w₂ h₂ => ?_)
    fun _ _ hf => hf
  exact Prog.wp_mono (hright w₂ h₂.1 (h₂.2.trans h₁.2)) (fun _ _ h => h.1)
    fun _ _ hf => hf

/-! ### All of them -/

theorem executed_nonneg {evs : List Event} (h : ∀ ev ∈ evs, ev.of o) :
    0 ≤ Totals.executed evs := by
  refine List.sum_nonneg fun q hq => ?_
  obtain ⟨ev, hev, rfl⟩ := List.mem_map.mp hq
  obtain ⟨e, he, hfill⟩ := List.mem_filterMap.mp hev
  cases e with
  | fill f =>
      obtain rfl : f = ev := Option.some.inj hfill
      exact (h _ he).2.2.2.le
  | order _ => cases hfill
  | reconcileNow => cases hfill

/-- Where `rest` is still to come, it brings the total to the order's quantity
if and only if the order ends as `filled`. -/
structure Rest (o : Outstanding) (st : OrderStatus) (x : Decimal)
    (ended : Bool) (rest : List Event) : Prop where
  own : ∀ ev ∈ rest, ev.of o
  most : x + Totals.executed rest ≤ o.quantity
  full : x + Totals.executed rest = o.quantity → st = .filled
  short : ended = true → x + Totals.executed rest ≠ o.quantity
  ends : ∀ s ∈ Totals.finals rest, s = st
  cut : st.ends = true → x + Totals.executed rest ≠ o.quantity

/-- The events left, delivered in any order, take the totals to their sums. -/
theorem deliver_stands (hex : KeepsStops ex) (hst : st.final = true)
    {rest : List Event} (hrest : Rest o st x ended rest) (hx : 0 ≤ x)
    (hv : x = 0 → v = 0) (h : Stands o st x v ended last w) :
    Prog.wp (deliver ex rest)
      (fun _ w' => Stands o st (x + Totals.executed rest)
        (v + Totals.paid rest)
        (ended || (Totals.finals rest).any OrderStatus.ends)
        (last || !(Totals.finals rest).isEmpty) w')
      (fun _ _ => False) w := by
  induction rest generalizing x v ended last w with
  | nil =>
      rw [deliver, Prog.forEach, Prog.wp_pure]
      simpa [Totals.executed, Totals.paid, Totals.finals] using h
  | cons ev rest ih =>
      have hown := hrest.own ev (by simp)
      have htail : ∀ e ∈ rest, e.of o :=
        fun e he => hrest.own e (List.mem_cons_of_mem ev he)
      have hnonneg := executed_nonneg htail
      rw [deliver, Prog.forEach, Prog.wp_bind]
      cases ev with
      | reconcileNow => exact hown.elim
      | fill ev =>
          have hq := hown.2.2.2
          have hsum : Totals.executed (.fill ev :: rest) =
              ev.quantity + Totals.executed rest := rfl
          have hpay : Totals.paid (.fill ev :: rest) =
              ev.quantity * ev.price + Totals.paid rest := rfl
          have hfin : Totals.finals (.fill ev :: rest) =
              Totals.finals rest := rfl
          obtain ⟨-, hmost, hfull, hshort, hends, hcut⟩ := hrest
          rw [hsum, ← add_assoc] at hmost hfull hshort hcut
          rw [hfin] at hends
          have hle : x + ev.quantity ≤ o.quantity := by linarith
          refine Prog.wp_mono (dispatch_fill hex hown hst hx hle hv
            (fun heq => hfull (by linarith)) (fun he heq => hshort he (by linarith))
            h) (fun _ w₁ h₁ => ?_) fun _ _ hf => hf
          rw [hsum, hpay, hfin, ← add_assoc, ← add_assoc]
          exact ih ⟨htail, hmost, hfull, hshort, hends, hcut⟩ (by linarith)
            (fun h0 => by linarith) h₁
      | order up =>
          have hsum : Totals.executed (.order up :: rest) =
              Totals.executed rest := rfl
          have hpay : Totals.paid (.order up :: rest) = Totals.paid rest := rfl
          have hfin : Totals.finals (.order up :: rest) =
              if up.status.final then up.status :: Totals.finals rest
              else Totals.finals rest := by
            simp only [Totals.finals, List.filterMap_cons, Event.final?]
            cases up.status.final <;> rfl
          obtain ⟨-, hmost, hfull, hshort, hends, hcut⟩ := hrest
          rw [hsum] at hmost hfull hshort hcut
          have hfinal : up.status.final = true → up.status = st := by
            intro hf
            exact hends _ (by rw [hfin, if_pos hf]; exact List.mem_cons_self)
          have hcuts : up.status.ends = true →
              x + Totals.executed rest ≠ o.quantity := by
            intro he
            refine hcut ?_
            rw [← hfinal (OrderStatus.final_of_ends he)]
            exact he
          refine Prog.wp_mono (dispatch_order hown hst hfinal h)
            (fun _ w₁ h₁ => ?_) fun _ _ hf => hf
          refine Prog.wp_mono (ih ⟨htail, hmost, hfull, fun he => ?_,
            fun s hs => hends s ?_, hcut⟩ hx hv h₁) (fun _ w₂ h₂ => ?_)
            fun _ _ hf => hf
          · rcases Bool.or_eq_true _ _ ▸ he with he | he
            · exact hshort he
            · exact hcuts he
          · rw [hfin]
            split
            · exact List.mem_cons_of_mem _ hs
            · exact hs
          · rw [hsum, hpay, hfin]
            cases hf : up.status.final with
            | true =>
                rw [if_pos rfl, List.any_cons, List.isEmpty_cons,
                  ← Bool.or_assoc]
                simpa [hf] using h₂
            | false =>
                have hne : up.status.ends = false := by
                  by_contra he
                  rw [Bool.not_eq_false] at he
                  rw [OrderStatus.final_of_ends he] at hf
                  cases hf
                simpa [hf, hne] using h₂

end Portfolio

/-! ## The send -/

section Send

variable {V S : Type} {ex : Executor V}
  {w w' : World (Durable V) (InstrumentRouter S)}

/-- The same router, and the same orders. -/
structure Unmoved (w w' : World (Durable V) (InstrumentRouter S)) : Prop where
  mem : w'.mem = w.mem
  orders : ∀ cid, w'.disk.db.getOrder cid = w.disk.db.getOrder cid

theorem submitAttempt_unmoved {attempt : ℕ} {req : OrderRequest}
    {sizeBefore : Decimal} {w₀ : World (Durable V) (InstrumentRouter S)}
    {otherwise : Act V (InstrumentRouter S) (Option OrderAck)}
    (h : Unmoved w₀ w)
    (hother : ∀ w', Unmoved w₀ w' → Prog.wp otherwise
      (fun _ w' => Unmoved w₀ w') (fun _ w' => Unmoved w₀ w') w') :
    Prog.wp (submitAttempt ex attempt req sizeBefore otherwise)
      (fun _ w' => Unmoved w₀ w') (fun _ w' => Unmoved w₀ w') w := by
  obtain ⟨hmem, horders⟩ := h
  unfold submitAttempt
  rw [Prog.wp_catching, Prog.wp_bind, Prog.wp_mem, Prog.wp_bind,
    wp_callSubmit]
  split
  · exact ⟨hmem, horders⟩
  rw [Prog.wp_ite]
  split
  · rw [Prog.wp_bind, wp_call]
    split
    · rw [Prog.wp_ite]
      split
      · simp only [Prog.wp_bind, wp_alert, wp_clock, Prog.wp_pure]
        exact ⟨hmem, horders⟩
      · exact hother _ ⟨hmem, horders⟩
    · exact ⟨hmem, horders⟩
  · exact ⟨hmem, horders⟩

theorem submitWithRecovery_unmoved {req : OrderRequest}
    {sizeBefore : Decimal} :
    Prog.wp (submitWithRecovery ex req sizeBefore)
      (fun _ w' => Unmoved w w') (fun _ w' => Unmoved w w') w := by
  refine submitAttempt_unmoved ⟨rfl, fun _ => rfl⟩ fun w₁ h₁ => ?_
  rw [Prog.wp_bind, wp_alert]
  exact submitAttempt_unmoved ⟨h₁.mem, h₁.orders⟩ fun w₂ h₂ => h₂

/-- What an acknowledged send leaves: the order pending, its row accepted and
with nothing filled. -/
structure Acknowledged (intent : Intent)
    (w w' : World (Durable V) (InstrumentRouter S)) : Prop where
  kept : (w'.mem.instrumentId, w'.mem.size, w'.mem.entry) =
    (w.mem.instrumentId, w.mem.size, w.mem.entry)
  standing : (w'.mem.state, w'.mem.pendingCid) =
    (intent.waiting, some (nextCid w.mem))
  row : ∃ row, w'.disk.db.getOrder (nextCid w.mem) = some row ∧
    row.quantity = intent.quantity ∧ row.filledQuantity = 0 ∧
    row.avgPrice = none ∧ row.status = .update .accepted

/-- The row of an order just announced, where no order had its id. -/
theorem announced_row {intent : Intent} {target : Option Decimal}
    {verdicts : List (String × String)}
    (hnew : w.disk.db.getOrder (nextCid w.mem) = none) :
    (announcedWorld ex intent target verdicts w).disk.db.getOrder
      (nextCid w.mem) =
        some (w.mem.orderRow (nextCid w.mem) intent
          (ex.clock w.disk.venue)) := by
  have h := Db.getOrder_upsertOrder_self
    (decidedDb w.disk.db (intentRow ex intent target verdicts w))
    (w.mem.orderRow (nextCid w.mem) intent (ex.clock w.disk.venue))
  rw [show (decidedDb w.disk.db (intentRow ex intent target verdicts
    w)).getOrder (w.mem.orderRow (nextCid w.mem) intent
      (ex.clock w.disk.venue)).clientOrderId = none from hnew] at h
  exact h

/-- An answer that leaves the router waiting is an acknowledgement. -/
theorem acknowledge_accepts {cid : ClientOrderId} {prior : State}
    {intent : Intent} {ack : Option OrderAck} {row : OrderRow}
    (hidle : prior.pending = false) (hfrozen : w.mem.state.frozen = false)
    (hrow : w.disk.db.getOrder cid = some row)
    (hlive : row.status.terminal = false) :
    Prog.wp (acknowledge ex cid prior intent ack)
      (fun _ w' => w'.mem.state.pending = true → w'.mem = w.mem ∧
        ∃ row', w'.disk.db.getOrder cid = some row' ∧
          row'.quantity = row.quantity ∧
          row'.filledQuantity = row.filledQuantity ∧
          row'.avgPrice = row.avgPrice ∧ row'.status = .update .accepted)
      (fun _ _ => False) w := by
  unfold acknowledge
  split
  · -- lost: the router halts
    rw [Prog.wp_bind, wp_updateOrder, halt, Prog.wp_bind, Prog.wp_mem,
      updated_mem, hfrozen]
    simp only [Bool.false_eq_true, if_false, Prog.wp_bind, wp_alert,
      Prog.wp_modifyMem, wp_setState]
    intro hp
    cases hp
  split
  · -- refused: the router stands where it stood
    simp only [Prog.wp_bind, wp_updateOrder, wp_alert, Prog.wp_modifyMem,
      wp_setState, entered_state]
    intro hp
    rw [hidle] at hp
    cases hp
  · rw [wp_updateOrder]
    intro _
    refine ⟨updated_mem, _, (updated_getOrder (by intro; rfl)).trans
      (congrArg _ hrow), ?_⟩
    rw [updatedRow, hlive]
    exact ⟨rfl, rfl, rfl, rfl⟩

/-- A router whose send leaves it waiting was acknowledged. -/
theorem send_acknowledged {intent : Intent} {target : Option Decimal}
    {verdicts : List (String × String)}
    (hidle : w.mem.state.pending = false)
    (hnew : w.disk.db.getOrder (nextCid w.mem) = none) :
    Prog.wp (send ex intent target verdicts)
      (fun _ w' => w'.mem.state.pending = true → Acknowledged intent w w')
      (fun _ _ => True) w := by
  unfold send
  rw [Prog.wp_bind, Prog.wp_mem, Prog.wp_bind]
  rcases announce_cases ex intent target verdicts w with hok | ⟨herr, -⟩
  swap
  · rw [Prog.wp_of_error herr]
    trivial
  rw [Prog.wp_of_ok hok, Prog.wp_bind, Prog.wp_attempt]
  have hwait : intent.waiting.pending = true := by
    unfold Intent.waiting
    split <;> rfl
  have hfrozen : intent.waiting.frozen = false := by
    unfold Intent.waiting
    split <;> rfl
  refine Prog.wp_mono submitWithRecovery_unmoved (fun ack w₁ h₁ => ?_)
    fun e w₁ h₁ => ?_
  · have hrow : w₁.disk.db.getOrder (nextCid w.mem) = _ :=
      (h₁.orders _).trans (announced_row hnew)
    refine Prog.wp_mono (acknowledge_accepts hidle (by rw [h₁.mem]; exact hfrozen)
      hrow rfl) (fun _ w₂ h₂ hp => ?_) fun _ _ _ => trivial
    obtain ⟨hmem, row, hget, hq, hf, ha, hs⟩ := h₂ hp
    rw [h₁.mem] at hmem
    exact ⟨by rw [hmem]; rfl, by rw [hmem]; rfl, row, hget, hq, hf, ha, hs⟩
  · have hpend : w₁.mem.state.pending = true := by
      rw [h₁.mem]
      exact hwait
    refine Prog.wp_mono (submitFailed_comesTo hpend) (fun _ w₂ h₂ hp => ?_)
      fun _ _ _ => trivial
    rw [h₂.2] at hp
    cases hp

end Send

/-! ## Any order -/

section AnyOrder

variable {V S : Type} {ex : Executor V} {iid : InstrumentId}
  {w₀ w : World (Durable V) (Portfolio S)}

/-- What every portfolio satisfies between its steps: the router is coherent
and knows its instrument, and its next id is no order's. -/
structure ReadyToSend (w : World (Durable V) (Portfolio S))
    (iid : InstrumentId) : Prop where
  routed : iid ∈ w.mem.ids
  named : (w.mem.router iid).instrumentId = iid
  coherent : Coherent (w.mem.router iid)
  unused : w.disk.db.getOrder (nextCid (w.mem.router iid)) = none
  alone : ∀ j ∈ w.mem.ids, j ≠ iid →
    (w.mem.router j).pendingCid ≠ some (nextCid (w.mem.router iid))

/-- The order a flat router sends for an intent. -/
def entryOrder (iid : InstrumentId) (r : InstrumentRouter S) (h : r.size = 0)
    (intent : Intent) : Outstanding where
  cid := nextCid r
  iid := iid
  side := intent.side
  quantity := intent.quantity
  held := r.size
  entry := r.entry
  waiting := .entryPending
  kind := Or.inl ⟨h, rfl⟩

/-- The order an open router sends to close its position. -/
def exitOrder (iid : InstrumentId) (r : InstrumentRouter S) (h : r.size ≠ 0) :
    Outstanding where
  cid := nextCid r
  iid := iid
  side := if 0 < r.size then .sell else .buy
  quantity := |r.size|
  held := r.size
  entry := r.entry
  waiting := .exitPending
  kind := Or.inr ⟨h, rfl, rfl, rfl⟩

/-- The intent of that. -/
def exitIntent (r : InstrumentRouter S) (mark : Decimal) (reason : String) :
    Intent where
  instrumentId := r.instrumentId
  side := if 0 < r.size then .sell else .buy
  quantity := |r.size|
  notional := Rounding.roundHalfEven cent (|r.size| * mark)
  reduceOnly := true
  reason := reason

/-- A router sends an order: an entry from `FLAT`, an exit from `OPEN`. -/
inductive Submits (ex : Executor V) (iid : InstrumentId)
    (w₀ : World (Durable V) (Portfolio S))
    (hc : Coherent (w₀.mem.router iid)) :
    Outstanding → World (Durable V) (Portfolio S) → Prop
  | entry {w : World (Durable V) (Portfolio S)} (intent : Intent)
      (target : Option Decimal) (verdicts : List (String × String))
      (hstate : (w₀.mem.router iid).state = .flat)
      (hopens : intent.reduceOnly = false)
      (hsend : Portfolio.onRouter iid (send ex intent target verdicts) w₀ =
        (.ok (), w)) :
      Submits ex iid w₀ hc
        (entryOrder iid (w₀.mem.router iid) (hc.flat hstate) intent) w
  | exit {w : World (Durable V) (Portfolio S)} (mark : Decimal)
      (reason : String) (target : Option Decimal)
      (hstate : (w₀.mem.router iid).state = .opened)
      (hsend : Portfolio.onRouter iid
        (InstrumentRouter.exit ex mark reason target (w₀.mem.router iid).size)
          w₀ = (.ok (), w)) :
      Submits ex iid w₀ hc
        (exitOrder iid (w₀.mem.router iid) (hc.opened hstate)) w

/-- What the router holds and waits for, and what the order's row says. -/
def outcome (iid : InstrumentId) (cid : ClientOrderId)
    (w : World (Durable V) (Portfolio S)) :
    (State × Decimal × Option Decimal × Option ClientOrderId) ×
      Option (RowStatus × Decimal × Option Decimal) :=
  (((w.mem.router iid).state, (w.mem.router iid).size,
      (w.mem.router iid).entry, (w.mem.router iid).pendingCid),
    (w.disk.db.getOrder cid).map fun o =>
      (o.status, o.filledQuantity, o.avgPrice))

/-- The totals determine the outcome. -/
theorem Stands.outcome_eq {o : Outstanding} {st : OrderStatus} {x v : Decimal}
    {ended : Bool} (h : Stands o st x v ended true w) :
    outcome o.iid o.cid w =
      (((o.standing x ended).1, o.size x, o.price x v,
        (o.standing x ended).2), some (.update st, x, average x v)) := by
  obtain ⟨row, hget, hrec⟩ := h.rowed
  rw [outcome, hget, Option.map_some, hrec.last rfl, hrec.filledQuantity,
    hrec.avgPrice, h.placed.size, h.placed.entry, ← h.placed.standing]

/-- An acknowledged send stands at the start of its order's totals. -/
theorem acknowledged_stands {intent : Intent} {o : Outstanding}
    {st : OrderStatus} {r : World (Durable V) (InstrumentRouter S)}
    (hw : ReadyToSend w₀ iid) (h : Acknowledged intent (seen w₀ iid) r)
    (hcid : o.cid = nextCid (w₀.mem.router iid)) (hiid : o.iid = iid)
    (hheld : o.held = (w₀.mem.router iid).size)
    (hentry : o.entry = (w₀.mem.router iid).entry)
    (hquantity : o.quantity = intent.quantity)
    (hwaiting : o.waiting = intent.waiting) :
    Stands o st 0 0 false false (putBack w₀ iid r) := by
  subst hiid
  obtain ⟨hkept, hstanding, row, hget, hq, hf, ha, hs⟩ := h
  rw [Prod.mk.injEq, Prod.mk.injEq] at hkept
  obtain ⟨hid, hsize, hprice⟩ := hkept
  have hsize0 : o.size 0 = (w₀.mem.router o.iid).size := by
    rw [Outstanding.size, mul_zero, add_zero, hheld]
  refine ⟨hw.routed, fun j hj hne => ?_, ?_, row, ?_, ?_⟩
  · show (if j = o.iid then r.mem else w₀.mem.router j).pendingCid ≠ _
    rw [if_neg hne, hcid]
    exact hw.alone j hj hne
  · rw [show (putBack w₀ o.iid r).mem.router o.iid = r.mem from
      Portfolio.setRouter_self]
    refine ⟨hid.trans hw.named, hsize.trans hsize0.symm, hprice.trans ?_,
      hstanding.trans ?_⟩
    · show (w₀.mem.router o.iid).entry = _
      rw [Outstanding.price, hsize0]
      by_cases h0 : (w₀.mem.router o.iid).size = 0
      · have hnone : ¬ (w₀.mem.router o.iid).entry.isSome := fun he =>
          hw.coherent.priced.mp he h0
        rw [if_pos h0]
        simpa using hnone
      · rw [if_neg h0, if_neg (by rw [hheld]; exact h0), hentry]
    · show (intent.waiting, some (nextCid (w₀.mem.router o.iid))) = _
      rw [← hcid, ← hwaiting]
      by_cases h0 : o.held = 0
      · rw [(Outstanding.standing_entry h0).2, (Outstanding.standing_entry
          (x := 0) (e := false) h0).1]
        rfl
      · rw [(Outstanding.standing_exit h0).2, (Outstanding.standing_exit
          (x := 0) (e := false) h0).1, if_neg, if_neg Bool.false_ne_true]
        have hpos := (Outstanding.size_exit_eq_zero (x := 0) h0)
        rw [← hpos, hsize0, ← hheld]
        exact h0
  · rw [hcid]
    exact hget
  · exact ⟨hq.trans hquantity.symm, hf, ha, by rw [hs]; nofun, nofun⟩

/-- A router's method that returned, at the router's own world. -/
theorem onRouter_returned {α : Type} {m : Act V (InstrumentRouter S) α} {a : α}
    (h : Portfolio.onRouter iid m w₀ = (.ok a, w)) :
    ∃ r, m (seen w₀ iid) = (.ok a, r) ∧ w = putBack w₀ iid r := by
  have hfocus : (Portfolio.onRouter iid m w₀) =
      ((m (seen w₀ iid)).1, putBack w₀ iid (m (seen w₀ iid)).2) := rfl
  rw [hfocus] at h
  exact ⟨_, Prod.ext (Prod.mk.inj h).1 rfl, (Prod.mk.inj h).2.symm⟩

/-- The send of a router that was not waiting, and is now. -/
theorem sent_acknowledged {intent : Intent} {target : Option Decimal}
    {verdicts : List (String × String)} (hw : ReadyToSend w₀ iid)
    (hidle : (w₀.mem.router iid).state.pending = false)
    (hsend : Portfolio.onRouter iid (send ex intent target verdicts) w₀ =
      (.ok (), w))
    (hpending : (w.mem.router iid).state.pending = true) :
    ∃ r, w = putBack w₀ iid r ∧ Acknowledged intent (seen w₀ iid) r := by
  obtain ⟨r, hret, rfl⟩ := onRouter_returned hsend
  refine ⟨r, rfl, ?_⟩
  have hspec : Prog.wp (send ex intent target verdicts) _ _ (seen w₀ iid) :=
    send_acknowledged hidle hw.unused
  rw [Prog.wp_of_ok hret] at hspec
  refine hspec ?_
  rw [← show (putBack w₀ iid r).mem.router iid = r.mem from
    Portfolio.setRouter_self]
  exact hpending

theorem Submits.stands {o : Outstanding} (st : OrderStatus)
    (hw : ReadyToSend w₀ iid) (h : Submits ex iid w₀ hw.coherent o w)
    (hpending : (w.mem.router iid).state.pending = true) :
    Stands o st 0 0 false false w ∧ o.iid = iid := by
  cases h with
  | entry intent target verdicts hstate hopens hsend =>
      obtain ⟨r, rfl, hack⟩ := sent_acknowledged hw (by rw [hstate]; rfl) hsend
        hpending
      refine ⟨acknowledged_stands hw hack rfl rfl rfl rfl rfl ?_, rfl⟩
      rw [Intent.waiting, hopens]
      rfl
  | exit mark reason target hstate hsend =>
      have hexit : Portfolio.onRouter iid (send ex
          (exitIntent (w₀.mem.router iid) mark reason) target []) w₀ =
            (.ok (), w) := hsend
      obtain ⟨r, rfl, hack⟩ := sent_acknowledged hw (by rw [hstate]; rfl) hexit
        hpending
      exact ⟨acknowledged_stands hw hack rfl rfl rfl rfl rfl rfl, rfl⟩

/-- **The order of one order's events does not matter.** For an order that was
acknowledged, any two deliveries of the same events return, and leave the
router and the order's row alike; and where something was ordered, the router
waits for nothing. -/
theorem events_in_any_order (hex : KeepsStops ex) {o : Outstanding}
    (hw : ReadyToSend w₀ iid) (hsend : Submits ex iid w₀ hw.coherent o w)
    (hpending : (w.mem.router iid).state.pending = true)
    {evs evs' : List Event} (hevs : OneOrder o evs) (hperm : evs.Perm evs') :
    ∃ w₁ w₂, deliver ex evs w = (.ok (), w₁) ∧
      deliver ex evs' w = (.ok (), w₂) ∧
      outcome iid o.cid w₁ = outcome iid o.cid w₂ ∧
      (0 < o.quantity → (w₁.mem.router iid).pendingCid = none) := by
  obtain ⟨st, hfinals, hfilled⟩ := hevs.ends
  obtain ⟨hstart, rfl⟩ := hsend.stands st hw hpending
  have hst : st.final = true := by
    have hmem : st ∈ Totals.finals evs := by rw [hfinals]; simp
    obtain ⟨ev, -, hev⟩ := List.mem_filterMap.mp hmem
    cases ev with
    | order up =>
        simp only [Event.final?] at hev
        split at hev
        · next hf =>
          rw [← Option.some.inj hev]
          exact hf
        · cases hev
    | fill _ => cases hev
    | reconcileNow => cases hev
  have hcut : st.ends = true → Totals.executed evs ≠ o.quantity := by
    intro he hq
    rw [hfilled.mpr hq] at he
    cases he
  have hrest : ∀ es : List Event, evs.Perm es → Rest o st 0 false es := by
    intro es hes
    have hq := Totals.executed_perm hes
    refine ⟨fun ev hev => hevs.own ev (hes.mem_iff.mpr hev), ?_, ?_, nofun,
      fun s hs => ?_, ?_⟩
    · rw [zero_add, ← hq]
      exact hevs.most
    · rw [zero_add, ← hq]
      exact hfilled.mpr
    · have := (Totals.finals_perm hes).mem_iff.mpr hs
      rw [hfinals] at this
      exact List.mem_singleton.mp this
    · rw [zero_add, ← hq]
      exact hcut
  have hend : ∀ es : List Event, evs.Perm es → ∃ w', deliver ex es w =
      (.ok (), w') ∧ Stands o st (Totals.executed evs) (Totals.paid evs)
        st.ends true w' := by
    intro es hes
    obtain ⟨_, w', hret, h⟩ := Prog.wp_returns (deliver_stands hex hst
      (hrest es hes) le_rfl (fun _ => rfl) hstart) fun _ _ hf => hf
    refine ⟨w', hret, ?_⟩
    have hfin : Totals.finals es = [st] := by
      have := Totals.finals_perm hes
      rw [hfinals] at this
      exact (List.singleton_perm.mp this).symm
    rw [zero_add, zero_add, hfin, ← Totals.executed_perm hes,
      ← Totals.paid_perm hes] at h
    simpa using h
  obtain ⟨w₁, hret₁, h₁⟩ := hend evs (List.Perm.refl _)
  obtain ⟨w₂, hret₂, h₂⟩ := hend evs' hperm
  refine ⟨w₁, w₂, hret₁, hret₂, by rw [h₁.outcome_eq, h₂.outcome_eq],
    fun hpos => ?_⟩
  rw [show (w₁.mem.router o.iid).pendingCid = _ from
    congrArg Prod.snd h₁.placed.standing, Outstanding.standing_settled]
  by_cases he : st.ends = true
  · exact Or.inl he
  -- the order was filled: the size says that an entry opened, an exit closed
  right
  have hst' : st = .filled := by
    revert hst he
    cases st <;> simp [OrderStatus.final, OrderStatus.ends]
  rw [hfilled.mp hst']
  by_cases h0 : o.held = 0
  · refine iff_of_true (Outstanding.standing_entry (x := 0) (e := true)
      h0).1 ?_
    exact mt (Outstanding.size_entry h0).mp hpos.ne'
  · refine iff_of_false ?_ (not_not.mpr
      ((Outstanding.size_exit_eq_zero h0).mpr rfl))
    rw [(Outstanding.standing_exit (x := 0) (e := true) h0).1]
    nofun

end AnyOrder

/-! ### A purchase in two fills, and an order for nothing -/

section Samples

open Site

/-- The process that recovered from nothing, between two operations. -/
@[irreducible] def idleProcess :
    World (Durable (List ClientOrderId)) (Portfolio Unit) :=
  ⟨firstProcess.mem.pf, firstProcess.disk, []⟩

theorem idleProcess_ready : ReadyToSend idleProcess 1 where
  routed := by decide +kernel
  named := by decide +kernel
  coherent := ⟨by unfold Priced; decide +kernel, by decide +kernel,
    by decide +kernel, by decide +kernel⟩
  unused := by decide +kernel
  alone := by decide +kernel

theorem resting_keeps_stops : KeepsStops resting :=
  ⟨fun _ _ _ => rfl, fun _ _ => rfl⟩

def buyIntent (quantity : Decimal) : Intent :=
  ⟨1, .buy, quantity, 100 * quantity, false, "strategy"⟩

/-- That process after it sent an order to buy so much. -/
@[irreducible] def buying (quantity : Decimal) :
    World (Durable (List ClientOrderId)) (Portfolio Unit) :=
  (Portfolio.onRouter 1 (send resting (buyIntent quantity) (some 1) [])
    idleProcess).2

theorem idleProcess_flat : (idleProcess.mem.router 1).state = .flat := by
  decide +kernel

/-- The order it sent. -/
def purchase (quantity : Decimal) : Outstanding :=
  entryOrder 1 (idleProcess.mem.router 1)
    (idleProcess_ready.coherent.flat idleProcess_flat) (buyIntent quantity)

theorem purchase_cid (quantity : Decimal) :
    (purchase quantity).cid = "run-1-1" := by
  show nextCid (idleProcess.mem.router 1) = _
  decide +kernel

theorem buying_returns : (Portfolio.onRouter 1
      (send resting (buyIntent 1) (some 1) []) idleProcess).1.toBool = true ∧
    ((buying 1).mem.router 1).state.pending = true := by
  decide +kernel

theorem buying_submits : Submits resting 1 idleProcess
    idleProcess_ready.coherent (purchase 1) (buying 1) := by
  refine .entry (buyIntent 1) (some 1) [] idleProcess_flat rfl ?_
  unfold buying
  exact Prod.ext (Prog.ok_of_toBool buying_returns.1) rfl

/-- Two fills, an acknowledgement and the end. -/
def purchaseEvents : List Event :=
  [.fill ⟨"run-1-1", 1, .buy, 2 / 5, 100, 0, 0⟩,
    .order ⟨"run-1-1", .accepted, 0, 0⟩,
    .fill ⟨"run-1-1", 1, .buy, 3 / 5, 110, 0, 0⟩,
    .order ⟨"run-1-1", .filled, 1, 0⟩]

theorem purchaseEvents_of : OneOrder (purchase 1) purchaseEvents where
  own := by
    intro ev hev
    simp only [purchaseEvents, List.mem_cons, List.not_mem_nil, or_false] at hev
    rcases hev with rfl | rfl | rfl | rfl
    · exact ⟨(purchase_cid 1).symm, rfl, rfl, by norm_num⟩
    · exact ⟨(purchase_cid 1).symm, nofun⟩
    · exact ⟨(purchase_cid 1).symm, rfl, rfl, by norm_num⟩
    · exact ⟨(purchase_cid 1).symm, nofun⟩
  most := by
    show Totals.executed purchaseEvents ≤ 1
    decide +kernel
  ends := ⟨.filled, rfl, iff_of_true rfl (by
    show Totals.executed purchaseEvents = 1
    decide +kernel)⟩

theorem events_in_any_order_purchase :
    ∃ w₁ w₂, deliver resting purchaseEvents (buying 1) = (.ok (), w₁) ∧
      deliver resting purchaseEvents.reverse (buying 1) = (.ok (), w₂) ∧
      outcome 1 (purchase 1).cid w₁ = outcome 1 (purchase 1).cid w₂ ∧
      (0 < (purchase 1).quantity → (w₁.mem.router 1).pendingCid = none) :=
  events_in_any_order resting_keeps_stops idleProcess_ready buying_submits
    buying_returns.2 purchaseEvents_of (List.reverse_perm _).symm

/-- An order for nothing is filled without a fill, and its router waits on. -/
theorem nothing_ordered :
    (Portfolio.onRouter 1 (send resting (buyIntent 0) (some 1) [])
        idleProcess).1.toBool = true ∧
      ((buying 0).mem.router 1).state.pending = true ∧
      (deliver resting [.order ⟨"run-1-1", .filled, 0, 0⟩]
        (buying 0)).1.toBool = true ∧
      ((deliver resting [.order ⟨"run-1-1", .filled, 0, 0⟩]
        (buying 0)).2.mem.router 1).pendingCid = some "run-1-1" := by
  decide +kernel

theorem nothing_keeps_waiting :
    ¬ ∀ (w₀ w : World (Durable (List ClientOrderId)) (Portfolio Unit))
      (hw : ReadyToSend w₀ 1) (o : Outstanding) (evs : List Event),
      Submits resting 1 w₀ hw.coherent o w →
      (w.mem.router 1).state.pending = true → OneOrder o evs →
      ((deliver resting evs w).2.mem.router 1).pendingCid = none := by
  intro hall
  obtain ⟨hret, hpend, -, hwaits⟩ := nothing_ordered
  have hsend : Submits resting 1 idleProcess idleProcess_ready.coherent
      (purchase 0) (buying 0) := by
    refine .entry (buyIntent 0) (some 1) [] idleProcess_flat rfl ?_
    unfold buying
    exact Prod.ext (Prog.ok_of_toBool hret) rfl
  have hevs : OneOrder (purchase 0) [.order ⟨"run-1-1", .filled, 0, 0⟩] := by
    refine ⟨fun ev hev => ?_, le_rfl, .filled, rfl, iff_of_true rfl rfl⟩
    rw [List.mem_singleton.mp hev]
    exact ⟨(purchase_cid 0).symm, nofun⟩
  have hnone := hall _ _ idleProcess_ready _ _ hsend hpend hevs
  rw [hwaits] at hnone
  cases hnone

end Samples

end Polyperps
