import Polyperps.Execution.SimExecutor
import Polyperps.Lib.Dict
import Polyperps.Lib.Twin

/-!
# A restored paper account behaves like the original

`to_json` drops the flat positions and the order of the dictionary, so a
restored account is not the same state. `Alike` says what is left: the same
cash, numbering, marks and stops, in the same order, and for each instrument
the same position, where two flat ones count as the same. Every call keeps it
and gets the same answer from both, up to the order of a snapshot's positions.

That order is the one in which a snapshot adds up the equity, and sums of 28
digits depend on it. It differs only where an instrument is open that was
listed without a position when the account was saved: the original opens it in
its old place, the restored account at the end. So the equity is the same sum
in another order at worst, and the same number where no such instrument is
open. All of it holds for any rounding of the results.

It needs of the original what every call establishes: an open position has a
mark, and a flat one has no funding to carry over.
-/

namespace Polyperps

open ProgramLogic KeyedTable

namespace SimExecutor

/-- The same position, or two flat ones without funding. -/
def SamePos (p q : SimPos) : Prop :=
  p = q ∨ (p.size = 0 ∧ q.size = 0 ∧ p.funding = 0 ∧ q.funding = 0)

theorem SamePos.size {p q : SimPos} (h : SamePos p q) : p.size = q.size := by
  rcases h with rfl | ⟨hp, hq, -, -⟩
  · rfl
  · rw [hp, hq]

theorem SamePos.eq {p q : SimPos} (h : SamePos p q) (hp : p.size ≠ 0) :
    p = q := by
  rcases h with rfl | ⟨h0, -, -, -⟩
  · rfl
  · exact absurd h0 hp

/-- A position a run can leave: a flat one carries no funding. -/
def Settled (p : SimPos) : Prop := p.size = 0 → p.funding = 0

/-- Alike, with the instruments that may have changed their place. -/
structure Alike (moved : List InstrumentId) (s r : SimExecutor) : Prop where
  cash : s.cash = r.cash
  startEquity : s.startEquity = r.startEquity
  fee : s.fee = r.fee
  spread : s.spread = r.spread
  impact : s.impact = r.impact
  notional : s.notional = r.notional
  now : s.now = r.now
  marks : s.marks = r.marks
  stops : s.stops = r.stops
  queue : s.queue = r.queue
  n : s.n = r.n
  failNext : s.failNext = r.failNext
  failQueue : s.failQueue = r.failQueue
  pos : ∀ iid, SamePos (s.posOf iid) (r.posOf iid)
  keys : (s.pos.map Prod.fst).Nodup
  keys' : (r.pos.map Prod.fst).Nodup
  order : (s.pos.map Prod.fst).filter (· ∉ moved) =
    (r.pos.map Prod.fst).filter (· ∉ moved)
  marked : ∀ iid, s.size iid ≠ 0 → (s.marks.lookup iid).isSome
  settled : ∀ iid, Settled (s.posOf iid)

variable {fl : Decimal → Decimal} {moved : List InstrumentId}
  {s r : SimExecutor} {iid : InstrumentId}

theorem Alike.size (h : Alike moved s r) (iid : InstrumentId) :
    s.size iid = r.size iid := (h.pos iid).size

theorem posOf_assign {p : SimPos} {t : List (InstrumentId × SimPos)}
    {j : InstrumentId} :
    ((assign iid p t).lookup j).getD .zero =
      if j = iid then p else (t.lookup j).getD .zero := by
  have h := lookup_put (t := t) (a := iid) (v := p) (k := j)
  rw [put] at h
  rw [assign, h]
  split <;> rfl

/-- A key that is assigned keeps its place or comes last, the same in both. -/
theorem filter_keys_assign {p q : SimPos}
    {t u : List (InstrumentId × SimPos)}
    (h : (t.map Prod.fst).filter (· ∉ moved) =
      (u.map Prod.fst).filter (· ∉ moved)) :
    ((assign iid p t).map Prod.fst).filter (· ∉ moved) =
      ((assign iid q u).map Prod.fst).filter (· ∉ moved) := by
  have hkeys : ∀ {p : SimPos} {t : List (InstrumentId × SimPos)},
      ((assign iid p t).map Prod.fst).filter (· ∉ moved) =
        if iid ∈ moved ∨ iid ∈ (t.map Prod.fst).filter (· ∉ moved) then
          (t.map Prod.fst).filter (· ∉ moved)
        else (t.map Prod.fst).filter (· ∉ moved) ++ [iid] := by
    intro p t
    have hput := keys_put (t := t) (a := iid) (v := p)
    rw [put] at hput
    rw [assign, hput]
    by_cases hm : iid ∈ moved
    · rw [if_pos (Or.inl hm)]
      split
      · rfl
      · rw [List.filter_append]
        simp [hm]
    · by_cases hk : iid ∈ t.map Prod.fst
      · rw [if_pos hk, if_pos (Or.inr (List.mem_filter.mpr ⟨hk, by
          simpa using hm⟩))]
      · rw [if_neg hk, if_neg (not_or.mpr ⟨hm, fun h =>
          hk (List.mem_filter.mp h).1⟩), List.filter_append]
        simp [hm]
  rw [hkeys, hkeys, h]

/-- Both assign the position `h` relates. -/
theorem Alike.assign (h : Alike moved s r) {p q : SimPos} {cash : Decimal}
    (hpq : SamePos p q) (hset : Settled p)
    (hmark : p.size ≠ 0 → (s.marks.lookup iid).isSome) :
    Alike moved { s with pos := assign iid p s.pos, cash }
      { r with pos := SimExecutor.assign iid q r.pos, cash } := by
  have hs : ∀ j, posOf { s with pos := SimExecutor.assign iid p s.pos, cash } j =
      if j = iid then p else s.posOf j := fun j => posOf_assign
  have hr : ∀ j, posOf { r with pos := SimExecutor.assign iid q r.pos, cash } j =
      if j = iid then q else r.posOf j := fun j => posOf_assign
  refine { h with
    cash := rfl, pos := fun j => ?_, keys := nodup_put h.keys
    keys' := nodup_put h.keys', order := filter_keys_assign h.order
    marked := fun j hj => ?_
    settled := fun j => ?_ }
  · rw [hs, hr]
    split
    · exact hpq
    · exact h.pos j
  · rw [SimExecutor.size, hs] at hj
    split at hj
    · next hji => rw [hji]; exact hmark hj
    · exact h.marked j hj
  · rw [hs]
    split
    · exact hset
    · exact h.settled j

/-! ## The methods -/

theorem save_twin (h : Alike moved s r) : Prog.Twin (Alike moved) Eq save save s r := by
  refine Prog.Twin.modify ?_
  split <;> split <;> exact { h with }

theorem updateMark_twin (h : Alike moved s r) {mark : Decimal} :
    Prog.Twin (Alike moved) Eq (updateMark iid mark) (updateMark iid mark) s r := by
  refine Prog.Twin.modify { h with
    marks := by rw [h.marks], marked := fun j hj => ?_ }
  have hl := lookup_put (t := s.marks) (a := iid) (v := mark) (k := j)
  rw [put] at hl
  show ((assign iid mark s.marks).lookup j).isSome
  rw [assign, hl]
  split
  · rfl
  · exact h.marked j hj

theorem markOf_twin (h : Alike moved s r) :
    Prog.Twin (fun s' r' => Alike moved s' r' ∧ s' = s)
      (fun m m' => m = m' ∧ (s.marks.lookup iid).isSome)
      (markOf iid) (markOf iid) s r := by
  refine Prog.Twin.get_bind ?_
  rw [← h.marks]
  cases hm : s.marks.lookup iid with
  | none => exact Prog.Twin.raise ⟨h, rfl⟩
  | some mark => exact Prog.Twin.pure ⟨rfl, rfl⟩ ⟨h, rfl⟩

theorem tradePosition_settled (p : SimPos) (delta price : Decimal) :
    Settled (tradePosition fl p delta price).1 := by
  intro h0
  unfold tradePosition at h0 ⊢
  dsimp only at h0 ⊢
  rw [if_pos h0]

/-- Two flat positions are traded to the same position. -/
theorem tradePosition_same {p q : SimPos} (h : SamePos p q)
    (delta price : Decimal) :
    tradePosition fl p delta price = tradePosition fl q delta price := by
  rcases h with rfl | ⟨hp, hq, hfp, hfq⟩
  · rfl
  · simp only [tradePosition, hp, hq, hfp, hfq, if_true]

theorem applyPosition_twin (h : Alike moved s r) {delta price : Decimal}
    (hmark : (s.marks.lookup iid).isSome) :
    Prog.Twin (Alike moved) Eq (applyPosition fl iid delta price)
      (applyPosition fl iid delta price) s r := by
  refine Prog.Twin.modify ?_
  rw [← tradePosition_same (h.pos iid) delta price, ← h.cash]
  exact h.assign (Or.inl rfl) (tradePosition_settled _ _ _) fun _ => hmark

theorem fillAt_twin (h : Alike moved s r) {order : OrderRequest} {ts : DateTime}
    {quantity px : Decimal}
    (hmark : (s.marks.lookup order.instrumentId).isSome) :
    Prog.Twin (Alike moved) Eq (fillAt fl order ts quantity px)
      (fillAt fl order ts quantity px) s r := by
  refine Prog.Twin.get_bind ?_
  rw [← h.notional, ← h.spread, ← h.fee, ← h.impact]
  refine Prog.Twin.ofExcept_bind h fun fee _ => Prog.Twin.modify_bind ?_
  have h₁ : Alike moved { s with cash := fl (s.cash - fee) }
      { r with cash := fl (r.cash - fee) } := { h with cash := by rw [h.cash] }
  exact Prog.Twin.bind (applyPosition_twin h₁ hmark)
    fun _ _ _ _ _ h₂ => Prog.Twin.pure rfl h₂

theorem fill_twin (h : Alike moved s r) {order : OrderRequest} {ts : DateTime}
    {quantity : Decimal} {price : Option Decimal}
    (hmark : price ≠ none → (s.marks.lookup order.instrumentId).isSome) :
    Prog.Twin (Alike moved) Eq (fill fl order ts quantity price)
      (fill fl order ts quantity price) s r := by
  unfold fill
  cases price with
  | some px => exact fillAt_twin h (hmark nofun)
  | none =>
      refine Prog.Twin.bind_of (markOf_twin h) (fun _ _ h => h.1)
        fun px _ s₁ r₁ hpx h₁ => ?_
      obtain ⟨rfl, hm⟩ := hpx
      exact fillAt_twin h₁.1 (by rw [h₁.2]; exact hm)

theorem execute_twin (h : Alike moved s r) {lost : Bool} {order : OrderRequest}
    {ts : DateTime} {fillQty : Decimal} :
    Prog.Twin (Alike moved) Eq (execute fl lost order ts fillQty)
      (execute fl lost order ts fillQty) s r := by
  unfold execute
  refine Prog.Twin.modify_bind ?_
  have h₁ : Alike moved { s with n := s.n + 1 } { r with n := r.n + 1 } :=
    { h with n := by rw [h.n] }
  refine Prog.Twin.bind (fill_twin h₁ (fun hp => absurd rfl hp))
    fun ev _ s₂ r₂ hev h₂ => ?_
  subst hev
  refine Prog.Twin.modify_bind ?_
  refine Prog.Twin.bind (save_twin { h₂ with queue := by rw [h₂.queue] })
    fun _ _ s₃ r₃ _ h₃ => Prog.Twin.get_bind ?_
  rw [← h₃.n]
  split
  · exact Prog.Twin.raise h₃
  · exact Prog.Twin.pure rfl h₃

theorem ensurePos_alike (h : Alike moved s r) (iid : InstrumentId) :
    Alike moved (ensurePos iid s).2 (ensurePos iid r).2 :=
  h.assign (h.pos iid) (h.settled iid) (h.marked iid) |> fun h' =>
    { h' with cash := h.cash }

theorem submitMode_twin (h : Alike moved s r) {mode : Option FailMode}
    {order : OrderRequest} :
    Prog.Twin (Alike moved) Eq (submitMode fl mode order)
      (submitMode fl mode order) s r := by
  have hrest : ∀ lost : Bool, Prog.Twin (Alike moved) Eq
      (ensurePos order.instrumentId >>= fun _ =>
        if refusesReduce order (s.size order.instrumentId) then
          pure (rejectedAck order
            "reduce_only order would open or increase a position" s.now)
        else execute fl lost order s.now
          (fillQuantity fl order (s.size order.instrumentId)))
      (ensurePos order.instrumentId >>= fun _ =>
        if refusesReduce order (r.size order.instrumentId) then
          pure (rejectedAck order
            "reduce_only order would open or increase a position" r.now)
        else execute fl lost order r.now
          (fillQuantity fl order (r.size order.instrumentId))) s r := by
    intro lost
    rw [← h.size, ← h.now]
    refine Prog.Twin.modify_bind ?_
    have h₁ := ensurePos_alike h order.instrumentId
    split
    · exact Prog.Twin.pure rfl h₁
    · exact execute_twin h₁
  unfold submitMode
  refine Prog.Twin.get_bind ?_
  cases mode with
  | none => exact hrest _
  | some mode =>
      cases mode with
      | timeout => exact hrest _
      | reject =>
          show Prog.Twin (Alike moved) Eq (pure _) (pure _) s r
          rw [← h.now]
          exact Prog.Twin.pure rfl h
      | drop => exact Prog.Twin.raise h

theorem submit_twin (h : Alike moved s r) {order : OrderRequest} :
    Prog.Twin (Alike moved) Eq (submit fl order) (submit fl order) s r := by
  have hnext : Prog.Twin (Alike moved) Eq nextMode nextMode s r := by
    unfold nextMode
    refine Prog.Twin.get_bind ?_
    rw [← h.failQueue, ← h.failNext]
    split
    · exact ⟨rfl, { h with failQueue := rfl }⟩
    · exact ⟨rfl, { h with failNext := rfl }⟩
  refine Prog.Twin.bind hnext fun mode _ s₁ r₁ hmode h₁ => ?_
  subst hmode
  exact submitMode_twin h₁

theorem placeStop_twin (h : Alike moved s r) {trigger : Decimal} :
    Prog.Twin (Alike moved) Eq (placeStop iid trigger) (placeStop iid trigger)
      s r :=
  Prog.Twin.modify_bind (save_twin { h with stops := by rw [h.stops] })

theorem cancelStop_twin (h : Alike moved s r) :
    Prog.Twin (Alike moved) Eq (cancelStop iid) (cancelStop iid) s r :=
  Prog.Twin.modify_bind (save_twin { h with stops := by rw [h.stops] })

/-- An open position is what the dictionary holds of it. -/
theorem open_lookup (s : SimExecutor) (iid : InstrumentId) :
    (s.pos.lookup iid).filter (fun p => decide (p.size ≠ 0)) =
      if s.size iid = 0 then none else some (s.posOf iid) := by
  unfold size posOf
  cases s.pos.lookup iid with
  | none => rfl
  | some p =>
      rw [Option.getD_some, Option.filter]
      by_cases h : p.size = 0
      · simp [h]
      · simp [h]

theorem applyFunding_twin (h : Alike moved s r) {rate : Decimal} :
    Prog.Twin (Alike moved) Eq (applyFunding fl iid rate)
      (applyFunding fl iid rate) s r := by
  refine Prog.Twin.get_bind ?_
  rw [open_lookup s, open_lookup r, ← h.size]
  by_cases h0 : s.size iid = 0
  · rw [if_pos h0, if_pos h0]
    exact Prog.Twin.pure rfl h
  · rw [if_neg h0, if_neg h0, ← (h.pos iid).eq h0]
    dsimp only
    refine Prog.Twin.bind_of (markOf_twin h) (fun _ _ h => h.1)
      fun mark _ s₁ r₁ hmark h₁ => ?_
    obtain ⟨rfl, hm⟩ := hmark
    obtain ⟨h₁, rfl⟩ := h₁
    refine Prog.Twin.modify_bind (save_twin ?_)
    rw [← h₁.cash]
    exact h₁.assign (Or.inl rfl) (fun hz => absurd hz h0) fun _ => hm

theorem checkTrigger_twin (h : Alike moved s r) {trigger : Decimal} :
    Prog.Twin (Alike moved) Eq (checkTrigger fl iid trigger)
      (checkTrigger fl iid trigger) s r := by
  unfold checkTrigger
  refine Prog.Twin.get_bind ?_
  rw [← h.marks]
  cases hm : s.marks.lookup iid with
  | none => exact Prog.Twin.pure rfl h
  | some mark =>
      dsimp only
      rw [← h.size, ← h.n, ← h.now]
      split
      · refine Prog.Twin.modify_bind ?_
        have h₁ : Alike moved { s with n := s.n + 1 } { r with n := r.n + 1 } :=
          { h with n := by rw [h.n] }
        refine Prog.Twin.bind (fill_twin h₁ fun _ => ?_)
          fun ev _ s₂ r₂ hev h₂ => ?_
        · show (s.marks.lookup iid).isSome
          rw [hm]
          rfl
        · subst hev
          exact Prog.Twin.modify_bind
            (Prog.Twin.pure rfl { h₂ with stops := by rw [h₂.stops] })
      · exact Prog.Twin.pure rfl h

theorem fireStops_twin {stops : List (InstrumentId × Decimal)}
    (h : Alike moved s r) : Prog.Twin (Alike moved) Eq (fireStops fl stops)
      (fireStops fl stops) s r := by
  induction stops generalizing s r with
  | nil => exact Prog.Twin.pure rfl h
  | cons it rest ih =>
      obtain ⟨iid, trigger⟩ := it
      refine Prog.Twin.bind (checkTrigger_twin h) fun fired _ s₁ r₁ hf h₁ => ?_
      subst hf
      refine Prog.Twin.bind (ih h₁) fun later _ s₂ r₂ hl h₂ => ?_
      subst hl
      exact Prog.Twin.pure rfl h₂

theorem checkTriggers_twin (h : Alike moved s r) :
    Prog.Twin (Alike moved) Eq (checkTriggers fl) (checkTriggers fl) s r := by
  refine Prog.Twin.get_bind ?_
  rw [← h.stops]
  refine Prog.Twin.bind (fireStops_twin h) fun fired _ s₁ r₁ hf h₁ => ?_
  subst hf
  dsimp only
  split
  · exact Prog.Twin.pure rfl h₁
  · refine Prog.Twin.bind (save_twin h₁) fun _ _ _ _ _ h₂ => ?_
    exact Prog.Twin.pure rfl h₂

theorem drainEvents_twin (h : Alike moved s r) :
    Prog.Twin (Alike moved) Eq drainEvents drainEvents s r := by
  refine Prog.Twin.get_bind (Prog.Twin.modify_bind ?_)
  rw [← h.queue]
  exact Prog.Twin.pure rfl { h with queue := rfl }

/-! ## Snapshots -/

/-- The views of an account whose open positions have marks. -/
theorem views_marked (t : List (InstrumentId × SimPos)) (s : SimExecutor)
    (h : ∀ ip ∈ t, ip.2.size ≠ 0 → (s.marks.lookup ip.1).isSome) :
    views fl t s = (.ok ((t.filter fun ip => ip.2.size ≠ 0).map fun ip =>
      view fl ip.1 ip.2 ((s.marks.lookup ip.1).getD 0)), s) := by
  induction t with
  | nil => rfl
  | cons ip rest ih =>
      obtain ⟨iid, p⟩ := ip
      have hrest := ih fun x hx => h x (List.mem_cons_of_mem _ hx)
      rw [views]
      by_cases h0 : p.size = 0
      · rw [if_pos h0, hrest, List.filter_cons_of_neg (by simp [h0])]
      · obtain ⟨mark, hm⟩ := Option.isSome_iff_exists.mp
          (h (iid, p) (by simp) h0)
        rw [if_neg h0, List.filter_cons_of_pos (by simp [h0])]
        simp only [markOf, bind, Prog.get, hm, pure, hrest, List.map_cons,
          Option.getD_some]

/-- The same account to the reader: the positions in any order, the equity the
same cash and the positions' values added in their order; in the same order,
where no instrument is open that may have changed its place. -/
structure SameSnapshot (fl : Decimal → Decimal) (moved : List InstrumentId)
    (a b : AccountSnapshot) : Prop where
  equity : ∃ cash, a.equity = fl (cash + unrealised fl a.positions) ∧
    b.equity = fl (cash + unrealised fl b.positions)
  positions : a.positions.Perm b.positions
  inPlace : (∀ p ∈ a.positions, p.instrumentId ∉ moved) →
    a.positions = b.positions ∧ a.equity = b.equity
  position : ∀ iid, a.position iid = b.position iid
  openOrders : a.openOrders = b.openOrders
  stops : a.stops = b.stops
  inLiquidation : a.inLiquidation = b.inLiquidation
  ts : a.ts = b.ts

/-- The open positions, in some order. -/
theorem Alike.open_perm (h : Alike moved s r) :
    (s.pos.filter fun ip => ip.2.size ≠ 0).Perm
      (r.pos.filter fun ip => ip.2.size ≠ 0) := by
  rw [List.perm_ext_iff_of_nodup (h.keys.of_map.filter _)
    (h.keys'.of_map.filter _)]
  have hmem : ∀ {x : SimExecutor} (_ : (x.pos.map Prod.fst).Nodup)
      (ip : InstrumentId × SimPos),
      ip ∈ x.pos.filter (fun ip => ip.2.size ≠ 0) ↔
        x.posOf ip.1 = ip.2 ∧ ip.2.size ≠ 0 := by
    rintro x hx ⟨iid, p⟩
    rw [List.mem_filter, mem_iff_lookup hx, posOf]
    constructor
    · rintro ⟨hl, hne⟩
      exact ⟨by rw [hl]; rfl, by simpa using hne⟩
    · rintro ⟨hl, hne⟩
      refine ⟨?_, by simpa using hne⟩
      cases hlook : x.pos.lookup iid with
      | none =>
          rw [hlook] at hl
          exact absurd (by rw [← hl]; rfl) hne
      | some q =>
          rw [hlook] at hl
          exact congrArg some hl
  intro ip
  rw [hmem h.keys, hmem h.keys']
  constructor
  · rintro ⟨hp, hne⟩
    exact ⟨by rw [← (h.pos ip.1).eq (by rw [hp]; exact hne)]; exact hp, hne⟩
  · rintro ⟨hp, hne⟩
    have hs : (s.posOf ip.1).size ≠ 0 := by
      rw [(h.pos ip.1).size, hp]
      exact hne
    exact ⟨((h.pos ip.1).eq hs).trans hp, hne⟩

/-- The open positions in the order of their instruments. -/
theorem open_keys {s : SimExecutor} (h : (s.pos.map Prod.fst).Nodup) :
    s.pos.filter (fun ip => ip.2.size ≠ 0) =
      ((s.pos.map Prod.fst).filter fun k => s.size k ≠ 0).map fun k =>
        (k, s.posOf k) := by
  have hpos : ∀ ip ∈ s.pos, s.posOf ip.1 = ip.2 := fun ip hip => by
    rw [posOf, (mem_iff_lookup h).mp hip]
    rfl
  rw [List.filter_map, List.map_map]
  have hfilter : s.pos.filter ((fun k => decide (s.size k ≠ 0)) ∘ Prod.fst) =
      s.pos.filter fun ip => ip.2.size ≠ 0 :=
    List.filter_congr fun ip hip => by
      show decide (s.size ip.1 ≠ 0) = _
      rw [SimExecutor.size, hpos ip hip]
  rw [hfilter]
  refine (List.map_id _).symm.trans (List.map_congr_left fun ip hip => ?_)
  show ip = (ip.1, s.posOf ip.1)
  rw [hpos ip (List.mem_of_mem_filter hip)]

/-- The open positions, where none of them may have changed its place. -/
theorem Alike.open_eq (h : Alike moved s r)
    (hmoved : ∀ ip ∈ s.pos.filter (fun ip => ip.2.size ≠ 0), ip.1 ∉ moved) :
    s.pos.filter (fun ip => ip.2.size ≠ 0) =
      r.pos.filter fun ip => ip.2.size ≠ 0 := by
  have hopen : ∀ k, k ∈ s.pos.map Prod.fst → s.size k ≠ 0 → k ∉ moved := by
    intro k hk hne
    rw [open_keys h.keys] at hmoved
    exact hmoved (k, s.posOf k) (List.mem_map.mpr
      ⟨k, List.mem_filter.mpr ⟨hk, by simpa using hne⟩, rfl⟩)
  have hkey : ∀ {x : SimExecutor} {k : InstrumentId}, x.size k ≠ 0 →
      k ∈ x.pos.map Prod.fst := by
    intro x k hne
    refine mem_keys_iff.mpr fun hl => hne ?_
    rw [SimExecutor.size, posOf, hl]
    rfl
  have hkeys : (s.pos.map Prod.fst).filter (fun k => s.size k ≠ 0) =
      (r.pos.map Prod.fst).filter fun k => r.size k ≠ 0 := by
    have hboth : ∀ {x : SimExecutor}, (∀ k, x.size k = s.size k) →
        (x.pos.map Prod.fst).filter (fun k => x.size k ≠ 0) =
          ((x.pos.map Prod.fst).filter (· ∉ moved)).filter
            fun k => s.size k ≠ 0 := by
      intro x hx
      rw [List.filter_filter]
      refine List.filter_congr fun k hk => ?_
      rw [hx k, Bool.eq_iff_iff, Bool.and_eq_true]
      simp only [decide_eq_true_iff]
      exact ⟨fun hne => ⟨hne, hopen k (hkey hne) hne⟩, fun h => h.1⟩
    rw [hboth fun _ => rfl, hboth fun k => (h.size k).symm, h.order]
  rw [open_keys h.keys, open_keys h.keys', hkeys]
  refine List.map_congr_left fun k hk => ?_
  have hne : r.size k ≠ 0 := by simpa using (List.mem_filter.mp hk).2
  have hopen' : (s.posOf k).size ≠ 0 := by
    rw [(h.pos k).size]
    exact hne
  rw [(h.pos k).eq hopen']

/-- What a snapshot of an account with marks shows. -/
theorem snapshot_marked {s : SimExecutor} (hkeys : (s.pos.map Prod.fst).Nodup)
    (hmarked : ∀ iid, s.size iid ≠ 0 → (s.marks.lookup iid).isSome) :
    let positions := (s.pos.filter fun ip => ip.2.size ≠ 0).map fun ip =>
      view fl ip.1 ip.2 ((s.marks.lookup ip.1).getD 0)
    snapshot fl s = (.ok
      { equity := fl (s.cash + unrealised fl positions)
        positions, openOrders := [], stops := s.stops
        inLiquidation := false, ts := s.now }, s) := by
  have hviews := @views_marked fl s.pos s fun ip hip hne => by
    refine hmarked ip.1 ?_
    rw [size, posOf, (mem_iff_lookup hkeys).mp hip]
    exact hne
  simp only [snapshot, bind, Prog.get, hviews, pure]

theorem snapshot_twin (h : Alike moved s r) :
    Prog.Twin (Alike moved) (SameSnapshot fl moved) (snapshot fl) (snapshot fl)
      s r := by
  have hmarked' : ∀ iid, r.size iid ≠ 0 → (r.marks.lookup iid).isSome := by
    intro iid hne
    rw [← h.marks]
    exact h.marked iid (by rw [h.size]; exact hne)
  unfold Prog.Twin
  rw [Prog.wp_of_ok (snapshot_marked h.keys h.marked),
    Prog.wp_of_ok (snapshot_marked h.keys' hmarked'), ← h.marks, ← h.cash]
  have hperm := h.open_perm.map fun ip : InstrumentId × SimPos =>
    view fl ip.1 ip.2 ((s.marks.lookup ip.1).getD 0)
  refine ⟨⟨⟨s.cash, rfl, rfl⟩, hperm, fun hmoved => ?_,
    fun iid => KeyedTable.lookup_perm hperm ?_ iid, rfl, h.stops, rfl,
    h.now⟩, h⟩
  · rw [h.open_eq fun ip hip => hmoved _ (List.mem_map_of_mem hip)]
    exact ⟨rfl, rfl⟩
  · rw [List.map_map]
    exact (List.filter_sublist.map Prod.fst).nodup h.keys

/-- The same answer, with a snapshot's positions in any order. -/
inductive SameAnswer (fl : Decimal → Decimal) (moved : List InstrumentId) :
    Except Exc Answer → Except Exc Answer → Prop
  | eq (a : Except Exc Answer) : SameAnswer fl moved a a
  | account {a b : AccountSnapshot} (h : SameSnapshot fl moved a b) :
      SameAnswer fl moved (.ok (.account a)) (.ok (.account b))

/-- What a list of calls answers, call by call. -/
def answers (fl : Decimal → Decimal) :
    List Op → SimExecutor → List (Except Exc Answer)
  | [], _ => []
  | op :: ops, s => (perform fl op s).1 :: answers fl ops (perform fl op s).2

theorem Twin.answer {α : Type} {m m' : M α} {f : α → Answer}
    (h : Prog.Twin (Alike moved) Eq m m' s r) :
    Prog.Twin (Alike moved) Eq (m >>= fun a => pure (f a))
      (m' >>= fun a => pure (f a)) s r :=
  Prog.Twin.bind h fun _ _ _ _ hab h₁ => Prog.Twin.pure (by rw [hab]) h₁

/-- Every call answers both alike, and leaves them alike. -/
theorem perform_twin (h : Alike moved s r) (op : Op) :
    SameAnswer fl moved (perform fl op s).1 (perform fl op r).1 ∧
      Alike moved (perform fl op s).2 (perform fl op r).2 := by
  have hone : ∀ {m : M Answer}, Prog.Twin (Alike moved) Eq m m s r →
      SameAnswer fl moved (m s).1 (m r).1 ∧ Alike moved (m s).2 (m r).2 := by
    intro m hm
    refine ⟨?_, hm.state⟩
    rcases hm.outcome with ⟨a, b, ha, hb, rfl⟩ | ⟨e, ha, hb⟩
    · rw [ha, hb]; exact .eq _
    · rw [ha, hb]; exact .eq _
  cases op with
  | updateMark iid mark => exact hone (Twin.answer (updateMark_twin h))
  | applyFunding iid rate => exact hone (Twin.answer (applyFunding_twin h))
  | submit order => exact hone (Twin.answer (submit_twin h))
  | placeStop iid trigger =>
      refine hone (Prog.Twin.bind (placeStop_twin h) fun _ _ s₁ r₁ _ h₁ => ?_)
      refine Prog.Twin.get_bind ?_
      rw [← h₁.now]
      exact Prog.Twin.pure rfl h₁
  | cancelStop iid => exact hone (Twin.answer (cancelStop_twin h))
  | checkTriggers => exact hone (Twin.answer (checkTriggers_twin h))
  | drainEvents => exact hone (Twin.answer (drainEvents_twin h))
  | snapshot =>
      have hs : Prog.Twin (Alike moved)
          (fun a b => SameAnswer fl moved (.ok a) (.ok b))
          (perform fl .snapshot) (perform fl .snapshot) s r :=
        Prog.Twin.bind (snapshot_twin h) fun _ _ _ _ hab h₁ =>
          Prog.Twin.pure (.account hab) h₁
      refine ⟨?_, hs.state⟩
      rcases hs.outcome with ⟨a, b, ha, hb, hab⟩ | ⟨e, ha, hb⟩
      · rw [ha, hb]; exact hab
      · rw [ha, hb]; exact .eq _
  | inject failNext failQueue =>
      exact hone (Twin.answer (Prog.Twin.modify
        { h with failNext := rfl, failQueue := rfl }))
  | clock now => exact hone (Twin.answer (Prog.Twin.modify { h with now := rfl }))

theorem Alike.answers (h : Alike moved s r) (ops : List Op) :
    List.Forall₂ (SameAnswer fl moved) (answers fl ops s)
      (answers fl ops r) := by
  induction ops generalizing s r with
  | nil => exact .nil
  | cons op rest ih =>
      obtain ⟨ha, h₁⟩ := perform_twin h op
      exact .cons ha (ih h₁)

/-! ## Saved and restored -/

/-- The account a process restores from what was saved, with the constructor
arguments of the one that saved it. -/
def restored (s : SimExecutor) (now : DateTime) : SimExecutor :=
  fromJson s.toJson s.fee s.spread s.impact s.notional now s.persists

/-- The instruments an account lists without a position. -/
def flats (s : SimExecutor) : List InstrumentId :=
  (s.pos.filter fun ip => ip.2.size = 0).map Prod.fst

/-- The accounts a process can have: new ones, restored ones, and what calls
make of them. -/
inductive Reachable (fl : Decimal → Decimal) : SimExecutor → Prop
  | new (equity takerFeeRate spread impact notional : Decimal) (now : DateTime)
      (persists : Bool) :
      Reachable fl (new equity takerFeeRate spread impact notional now persists)
  | call {s : SimExecutor} (op : Op) (h : Reachable fl s) :
      Reachable fl (perform fl op s).2
  | restore {s : SimExecutor} (now : DateTime) (h : Reachable fl s) :
      Reachable fl (restored s now)

theorem Alike.right (h : Alike moved s r) : Alike moved r r := by
  refine ⟨rfl, rfl, rfl, rfl, rfl, rfl, rfl, rfl, rfl, rfl, rfl, rfl, rfl,
    fun _ => Or.inl rfl, h.keys', h.keys', rfl, fun iid hne => ?_,
    fun iid h0 => ?_⟩
  · rw [← h.marks]
    exact h.marked iid (by rw [h.size]; exact hne)
  · rcases h.pos iid with heq | ⟨-, -, -, hf⟩
    · rw [← heq]
      exact h.settled iid (by rw [heq]; exact h0)
    · exact hf

/-- The position a restored account has of an instrument. -/
theorem restored_pos (s : SimExecutor) (iid : InstrumentId)
    (hkeys : (s.pos.map Prod.fst).Nodup) :
    ((s.pos.filter fun ip => ip.2.size ≠ 0).lookup iid).getD .zero =
      if s.size iid = 0 then .zero else s.posOf iid := by
  have hkeys' : ((s.pos.filter fun ip => ip.2.size ≠ 0).map Prod.fst).Nodup :=
    (List.filter_sublist.map Prod.fst).nodup hkeys
  by_cases h0 : s.size iid = 0
  · rw [if_pos h0]
    cases hl : (s.pos.filter fun ip => ip.2.size ≠ 0).lookup iid with
    | none => rfl
    | some p =>
        obtain ⟨hmem, hne⟩ := List.mem_filter.mp ((mem_iff_lookup hkeys').mpr hl)
        rw [size, posOf, (mem_iff_lookup hkeys).mp hmem] at h0
        exact absurd h0 (by simpa using hne)
  · rw [if_neg h0]
    have hl : s.pos.lookup iid = some (s.posOf iid) := by
      unfold size posOf at h0
      unfold posOf
      cases hlook : s.pos.lookup iid with
      | none => rw [hlook] at h0; exact absurd rfl h0
      | some p => rfl
    have hmem : (iid, s.posOf iid) ∈ s.pos.filter fun ip => ip.2.size ≠ 0 :=
      List.mem_filter.mpr ⟨(mem_iff_lookup hkeys).mpr hl,
        by simpa [size] using h0⟩
    rw [(mem_iff_lookup hkeys').mp hmem]
    rfl

/-- Without the instruments listed flat, the keys are those that are saved. -/
theorem restored_order (hkeys : (s.pos.map Prod.fst).Nodup) :
    (s.pos.map Prod.fst).filter (· ∉ flats s) =
      ((s.pos.filter fun ip => ip.2.size ≠ 0).map Prod.fst).filter
        (· ∉ flats s) := by
  have hflat : ∀ ip ∈ s.pos, (ip.1 ∉ flats s ↔ ip.2.size ≠ 0) := by
    intro ip hip
    refine not_congr ⟨fun h => ?_, fun h => ?_⟩
    · obtain ⟨iq, hiq, heq⟩ := List.mem_map.mp h
      obtain ⟨hmem, hz⟩ := List.mem_filter.mp hiq
      rw [show ip = iq from Prod.ext heq.symm (Option.some.inj
        (((mem_iff_lookup hkeys).mp hip).symm.trans
          ((mem_iff_lookup hkeys).mp (by rw [← heq]; exact hmem))))]
      simpa using hz
    · exact List.mem_map_of_mem (List.mem_filter.mpr ⟨hip, by simpa using h⟩)
  rw [List.filter_map, List.filter_map, List.filter_filter]
  refine congrArg (List.map Prod.fst) (List.filter_congr fun ip hip => ?_)
  rw [Bool.eq_iff_iff, Bool.and_eq_true]
  show decide (ip.1 ∉ flats s) = true ↔ decide (ip.1 ∉ flats s) = true ∧ _
  simp only [decide_eq_true_iff]
  exact ⟨fun h => ⟨h, (hflat ip hip).mp h⟩, fun h => h.1⟩

/-- A restored account is alike, but for what is not saved: the events, the
failures to come and the clock. -/
theorem restored_alike (h : Alike moved s s) (now : DateTime) :
    Alike (flats s)
      { s with now, queue := [], failNext := none, failQueue := [] }
      (restored s now) := by
  have hpos : ∀ iid, posOf (restored s now) iid =
      if s.size iid = 0 then .zero else s.posOf iid :=
    fun iid => restored_pos s iid h.keys
  refine ⟨rfl, rfl, rfl, rfl, rfl, rfl, rfl, rfl, rfl, rfl, rfl, rfl, rfl,
    fun iid => ?_, h.keys, (List.filter_sublist.map Prod.fst).nodup h.keys,
    restored_order h.keys, h.marked, h.settled⟩
  show SamePos (s.posOf iid) _
  rw [hpos]
  split
  · next h0 => exact Or.inr ⟨h0, rfl, h.settled iid h0, rfl⟩
  · exact Or.inl rfl

theorem Reachable.alike (h : Reachable fl s) : ∃ moved, Alike moved s s := by
  induction h with
  | new equity takerFeeRate spread impact notional now persists =>
      exact ⟨[], rfl, rfl, rfl, rfl, rfl, rfl, rfl, rfl, rfl, rfl, rfl, rfl,
        rfl, fun _ => Or.inl rfl, List.nodup_nil, List.nodup_nil, rfl,
        fun _ hne => absurd rfl hne, fun _ _ => rfl⟩
  | call op _ ih =>
      obtain ⟨moved, ha⟩ := ih
      exact ⟨moved, (perform_twin ha op).2⟩
  | restore now _ ih =>
      obtain ⟨moved, ha⟩ := ih
      exact ⟨_, (restored_alike ha now).right⟩

/-- **A restored paper account behaves like the original.** Saved with no
event undelivered and no failure injected, and restored at the same time, it
answers every later list of calls as the original does, call by call, whatever
the results are rounded to: the same acknowledgements, fills and errors, and
snapshots that differ at most in the order of their positions and of the sum
in their equity, and not at all while no instrument is open that was listed
flat when the account was saved. -/
theorem restored_answers (h : Reachable fl s) (hqueue : s.queue = [])
    (hnext : s.failNext = none) (hfail : s.failQueue = []) (ops : List Op) :
    List.Forall₂ (SameAnswer fl (flats s)) (answers fl ops s)
      (answers fl ops (restored s s.now)) := by
  obtain ⟨moved, hs⟩ := h.alike
  have ha := restored_alike hs s.now
  rw [← hqueue, ← hnext, ← hfail] at ha
  exact Alike.answers ha ops

open Rounding

/-- An account that has traded three instruments and is flat in the first. -/
def tradedThree : SimExecutor :=
  run round28 [.updateMark 1 100, .submit ⟨"a", 1, .buy, 1, false, 0⟩,
    .submit ⟨"b", 1, .sell, 1, true, 0⟩, .updateMark 2 2000,
    .submit ⟨"c", 2, .buy, 1, false, 0⟩, .updateMark 3 100,
    .submit ⟨"d", 3, .buy, 1, false, 0⟩, .updateMark 3 101,
    .submit ⟨"e", 3, .buy, 2, false, 0⟩, .placeStop 3 90, .drainEvents]
    (new 1000 0 0 0 100 0 true)

/-- The first is opened again, and the marks move. -/
def reopenFirst : List Op :=
  [.submit ⟨"f", 1, .buy, 1, false, 0⟩, .updateMark 1 110,
    .updateMark 2 1000, .updateMark 3 100, .checkTriggers, .snapshot]

theorem tradedThree_reachable : Reachable round28 tradedThree :=
  .call _ (.call _ (.call _ (.call _ (.call _ (.call _ (.call _ (.call _
    (.call _ (.call _ (.call _ (.new 1000 0 0 0 100 0 true)))))))))))

theorem restored_answers_three :
    List.Forall₂ (SameAnswer round28 (flats tradedThree))
      (answers round28 reopenFirst tradedThree)
      (answers round28 reopenFirst (restored tradedThree tradedThree.now)) :=
  restored_answers tradedThree_reachable (by decide +kernel)
    (by decide +kernel) (by decide +kernel) _

/-- The equity a call shows. -/
def equityOf : Except Exc Answer → Option Decimal
  | .ok (.account snap) => some snap.equity
  | _ => none

/-- The three values added in the two orders end in another digit. -/
theorem restored_equity_differs :
    ¬ ∀ (s : SimExecutor) (ops : List Op), Reachable round28 s →
      s.queue = [] → s.failNext = none → s.failQueue = [] →
      (answers round28 ops s).map equityOf =
        (answers round28 ops (restored s s.now)).map equityOf := by
  intro h
  have heq := h tradedThree reopenFirst tradedThree_reachable
    (by decide +kernel) (by decide +kernel) (by decide +kernel)
  exact absurd heq (by decide +kernel)

end SimExecutor

end Polyperps
