import Polyperps.Execution.SimExecutor
import Polyperps.Lib.Dict

/-!
# The paper account conserves value

`balance` is the cash less what the open positions cost. Only three things
move it: a fill, by its signed value and its fee, and a funding payment. One
lemma for each method says by how much, and the run lemma adds them up; the
equity a snapshot shows is the balance with the positions at their marks
instead. The arithmetic is exact throughout.
-/

namespace Polyperps

open ProgramLogic KeyedTable

/-- What a fill takes from the cash: the signed value and the fee. -/
def FillUpdate.outlay (ev : FillUpdate) : Decimal := ev.delta * ev.price + ev.fee

namespace SimExecutor

/-- What the positions cost, at their entries. -/
def cost (s : SimExecutor) : Decimal :=
  (s.pos.map fun ip => ip.2.size * ip.2.entry).sum

def balance (s : SimExecutor) : Decimal := s.cash - s.cost

/-- What the positions are worth, at their marks. -/
def worth (s : SimExecutor) : Decimal :=
  (s.pos.map fun ip => ip.2.size * (s.marks.lookup ip.1).getD 0).sum

/-! ## What a run executes -/

/-- The fills of the stops in a list that fire, as far as none raises. -/
def firedFills : List (InstrumentId × Decimal) → SimExecutor → List FillUpdate
  | [], _ => []
  | (iid, trigger) :: rest, s =>
      match checkTrigger id iid trigger s with
      | (.ok fired, s') => fired.toList ++ firedFills rest s'
      | (.error _, _) => []

/-- The fills a call executes, acknowledged or not. -/
def executed (s : SimExecutor) : Op → List FillUpdate
  | .submit order =>
      ((submit id order s).2.queue.drop s.queue.length).filterMap Event.fill?
  | .checkTriggers => firedFills s.stops s
  | _ => []

/-- The funding a call pays: longs pay a positive rate. -/
def paid (s : SimExecutor) : Op → Decimal
  | .applyFunding iid rate =>
      -s.size iid * (s.marks.lookup iid).getD 0 * rate
  | _ => 0

/-- The fills of a run, in order. -/
def runFills : List Op → SimExecutor → List FillUpdate
  | [], _ => []
  | op :: ops, s => executed s op ++ runFills ops (perform id op s).2

/-- The funding payments of a run. -/
def runPaid : List Op → SimExecutor → Decimal
  | [], _ => 0
  | op :: ops, s => paid s op + runPaid ops (perform id op s).2

/-! ## One trade -/

variable {s : SimExecutor} {iid : InstrumentId}

theorem cost_assign (s : SimExecutor) (iid : InstrumentId) (p : SimPos) :
    cost { s with pos := assign iid p s.pos } =
      s.cost - s.size iid * (s.posOf iid).entry + p.size * p.entry := by
  have h := sum_put (a := iid) (v := p) (t := s.pos)
    (fun ip : InstrumentId × SimPos => ip.2.size * ip.2.entry)
  simp only [cost, assign, size, posOf]
  refine h.trans ?_
  cases s.pos.lookup iid with
  | none => simp [SimPos.zero]
  | some q => simp

@[simp] theorem posOf_assign_self {p : SimPos} :
    posOf { s with pos := assign iid p s.pos } iid = p := by
  have h := lookup_put (t := s.pos) (a := iid) (v := p) (k := iid)
  simp only [posOf, assign]
  rw [put, if_pos rfl] at h
  rw [h, Option.getD_some]

/-- The account's arithmetic: what the trade realises makes up for the change
of cost, up to the value traded. -/
theorem tradePosition_conserves (p : SimPos) (delta price : Decimal) :
    let q := tradePosition id p delta price
    q.1.size = p.size + delta ∧
      q.2.getD 0 + p.size * p.entry - q.1.size * q.1.entry =
        -(delta * price) := by
  unfold tradePosition
  dsimp only [id_eq]
  split
  · next h0 => exact ⟨rfl, by simp only [h0, Option.getD_none]; ring⟩
  next h0 =>
  split
  · next hinc =>
    -- the average cost is a weighted one, because the two parts have one sign
    obtain ⟨hsign, habs⟩ := hinc
    refine ⟨rfl, ?_⟩
    dsimp only [Option.getD_none]
    rcases lt_or_gt_of_ne h0 with hneg | hpos
    · have hnew : p.size + delta < 0 := by
        have hle : p.size + delta ≤ 0 := not_lt.mp fun h =>
          absurd (hsign.mpr h) (not_lt.mpr hneg.le)
        refine lt_of_le_of_ne hle fun h => ?_
        rw [h, abs_zero] at habs
        exact absurd habs (not_lt.mpr (abs_nonneg _))
      rw [abs_of_neg hneg, abs_of_neg hnew] at habs ⊢
      have hd : delta < 0 := by linarith
      have hne : p.size + delta ≠ 0 := hnew.ne
      rw [abs_of_neg hd, div_neg, mul_neg, mul_div_cancel₀ _ hne]
      ring
    · have hnew := hsign.mp hpos
      rw [abs_of_pos hpos, abs_of_pos hnew] at habs ⊢
      have hd : 0 < delta := by linarith
      have hne : p.size + delta ≠ 0 := hnew.ne'
      rw [abs_of_pos hd, mul_div_cancel₀ _ hne]
      ring
  next hinc =>
  split
  · next hred =>
    obtain ⟨hsign, hne⟩ := hred
    refine ⟨rfl, ?_⟩
    dsimp only [Option.getD_some]
    rcases lt_or_gt_of_ne h0 with hneg | hpos
    · have hnew : p.size + delta < 0 := lt_of_le_of_ne
        (not_lt.mp fun h => absurd (hsign.mpr h) (not_lt.mpr hneg.le)) hne
      rw [abs_of_neg hneg, abs_of_neg hnew, if_neg (not_lt.mpr hneg.le)]
      ring
    · have hnew := hsign.mp hpos
      rw [abs_of_pos hpos, abs_of_pos hnew, if_pos hpos]
      ring
  · refine ⟨rfl, ?_⟩
    dsimp only [Option.getD_some]
    split
    · ring
    · next hz =>
      have hd : delta = -p.size := by linarith [not_not.mp hz]
      rw [hd]
      ring

theorem applyPosition_balance (iid : InstrumentId) (delta price : Decimal)
    (s : SimExecutor) :
    (applyPosition id iid delta price s).2.balance =
      s.balance - delta * price := by
  obtain ⟨-, h⟩ := tradePosition_conserves (s.posOf iid) delta price
  have hcash : ∀ realised : Option Decimal,
      (realised.elim s.cash fun x => id (s.cash + x)) =
        s.cash + realised.getD 0 := by
    rintro (_ | x)
    · exact (add_zero _).symm
    · rfl
  show balance { s with
    pos := assign iid (tradePosition id (s.posOf iid) delta price).1 s.pos
    cash := (tradePosition id (s.posOf iid) delta price).2.elim s.cash
      fun x => id (s.cash + x) } = _
  rw [hcash]
  have hc := cost_assign s iid (tradePosition id (s.posOf iid) delta price).1
  simp only [balance, cost, size] at hc ⊢
  rw [hc]
  linarith

/-- A fill takes its outlay, or nothing happened. -/
theorem fill_spec (order : OrderRequest) (ts : DateTime) (quantity : Decimal)
    (price : Option Decimal) (s : SimExecutor) :
    Prog.wp (fill id order ts quantity price)
      (fun ev s' => s'.balance = s.balance - ev.outlay ∧
        ev.delta = order.side.sign * quantity ∧
        s'.posOf order.instrumentId = (tradePosition id
          (s.posOf order.instrumentId) ev.delta ev.price).1 ∧
        s'.queue = s.queue ∧ s'.marks = s.marks ∧ s'.stops = s.stops)
      (fun _ s' => s' = s) s := by
  have hrest : ∀ px : Decimal, Prog.wp (fillAt id order ts quantity px)
      (fun ev s' => s'.balance = s.balance - ev.outlay ∧
        ev.delta = order.side.sign * quantity ∧
        s'.posOf order.instrumentId = (tradePosition id
          (s.posOf order.instrumentId) ev.delta ev.price).1 ∧
        s'.queue = s.queue ∧ s'.marks = s.marks ∧ s'.stops = s.stops)
      (fun _ s' => s' = s) s := by
    intro px
    rw [fillAt, Prog.wp_bind, Prog.wp_get, Prog.wp_bind]
    cases fillCost (id (quantity * px)) s.notional s.spread s.fee s.impact
      id with
    | error e => rfl
    | ok fee =>
        rw [Prog.wp_ofExcept_ok, Prog.wp_bind, Prog.wp_modify, Prog.wp_bind]
        refine ⟨?_, rfl, ?_, rfl, rfl, rfl⟩
        · have h := applyPosition_balance order.instrumentId
            (order.side.sign * quantity) px { s with cash := s.cash - fee }
          refine h.trans ?_
          simp only [balance, cost, FillUpdate.outlay, FillUpdate.delta]
          ring
        · exact posOf_assign_self (s := s)
  unfold fill
  cases price with
  | some px => exact hrest px
  | none =>
      dsimp only
      rw [Prog.wp_bind, markOf, Prog.wp_bind, Prog.wp_get]
      cases s.marks.lookup order.instrumentId with
      | none => rfl
      | some px => exact hrest px

/-! ## The methods -/

/-- A method that touches neither cash nor positions. -/
structure Untraded (s s' : SimExecutor) : Prop where
  cash : s'.cash = s.cash
  pos : s'.pos = s.pos

theorem Untraded.balance {s s' : SimExecutor} (h : Untraded s s') :
    s'.balance = s.balance := by
  rw [SimExecutor.balance, SimExecutor.balance, cost, cost, h.cash, h.pos]

theorem save_untraded (s : SimExecutor) : Untraded s (save s).2 ∧
    (save s).2.queue = s.queue := by
  show Untraded s (if s.persists then _ else s) ∧
    (if s.persists then _ else s : SimExecutor).queue = s.queue
  split <;> exact ⟨⟨rfl, rfl⟩, rfl⟩

theorem wp_save {Q : Unit → SimExecutor → Prop} {E : Exc → SimExecutor → Prop} :
    Prog.wp save Q E s = Q () (save s).2 := rfl

/-- From `s` to `s'` the fills queued were executed, and nothing else. -/
def Queued (s s' : SimExecutor) : Prop :=
  ∃ evs, s'.queue = s.queue ++ evs ∧ s'.balance = s.balance -
    ((evs.filterMap Event.fill?).map FillUpdate.outlay).sum

theorem Queued.of_eq {s s' : SimExecutor} (hq : s'.queue = s.queue)
    (hb : s'.balance = s.balance) : Queued s s' :=
  ⟨[], by simpa using hq, by simpa using hb⟩

theorem ensurePos_balance (iid : InstrumentId) (s : SimExecutor) :
    (ensurePos iid s).2.balance = s.balance := by
  have h := cost_assign s iid (s.posOf iid)
  simp only [size, sub_add_cancel] at h
  exact congrArg (s.cash - ·) h

theorem execute_queued (lost : Bool) (order : OrderRequest) (ts : DateTime)
    (fillQty : Decimal) (s : SimExecutor) :
    Queued s (execute id lost order ts fillQty s).2 := by
  refine (Prog.wp_state (P := Queued s)).mp ?_
  unfold execute
  rw [Prog.wp_bind, Prog.wp_modify, Prog.wp_bind]
  refine Prog.wp_mono (fill_spec order ts fillQty none _) (fun ev s₁ h => ?_)
    (fun _ s₁ h => ?_)
  · obtain ⟨hb, -, -, hq, -, -⟩ := h
    -- the events are queued, and saving and answering move nothing
    have hdone : ∀ s₂ : SimExecutor, Untraded s₁ s₂ →
        s₂.queue = s₁.queue ++ [.order
          { clientOrderId := order.clientOrderId, status := .filled
            filledQuantity := fillQty, ts }, .fill ev] → Queued s s₂ := by
      intro s₂ hs hq₂
      refine ⟨_, hq₂.trans (by rw [hq]), ?_⟩
      rw [hs.balance, hb]
      show s.balance - ev.outlay = s.balance - [ev.outlay].sum
      rw [List.sum_singleton]
    rw [Prog.wp_bind, Prog.wp_modify, Prog.wp_bind, wp_save, Prog.wp_bind,
      Prog.wp_get, Prog.wp_ite]
    obtain ⟨hs, hq₂⟩ := save_untraded { s₁ with queue := s₁.queue ++ [.order
      { clientOrderId := order.clientOrderId, status := .filled
        filledQuantity := fillQty, ts }, .fill ev] }
    have h₂ := hdone _ ⟨hs.cash, hs.pos⟩ hq₂
    split
    · exact h₂
    · exact h₂
  · subst h
    exact .of_eq rfl rfl

/-- A submit queues the fills it executes, and takes their outlay. -/
theorem submitMode_queued (mode : Option FailMode) (order : OrderRequest)
    (s : SimExecutor) : Queued s (submitMode id mode order s).2 := by
  refine (Prog.wp_state (P := Queued s)).mp ?_
  have hsame : Queued s s := .of_eq rfl rfl
  have hrest : ∀ lost : Bool, Prog.wp
      (ensurePos order.instrumentId >>= fun _ =>
        if refusesReduce order (s.size order.instrumentId) then
          pure (rejectedAck order
            "reduce_only order would open or increase a position" s.now)
        else execute id lost order s.now
          (fillQuantity id order (s.size order.instrumentId)))
      (fun _ => Queued s) (fun _ => Queued s) s := by
    intro lost
    rw [Prog.wp_bind, ensurePos, Prog.wp_modify, Prog.wp_ite]
    have hb := ensurePos_balance order.instrumentId s
    split
    · exact .of_eq rfl hb
    · refine (Prog.wp_state (P := Queued s)).mpr ?_
      obtain ⟨evs, hq, hbal⟩ := execute_queued lost order s.now
        (fillQuantity id order (s.size order.instrumentId))
        (ensurePos order.instrumentId s).2
      exact ⟨evs, hq, by rw [← hb]; exact hbal⟩
  unfold submitMode
  rw [Prog.wp_bind, Prog.wp_get]
  cases mode with
  | none => exact hrest _
  | some mode =>
      cases mode with
      | timeout => exact hrest _
      | reject => exact hsame
      | drop => exact hsame

theorem nextMode_spec (s : SimExecutor) :
    Prog.wp nextMode (fun _ s' => Untraded s s' ∧ s'.queue = s.queue)
      (fun _ _ => False) s := by
  unfold nextMode
  rw [Prog.wp_bind, Prog.wp_get]
  split <;> exact ⟨⟨rfl, rfl⟩, rfl⟩

theorem submit_queued (order : OrderRequest) (s : SimExecutor) :
    Queued s (submit id order s).2 := by
  refine (Prog.wp_state (P := Queued s)).mp ?_
  unfold submit
  rw [Prog.wp_bind]
  refine Prog.wp_mono (nextMode_spec s) (fun mode s' h => ?_)
    (fun _ _ hf => hf.elim)
  refine (Prog.wp_state (P := Queued s)).mpr ?_
  obtain ⟨evs, hq, hb⟩ := submitMode_queued mode order s'
  exact ⟨evs, by rw [hq, h.2], by rw [hb, h.1.balance]⟩

/-- One stop takes the outlay of the fill it made. -/
theorem checkTrigger_balance (iid : InstrumentId) (trigger : Decimal)
    (s : SimExecutor) :
    Prog.wp (checkTrigger id iid trigger)
      (fun fired s' => s'.balance =
        s.balance - (fired.toList.map FillUpdate.outlay).sum)
      (fun _ s' => s'.balance = s.balance) s := by
  unfold checkTrigger
  rw [Prog.wp_bind, Prog.wp_get]
  have hnone : s.balance = s.balance -
      ((none : Option FillUpdate).toList.map FillUpdate.outlay).sum := by simp
  split
  · exact hnone
  dsimp only
  rw [Prog.wp_ite]
  split
  · rw [Prog.wp_bind, Prog.wp_modify, Prog.wp_bind]
    refine Prog.wp_mono (fill_spec _ s.now _ _ _) (fun ev s₁ h => ?_)
      (fun _ s₁ h => by rw [h]; rfl)
    rw [Prog.wp_bind, Prog.wp_modify]
    have hu : Untraded s₁ { s₁ with stops := remove iid s₁.stops } := ⟨rfl, rfl⟩
    refine hu.balance.trans (h.1.trans ?_)
    show s.balance - ev.outlay = s.balance - [ev.outlay].sum
    rw [List.sum_singleton]
  · exact hnone

/-- The stops of a list: what fired was executed, also when a later one
raises, and when none raises it is what is returned. -/
theorem fireStops_spec (stops : List (InstrumentId × Decimal))
    (s : SimExecutor) :
    (fireStops id stops s).2.balance =
        s.balance - ((firedFills stops s).map FillUpdate.outlay).sum ∧
      ∀ fired, (fireStops id stops s).1 = .ok fired →
        fired = firedFills stops s := by
  induction stops generalizing s with
  | nil =>
      refine ⟨by simp [fireStops, firedFills, pure], fun fired h => ?_⟩
      exact (Except.ok.inj h).symm
  | cons it rest ih =>
      obtain ⟨iid, trigger⟩ := it
      have hone := checkTrigger_balance iid trigger s
      rw [firedFills]
      simp only [fireStops, bind]
      unfold Prog.wp at hone
      cases h : checkTrigger id iid trigger s with
      | mk r s₁ =>
          rw [h] at hone
          cases r with
          | error e =>
              exact ⟨by simpa using hone, nofun⟩
          | ok fired =>
              obtain ⟨hb, hret⟩ := ih s₁
              dsimp only at hone ⊢
              rw [List.map_append, List.sum_append]
              cases hlater : fireStops id rest s₁ with
              | mk r s₂ =>
                  rw [hlater] at hb hret
                  dsimp only at hb
                  cases r with
                  | error e => exact ⟨by simp only; rw [hb, hone]; ring, nofun⟩
                  | ok later =>
                      refine ⟨by show s₂.balance = _; rw [hb, hone]; ring,
                        fun all hall => ?_⟩
                      rw [← Except.ok.inj hall, hret later rfl]

theorem checkTriggers_balance (s : SimExecutor) :
    (checkTriggers id s).2.balance =
      s.balance - ((firedFills s.stops s).map FillUpdate.outlay).sum := by
  have hb := (fireStops_spec s.stops s).1
  let P := fun s' : SimExecutor => s'.balance =
    s.balance - ((firedFills s.stops s).map FillUpdate.outlay).sum
  refine (Prog.wp_state (P := P)).mp ?_
  unfold checkTriggers
  rw [Prog.wp_bind, Prog.wp_get, Prog.wp_bind]
  refine Prog.wp_mono (Prog.wp_state (P := P).mpr hb) (fun fired s₁ h => ?_)
    (fun _ _ h => h)
  dsimp only
  split
  · exact h
  · exact (save_untraded s₁).1.balance.trans h

theorem applyFunding_balance (iid : InstrumentId) (rate : Decimal)
    (s : SimExecutor) :
    (applyFunding id iid rate s).2.balance =
      s.balance + paid s (.applyFunding iid rate) := by
  let P := fun s' : SimExecutor => s'.balance =
    s.balance + paid s (.applyFunding iid rate)
  refine (Prog.wp_state (P := P)).mp ?_
  unfold applyFunding
  rw [Prog.wp_bind, Prog.wp_get]
  cases hpos : (s.pos.lookup iid).filter (·.size ≠ 0) with
  | none =>
      have hz : s.size iid = 0 := by
        unfold size posOf
        cases hl : s.pos.lookup iid with
        | none => rfl
        | some p =>
            rw [hl] at hpos
            by_contra hne
            simp_all [Option.filter]
      show s.balance = s.balance + -s.size iid * _ * rate
      rw [hz]
      ring
  | some p =>
      rw [Option.filter_eq_some_iff] at hpos
      have hp : s.posOf iid = p := by rw [posOf, hpos.1, Option.getD_some]
      dsimp only
      rw [Prog.wp_bind, markOf, Prog.wp_bind, Prog.wp_get]
      cases hm : s.marks.lookup iid with
      | none =>
          show s.balance = s.balance + -s.size iid * _ * rate
          rw [hm]
          simp
      | some mark =>
          dsimp only
          rw [Prog.wp_pure, Prog.wp_bind, Prog.wp_modify, wp_save]
          refine (save_untraded _).1.balance.trans ?_
          have hc := cost_assign s iid
            { p with funding := p.funding + -p.size * mark * rate }
          rw [size, hp, sub_add_cancel] at hc
          show s.cash + -p.size * mark * rate - cost _ =
            s.cash - s.cost + -s.size iid * (s.marks.lookup iid).getD 0 * rate
          rw [hm, size, hp]
          simp only [cost, id_eq] at hc ⊢
          rw [hc, Option.getD_some]
          ring

/-- The views add up to the positions at their marks, less their cost. -/
theorem views_spec (t : List (InstrumentId × SimPos)) (s : SimExecutor) :
    Prog.wp (views id t)
      (fun ps s' => s' = s ∧ (ps.map PositionView.unrealisedPnl).sum =
        (t.map fun ip => ip.2.size * (s.marks.lookup ip.1).getD 0).sum -
          (t.map fun ip => ip.2.size * ip.2.entry).sum)
      (fun _ s' => s' = s) s := by
  induction t with
  | nil => exact ⟨rfl, by simp⟩
  | cons ip rest ih =>
      obtain ⟨iid, p⟩ := ip
      rw [views, Prog.wp_ite]
      split
      · next hz =>
        refine Prog.wp_mono ih (fun ps s' h => ?_) (fun _ _ h => h)
        refine ⟨h.1, ?_⟩
        rw [h.2]
        simp [hz]
      · rw [Prog.wp_bind, markOf, Prog.wp_bind, Prog.wp_get]
        cases hm : s.marks.lookup iid with
        | none => rfl
        | some mark =>
            dsimp only
            rw [Prog.wp_pure, Prog.wp_bind]
            refine Prog.wp_mono ih (fun ps s' h => ?_) (fun _ _ h => h)
            refine ⟨h.1, ?_⟩
            simp only [List.map_cons, List.sum_cons, h.2, hm, view,
              Option.getD_some, id_eq]
            ring

theorem unrealised_exact (ps : List PositionView) :
    unrealised id ps = (ps.map PositionView.unrealisedPnl).sum := by
  rw [unrealised, List.sum_eq_foldl, List.foldl_map]
  rfl

theorem snapshot_spec (s : SimExecutor) :
    Prog.wp (snapshot id)
      (fun snap s' => s' = s ∧ snap.equity = s.balance + s.worth)
      (fun _ s' => s' = s) s := by
  unfold snapshot
  rw [Prog.wp_bind, Prog.wp_get, Prog.wp_bind]
  refine Prog.wp_mono (views_spec s.pos s) (fun ps s' h => ?_) (fun _ _ h => h)
  refine ⟨h.1, ?_⟩
  show s.cash + unrealised id ps = s.cash - s.cost + s.worth
  rw [unrealised_exact, h.2, worth, cost]
  ring

theorem snapshot_state (s : SimExecutor) : (snapshot id s).2 = s :=
  (Prog.wp_state (P := fun s' => s' = s)).mp
    (Prog.wp_mono (snapshot_spec s) (fun _ _ h => h.1) (fun _ _ h => h))

/-- What one call takes from the balance, and what it adds. -/
theorem perform_balance (op : Op) (s : SimExecutor) :
    (perform id op s).2.balance = s.balance -
      ((executed s op).map FillUpdate.outlay).sum + paid s op := by
  have hsame : ∀ s' : SimExecutor, Untraded s s' → s'.balance =
      s.balance - (([] : List FillUpdate).map FillUpdate.outlay).sum + 0 :=
    fun s' h => by rw [h.balance]; simp
  cases op with
  | updateMark iid mark => exact hsame _ ⟨rfl, rfl⟩
  | applyFunding iid rate =>
      rw [perform, Prog.bind_pure_snd, applyFunding_balance]
      simp [executed]
  | submit order =>
      rw [perform, Prog.bind_pure_snd]
      obtain ⟨evs, hq, hb⟩ := submit_queued order s
      rw [hb, executed, hq, List.drop_left]
      exact (add_zero _).symm
  | placeStop iid trigger =>
      refine hsame _ ?_
      obtain ⟨h, -⟩ := save_untraded { s with stops := assign iid trigger s.stops }
      exact ⟨h.cash, h.pos⟩
  | cancelStop iid =>
      refine hsame _ ?_
      obtain ⟨h, -⟩ := save_untraded { s with stops := remove iid s.stops }
      exact ⟨h.cash, h.pos⟩
  | checkTriggers =>
      rw [perform, Prog.bind_pure_snd, checkTriggers_balance]
      simp [executed, paid]
  | drainEvents => exact hsame _ ⟨rfl, rfl⟩
  | snapshot =>
      refine hsame _ ?_
      rw [perform, Prog.bind_pure_snd, snapshot_state]
      exact ⟨rfl, rfl⟩
  | inject failNext failQueue => exact hsame _ ⟨rfl, rfl⟩
  | clock now => exact hsame _ ⟨rfl, rfl⟩

/-- A run moves the balance by its fills and its funding. -/
theorem run_balance (ops : List Op) (s : SimExecutor) :
    (run id ops s).balance = s.balance -
      ((runFills ops s).map FillUpdate.outlay).sum + runPaid ops s := by
  induction ops generalizing s with
  | nil => simp [run, runFills, runPaid]
  | cons op rest ih =>
      have h := ih (perform id op s).2
      rw [perform_balance] at h
      rw [runFills, runPaid, List.map_append, List.sum_append]
      refine h.trans ?_
      ring

/-! ## Reduce-only -/

/-- A reduce-only trade ends between the old size and zero. -/
def Reduces (size size' : Decimal) : Prop :=
  |size'| ≤ |size| ∧ (size' = 0 ∨ (0 < size' ↔ 0 < size))

theorem reduces_refl (size : Decimal) : Reduces size size :=
  ⟨le_refl _, Or.inr Iff.rfl⟩

/-- The quantity of a reduce-only order that is not refused reduces. -/
theorem fillQuantity_reduces {order : OrderRequest} {size : Decimal}
    (hred : order.reduceOnly = true) (hq : 0 ≤ order.quantity)
    (hok : refusesReduce order size = false) :
    Reduces size (size + order.side.sign * fillQuantity id order size) := by
  simp only [refusesReduce, hred, Bool.true_and, decide_eq_false_iff_not,
    not_or] at hok
  obtain ⟨h0, hside⟩ := hok
  rw [fillQuantity, if_pos hred, id_eq]
  have hle : min order.quantity |size| ≤ |size| := min_le_right _ _
  have hnn : 0 ≤ min order.quantity |size| := le_min hq (abs_nonneg _)
  generalize min order.quantity |size| = q at hle hnn
  rcases lt_or_gt_of_ne h0 with hneg | hpos
  · have hbuy : order.side = .buy := by
      by_contra hne
      exact hside ⟨fun h => absurd h (not_lt.mpr hneg.le), fun h => absurd h hne⟩
    rw [abs_of_neg hneg] at hle
    rw [hbuy, Side.sign, one_mul]
    have hnp : size + q ≤ 0 := by linarith
    refine ⟨?_, Or.inr ⟨fun h => absurd h (not_lt.mpr hnp),
      fun h => absurd h (not_lt.mpr hneg.le)⟩⟩
    rw [abs_of_nonpos hnp, abs_of_neg hneg]
    linarith
  · have hsell : order.side = .sell := by
      cases hs : order.side with
      | buy => exact absurd ⟨fun _ => hs, fun _ => hpos⟩ hside
      | sell => rfl
    rw [abs_of_pos hpos] at hle
    rw [hsell, Side.sign]
    have hnn' : 0 ≤ size + -1 * q := by linarith
    refine ⟨?_, ?_⟩
    · rw [abs_of_nonneg hnn', abs_of_pos hpos]
      linarith
    · rcases eq_or_lt_of_le hnn' with h | h
      · exact Or.inl h.symm
      · exact Or.inr ⟨fun _ => hpos, fun _ => h⟩

theorem Untraded.size {s s' : SimExecutor} (h : Untraded s s')
    (iid : InstrumentId) : s'.size iid = s.size iid := by
  rw [SimExecutor.size, SimExecutor.size, posOf, posOf, h.pos]

theorem execute_size (lost : Bool) (order : OrderRequest) (ts : DateTime)
    (fillQty : Decimal) (s : SimExecutor) :
    (execute id lost order ts fillQty s).2.size order.instrumentId =
        s.size order.instrumentId ∨
      (execute id lost order ts fillQty s).2.size order.instrumentId =
        s.size order.instrumentId + order.side.sign * fillQty := by
  let P := fun s' : SimExecutor =>
    s'.size order.instrumentId = s.size order.instrumentId ∨
      s'.size order.instrumentId =
        s.size order.instrumentId + order.side.sign * fillQty
  refine (Prog.wp_state (P := P)).mp ?_
  unfold execute
  rw [Prog.wp_bind, Prog.wp_modify, Prog.wp_bind]
  refine Prog.wp_mono (fill_spec order ts fillQty none _) (fun ev s₁ h => ?_)
    (fun _ s₁ h => by rw [h]; exact Or.inl rfl)
  obtain ⟨-, hdelta, hpos, -, -, -⟩ := h
  have hsize : s₁.size order.instrumentId =
      s.size order.instrumentId + order.side.sign * fillQty := by
    rw [size, hpos, ← hdelta]
    exact (tradePosition_conserves _ _ _).1
  have hdone : ∀ s₂ : SimExecutor, Untraded s₁ s₂ → P s₂ :=
    fun s₂ h₂ => Or.inr ((h₂.size _).trans hsize)
  rw [Prog.wp_bind, Prog.wp_modify, Prog.wp_bind, wp_save, Prog.wp_bind,
    Prog.wp_get, Prog.wp_ite]
  obtain ⟨hs, -⟩ := save_untraded { s₁ with queue := s₁.queue ++ [.order
    { clientOrderId := order.clientOrderId, status := .filled
      filledQuantity := fillQty, ts }, .fill ev] }
  have h₂ := hdone _ ⟨hs.cash, hs.pos⟩
  split
  · exact h₂
  · exact h₂

/-- What a submit does to the size it trades: nothing, or the fill of an order
that is not refused. -/
theorem submit_size (order : OrderRequest) (s : SimExecutor) :
    let size := s.size order.instrumentId
    (submit id order s).2.size order.instrumentId = size ∨
      (refusesReduce order size = false ∧
        (submit id order s).2.size order.instrumentId =
          size + order.side.sign * fillQuantity id order size) := by
  intro size
  let P := fun s' : SimExecutor => s'.size order.instrumentId = size ∨
    (refusesReduce order size = false ∧ s'.size order.instrumentId =
      size + order.side.sign * fillQuantity id order size)
  refine (Prog.wp_state (P := P)).mp ?_
  unfold submit
  rw [Prog.wp_bind]
  refine Prog.wp_mono (nextMode_spec s) (fun mode s₁ h => ?_)
    (fun _ _ hf => hf.elim)
  have hs₁ : s₁.size order.instrumentId = size := h.1.size _
  have hrest : ∀ lost : Bool, Prog.wp
      (ensurePos order.instrumentId >>= fun _ =>
        if refusesReduce order (s₁.size order.instrumentId) then
          pure (rejectedAck order
            "reduce_only order would open or increase a position" s₁.now)
        else execute id lost order s₁.now
          (fillQuantity id order (s₁.size order.instrumentId)))
      (fun _ => P) (fun _ => P) s₁ := by
    intro lost
    rw [Prog.wp_bind, ensurePos, Prog.wp_modify, Prog.wp_ite, hs₁]
    have hsame : (ensurePos order.instrumentId s₁).2.size order.instrumentId =
        size := by
      rw [← hs₁]
      exact congrArg SimPos.size posOf_assign_self
    split
    · exact Or.inl hsame
    · next hok =>
      refine (Prog.wp_state (P := P)).mpr ?_
      rcases execute_size lost order s₁.now (fillQuantity id order size)
        (ensurePos order.instrumentId s₁).2 with hx | hx
      · exact Or.inl (hx.trans hsame)
      · exact Or.inr ⟨eq_false_of_ne_true hok, hx.trans (by rw [hsame])⟩
  unfold submitMode
  rw [Prog.wp_bind, Prog.wp_get]
  cases mode with
  | none => exact hrest _
  | some mode =>
      cases mode with
      | timeout => exact hrest _
      | reject => exact Or.inl hs₁
      | drop => exact Or.inl hs₁

/-- A reduce-only submit of a quantity that is not negative reduces. -/
theorem submit_reduces {order : OrderRequest} (hred : order.reduceOnly = true)
    (hq : 0 ≤ order.quantity) (s : SimExecutor) :
    Reduces (s.size order.instrumentId)
      ((submit id order s).2.size order.instrumentId) := by
  rcases submit_size order s with h | ⟨hok, h⟩
  · rw [h]
    exact reduces_refl _
  · rw [h]
    exact fillQuantity_reduces hred hq hok

/-! ## The account over a run -/

/-- **The paper account conserves value.** After any calls in any order, with
any failures injected, the cash less the cost of the positions is the starting
cash less every executed fill and its fee, plus the funding; so the equity a
snapshot shows differs from the starting cash by the positions at their marks.
And a reduce-only submit of a quantity that is not negative only reduces. -/
theorem account_conserves (equity takerFeeRate spread impact notional : Decimal)
    (now : DateTime) (persists : Bool) (ops : List Op) :
    let s₀ := new equity takerFeeRate spread impact notional now persists
    let s := run id ops s₀
    let fills := runFills ops s₀
    let traded := (fills.map fun ev => ev.delta * ev.price).sum
    let fees := (fills.map FillUpdate.fee).sum
    s.cash - (s.pos.map fun ip => ip.2.size * ip.2.entry).sum =
        equity - traded - fees + runPaid ops s₀ ∧
      (∀ snap, (snapshot id s).1 = .ok snap →
        snap.equity = equity + s.worth - traded - fees + runPaid ops s₀) ∧
      ∀ order : OrderRequest, order.reduceOnly = true → 0 ≤ order.quantity →
        Reduces (s.size order.instrumentId)
          ((submit id order s).2.size order.instrumentId) := by
  intro s₀ s fills traded fees
  have hstart : s₀.balance = equity := by
    show equity - ([] : List Decimal).sum = equity
    rw [List.sum_nil, sub_zero]
  have hsplit : (fills.map FillUpdate.outlay).sum = traded + fees :=
    List.sum_map_add
  have hbal : s.balance = equity - traded - fees + runPaid ops s₀ := by
    have h := run_balance ops s₀
    rw [hstart] at h
    refine h.trans ?_
    rw [show ((runFills ops s₀).map FillUpdate.outlay).sum = traded + fees from
      hsplit]
    ring
  refine ⟨hbal, fun snap hok => ?_, fun order hred hq =>
    submit_reduces hred hq s⟩
  have hsnap := (Prog.wp_returned (snapshot_spec s) hok).2
  rw [hsnap, hbal]
  ring

/-- Buy one contract at 100, then sell `quantity` of it to reduce. -/
def buyOne : List Op :=
  [.updateMark 1 100, .submit ⟨"a", 1, .buy, 1, false, 0⟩]

def sellToReduce (quantity : Decimal) : OrderRequest :=
  ⟨"b", 1, .sell, quantity, true, 0⟩

theorem account_conserves_buyOne :
    Reduces ((run id buyOne (new 1000 0 0 0 100 0 false)).size 1)
      ((submit id (sellToReduce 2)
        (run id buyOne (new 1000 0 0 0 100 0 false))).2.size 1) :=
  (account_conserves 1000 0 0 0 100 0 false buyOne).2.2 (sellToReduce 2) rfl
    (by decide +kernel)

/-- A negative quantity passes the reduce-only rule and buys. -/
theorem negative_reduce_increases : ¬ ∀ (equity takerFeeRate spread impact
    notional : Decimal) (now : DateTime) (persists : Bool) (ops : List Op)
    (order : OrderRequest), order.reduceOnly = true →
    Reduces ((run id ops (new equity takerFeeRate spread impact notional now
        persists)).size order.instrumentId)
      ((submit id order (run id ops (new equity takerFeeRate spread impact notional
        now persists))).2.size order.instrumentId) := by
  intro h
  have hred := (h 1000 0 0 0 100 0 false buyOne (sellToReduce (-1)) rfl).1
  have hsize : (run id buyOne (new 1000 0 0 0 100 0 false)).size 1 = 1 := by
    decide +kernel
  have hafter : (submit id (sellToReduce (-1))
      (run id buyOne (new 1000 0 0 0 100 0 false))).2.size 1 = 2 := by
    decide +kernel
  rw [show (sellToReduce (-1)).instrumentId = 1 from rfl, hsize, hafter] at hred
  norm_num at hred

end SimExecutor

end Polyperps
