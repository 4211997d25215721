import Polyperps.Backtest.Harness
import Polyperps.Proofs.Changes

/-!
# The warm-up of the two engines

The backtest starts its loop at bar `warmup` and looks at the bars up to it,
so the first history it asks about is one longer than the warm-up. The router
asks as soon as a history has that length. Both record what they asked: the
backtest in its calls, the router in the state of a strategy that listens.
-/

namespace Polyperps

open ProgramLogic

/-! ## Which histories -/

/-- The histories of some bars, each with the bars up to it. -/
def historiesOf (bars : List Bar) (ks : List ℕ) : List (List Bar) :=
  ks.map fun k => bars.take (k + 1)

theorem range'_eq_filter (w n : ℕ) :
    List.range' w (n - w) =
      (List.range n).filter fun k => decide (w ≤ k) := by
  induction n with
  | zero => simp
  | succ n ih =>
      rw [List.range_succ, List.filter_append, ← ih]
      by_cases h : w ≤ n
      · rw [show n + 1 - w = n - w + 1 by omega, List.range'_1_concat,
          show w + (n - w) = n by omega]
        simp [h]
      · rw [show n + 1 - w = 0 by omega, show n - w = 0 by omega]
        simp [h]

/-- Two choices of bars give the same histories only if they are the same. -/
theorem historiesOf_eq_iff {bars : List Bar} {n : ℕ} (hn : n ≤ bars.length)
    {p q : ℕ → Bool} :
    historiesOf bars ((List.range n).filter p) =
        historiesOf bars ((List.range n).filter q) ↔
      ∀ k < n, p k = q k := by
  constructor
  · intro h k hk
    have hlen := congrArg (List.map fun l : List Bar => l.length - 1) h
    have hback : ∀ r : ℕ → Bool, (historiesOf bars
        ((List.range n).filter r)).map (fun l => l.length - 1) =
          (List.range n).filter r := by
      intro r
      rw [historiesOf, List.map_map]
      refine (List.map_congr_left fun j hj => ?_).trans (List.map_id _)
      have hjn := List.mem_range.mp (List.mem_filter.mp hj).1
      simp only [Function.comp, List.length_take, id]
      omega
    rw [hback p, hback q] at hlen
    have hmem : k ∈ (List.range n).filter p ↔ k ∈ (List.range n).filter q := by
      rw [hlen]
    simp only [List.mem_filter, List.mem_range, hk, true_and] at hmem
    exact Bool.eq_iff_iff.mpr hmem
  · intro h
    refine congrArg _ (List.filter_congr fun k hk => h k (List.mem_range.mp hk))

/-! ## The backtest -/

/-- The histories among the calls. -/
def askedIn (calls : List StrategyCall) : List (List Bar) :=
  calls.filterMap fun
    | .target history => some history
    | .onFlatten => none

namespace Backtest

variable {S : Type} {p : BacktestParams S}

/-- Nothing is asked between. -/
def Unasked (s s' : BacktestState S) : Prop :=
  askedIn s'.calls = askedIn s.calls

instance : Std.Refl (Unasked (S := S)) := ⟨fun _ => rfl⟩

instance : IsTrans (BacktestState S) Unasked :=
  ⟨fun _ _ _ h h' => Eq.trans h' h⟩

variable {s : BacktestState S}

theorem ite_steps {α : Type} {R : BacktestState S → BacktestState S → Prop}
    {c : Prop} [Decidable c] {m n : M S α} (hm : m.Steps R s)
    (hn : n.Steps R s) : (if c then m else n).Steps R s := by
  split
  · exact hm
  · exact hn

theorem get_bind {α : Type} {R : BacktestState S → BacktestState S → Prop}
    {f : BacktestState S → M S α} (h : (f s).Steps R s) :
    (Prog.get >>= f : M S α).Steps R s := h

theorem onBook_unasked {f : Book → Book} :
    (onBook f : M S Unit).Steps Unasked s := rfl

theorem onResult_unasked {f : BacktestResult → BacktestResult} :
    (onResult f : M S Unit).Steps Unasked s := rfl

theorem logRow_unasked {ts : DateTime} {kind : LedgerKind}
    {price : Option Decimal} {cash : Decimal} {note : String} :
    (logRow p ts kind price cash note).Steps Unasked s := by
  unfold logRow
  refine get_bind (Prog.Steps.bind Prog.Steps.ofExcept fun equity => ?_)
  exact onResult_unasked

/-- Being told it is flat is no question. -/
theorem tellFlat_unasked : (tellFlat p).Steps Unasked s := by
  show askedIn (s.calls ++ [.onFlatten]) = askedIn s.calls
  rw [askedIn, List.filterMap_append]
  exact List.append_nil _

theorem tradeTo_unasked {target : Decimal} {price : Option Decimal}
    {spread : Decimal} {ts : DateTime} {kind : LedgerKind} {note : String} :
    (tradeTo p target price spread ts kind note).Steps Unasked s := by
  unfold tradeTo
  refine get_bind ?_
  dsimp only
  split
  · exact Prog.Steps.pure
  refine Prog.Steps.bind Prog.Steps.ofExcept fun price => ?_
  refine Prog.Steps.bind Prog.Steps.ofExcept fun leg => ?_
  obtain ⟨realised, entry⟩ := leg
  have hrest : ∀ s' : BacktestState S,
      (Prog.ofExcept (legValue p s.book target price) >>= fun value =>
        Prog.ofExcept (fillCost value.1 p.notional spread p.takerFeeRate
          p.impactBps) >>= fun cost =>
        onBook (fun b =>
          { b with cash := b.cash - cost, position := target, entry }) >>=
          fun _ =>
        onResult (fun res =>
          { res with
            fillNotionals := res.fillNotionals ++ [value.1]
            trades := res.trades ++
              [{ ts, side := if 0 < target - s.book.position then .buy
                  else .sell
                 quantity := value.2 }]
            fills := res.fills + 1 }) >>= fun _ =>
        logRow p ts kind (some price) (-cost) note >>= fun _ =>
        if target = 0 then
          onBook (fun b => { b with funding := 0 }) >>= fun _ => tellFlat p
        else pure () : M S Unit).Steps Unasked s' := by
    intro s'
    refine Prog.Steps.bind Prog.Steps.ofExcept fun value => ?_
    refine Prog.Steps.bind Prog.Steps.ofExcept fun cost => ?_
    refine Prog.Steps.bind onBook_unasked fun _ => ?_
    refine Prog.Steps.bind onResult_unasked fun _ => ?_
    refine Prog.Steps.bind logRow_unasked fun _ => ?_
    split
    · exact Prog.Steps.bind onBook_unasked fun _ => tellFlat_unasked
    · exact Prog.Steps.pure
  cases realised with
  | none => exact hrest _
  | some realised =>
      refine Prog.Steps.bind (onBook_unasked (f := fun b =>
        { b with cash := b.cash + realised })) fun _ => ?_
      exact Prog.Steps.bind onResult_unasked fun _ => hrest _

theorem stopPhase_unasked {bar : Bar} :
    (stopPhase p bar).Steps Unasked s := by
  unfold stopPhase
  refine get_bind ?_
  split
  · split
    · exact Prog.Steps.pure
    · exact ite_steps tradeTo_unasked Prog.Steps.pure
  · exact Prog.Steps.pure

theorem fundingPhase_unasked {bar : Bar} :
    (fundingPhase p bar).Steps Unasked s := by
  unfold fundingPhase
  refine get_bind ?_
  split
  · split
    · exact Prog.Steps.pure
    · refine Prog.Steps.bind Prog.Steps.ofExcept fun ratio => ?_
      exact Prog.Steps.bind onBook_unasked fun _ => logRow_unasked
  · exact Prog.Steps.pure

theorem guardPhase_unasked {bar nxt : Bar} :
    (guardPhase p bar nxt).Steps Unasked s := by
  unfold guardPhase
  refine get_bind ?_
  split
  · exact Prog.Steps.pure
  · refine Prog.Steps.bind Prog.Steps.ofExcept fun close => ?_
    refine Prog.Steps.bind Prog.Steps.ofExcept fun v => ?_
    refine Prog.Steps.bind Prog.Steps.ofExcept fun flatten => ?_
    split
    · exact tradeTo_unasked
    · exact Prog.Steps.pure

theorem fillPhase_unasked {bar nxt : Bar} {target : Decimal} :
    (fillPhase p bar nxt target).Steps Unasked s := by
  unfold fillPhase
  dsimp only
  split
  · exact tradeTo_unasked
  · split
    · exact Prog.Steps.bind onResult_unasked fun _ => tradeTo_unasked
    · split
      · exact Prog.Steps.bind onResult_unasked fun _ => tradeTo_unasked
      · exact Prog.Steps.bind onResult_unasked fun _ => logRow_unasked

theorem markEquity_unasked {ts : DateTime} {price : Option Decimal} :
    (markEquity p ts price).Steps Unasked s := by
  unfold markEquity
  refine get_bind (Prog.Steps.bind Prog.Steps.ofExcept fun eq => ?_)
  refine Prog.Steps.bind Prog.Steps.ofExcept fun ret => ?_
  refine Prog.Steps.bind onResult_unasked fun _ => ?_
  refine Prog.Steps.bind ?_ fun _ => logRow_unasked
  exact (rfl : askedIn _ = askedIn _)

/-- An iteration over a complete bar before a priced one asks about its
history, once. -/
theorem iteration_asks {history : List Bar} {bar nxt : Bar}
    (hcomplete : bar.complete = true) (hpriced : nxt.close.isSome = true) :
    Prog.wp (iteration p history bar nxt)
      (fun _ s' => askedIn s'.calls = askedIn s.calls ++ [history])
      (fun _ _ => True) s := by
  have hdecide : ∀ s : BacktestState S,
      Prog.wp (decidePhase p history bar nxt)
        (fun _ s' => askedIn s'.calls = askedIn s.calls ++ [history])
        (fun _ _ => True) s := by
    intro s
    unfold decidePhase
    rw [Prog.wp_bind, Prog.wp_get]
    dsimp only
    rw [Prog.wp_bind, Prog.wp_modify]
    have hasked : askedIn (s.calls ++ [.target history]) =
        askedIn s.calls ++ [history] := by
      rw [askedIn, List.filterMap_append]
      rfl
    generalize clampTarget (p.strategy.target s.strategyState history).1 = x
    generalize (if s.book.position ≠ 0 ∧ x ≠ 0 ∧
      signOf x ≠ signOf s.book.position then (0 : Decimal) else x) = x'
    rw [Prog.wp_ite]
    split
    · exact hasked
    · exact Prog.wp_mono fillPhase_unasked.wp
        (fun _ s' h => Eq.trans h hasked) fun _ _ _ => trivial
  unfold iteration trade
  rw [Prog.wp_bind, Prog.wp_bind]
  refine Prog.wp_mono stopPhase_unasked.wp (fun _ s₁ h₁ => ?_)
    fun _ _ _ => trivial
  rw [Prog.wp_bind]
  refine Prog.wp_mono fundingPhase_unasked.wp (fun _ s₂ h₂ => ?_)
    fun _ _ _ => trivial
  rw [if_neg (by simp [hcomplete, Option.isNone_iff_eq_none,
    Option.isSome_iff_ne_none.mp hpriced]), Prog.wp_bind]
  refine Prog.wp_mono guardPhase_unasked.wp (fun _ s₃ h₃ => ?_)
    fun _ _ _ => trivial
  refine Prog.wp_mono (hdecide s₃) (fun _ s₄ h₄ => ?_) fun _ _ _ => trivial
  refine Prog.wp_mono markEquity_unasked.wp (fun _ s₅ h₅ => ?_)
    fun _ _ _ => trivial
  have h : askedIn s₃.calls = askedIn s.calls := h₃.trans (h₂.trans h₁)
  rw [← h, ← h₄]
  exact h₅

/-- A run over complete, priced bars that returns asked about the bars up to
each one from `warmup` on, but for the last. -/
theorem runBacktest_asks {bars : List Bar} {s₀ : S} {s' : BacktestState S}
    (hbars : ∀ b ∈ bars, b.complete = true ∧ b.close.isSome = true)
    (hret : runBacktest bars p (initial s₀) = (.ok (), s')) :
    askedIn s'.calls = historiesOf bars
      ((List.range (bars.length - 1)).filter fun k =>
        decide (p.warmup ≤ k)) := by
  rw [← range'_eq_filter]
  generalize hks : List.range' p.warmup (bars.length - 1 - p.warmup) = ks
  have hloop : Prog.wp (Prog.forEach ks (iterationAt p bars))
      (fun _ (s : BacktestState S) => ∃ visited, ks = visited ++ [] ∧
        askedIn s.calls = historiesOf bars visited)
      (fun _ _ => True) (initial s₀) := by
    refine Prog.wp_forEach (fun rest (s : BacktestState S) => ∃ visited, ks = visited ++ rest ∧
      askedIn s.calls = historiesOf bars visited) ?_ ⟨[], rfl, rfl⟩
    rintro k rest s ⟨visited, hsplit, hasked⟩
    have hk : k ∈ List.range' p.warmup (bars.length - 1 - p.warmup) := by
      rw [hks, hsplit]
      simp
    rw [List.mem_range'_1] at hk
    have hbar : k < bars.length := by omega
    have hnxt : k + 1 < bars.length := by omega
    unfold iterationAt
    rw [List.getElem?_eq_getElem hbar, List.getElem?_eq_getElem hnxt]
    refine Prog.wp_mono (iteration_asks
      (hbars _ (List.getElem_mem hbar)).1 (hbars _ (List.getElem_mem hnxt)).2)
      (fun _ s' h => ⟨visited ++ [k], by simp [hsplit], ?_⟩)
      fun _ _ _ => trivial
    rw [h, hasked, historiesOf, historiesOf, List.map_append]
    rfl
  have hrun : Prog.forEach ks (iterationAt p bars) (initial s₀) =
      (.ok (), s') := by
    rw [← hks]
    exact hret
  rw [Prog.wp_of_ok hrun] at hloop
  obtain ⟨visited, hall, hasked⟩ := hloop
  rw [hasked, hall, List.append_nil]

end Backtest

/-! ## The router -/

/-- The strategy, noting the histories it is asked about. -/
def listening {S : Type} (strategy : Strategy S) :
    Strategy (S × List (List Bar)) where
  warmup := strategy.warmup
  target s history :=
    ((strategy.target s.1 history).1,
      (strategy.target s.1 history).2, s.2 ++ [history])
  onFlatten := strategy.onFlatten.map fun hook s => (hook s.1, s.2)
  onRecover := strategy.onRecover.map fun hook sign s => (hook sign s.1, s.2)

namespace InstrumentRouter

variable {V S : Type} {ex : Executor V}

/-- The strategy is neither asked nor told anything. -/
structure SameMind (w w' : World (Durable V) (InstrumentRouter S)) : Prop where
  strategy : w'.mem.strategy = w.mem.strategy
  state : w'.mem.strategyState = w.mem.strategyState

instance : Std.Refl (SameMind (V := V) (S := S)) := ⟨fun _ => ⟨rfl, rfl⟩⟩

instance : IsTrans (World (Durable V) (InstrumentRouter S)) SameMind :=
  ⟨fun _ _ _ h h' => ⟨h'.1.trans h.1, h'.2.trans h.2⟩⟩

variable {w : World (Durable V) (InstrumentRouter S)}

theorem memory_mind {f : InstrumentRouter S → InstrumentRouter S}
    (h : ((f w.mem).strategy, (f w.mem).strategyState) =
      (w.mem.strategy, w.mem.strategyState)) :
    (Prog.modifyMem f : Act V _ Unit).Steps SameMind w :=
  ⟨(Prod.mk.inj h).1, (Prod.mk.inj h).2⟩

theorem setState_mind {st : State} : (setState ex st).Steps SameMind w :=
  ⟨rfl, rfl⟩

theorem persist_mind : (persist ex).Steps (SameMind (S := S)) w := ⟨rfl, rfl⟩

theorem alert_mind {level : Level} {kind : String}
    {detail : List (String × String)} :
    (alert ex level kind detail).Steps (SameMind (S := S)) w := ⟨rfl, rfl⟩

theorem call_mind {α : Type} {f : V → Except Exc α × V} :
    (call f : Act V _ α).Steps (SameMind (S := S)) w := ⟨rfl, rfl⟩

theorem record_mind {target : Option Decimal}
    {verdicts : List (String × String)} {intent : Option Intent}
    {cid : Option ClientOrderId} {text : String} :
    (record ex target verdicts intent cid text).Steps
      (SameMind (S := S)) w := by
  constructor
  · rw [state_record]
  · rw [state_record]

theorem updateOrder_mind {cid : ClientOrderId} {skip : Bool}
    {changes : OrderRow → OrderRow} :
    (updateOrder ex cid skip changes).Steps (SameMind (S := S)) w := by
  constructor
  · rw [updateOrder_mem]
  · rw [updateOrder_mem]

theorem adoptStop_mind {snapshot : AccountSnapshot} {pos : PositionView} :
    (adoptStop ex snapshot pos).Steps (SameMind (S := S)) w := by
  unfold adoptStop
  refine Prog.Steps.mem_bind ?_
  split
  · exact memory_mind rfl
  · refine Prog.Steps.catching ?_ fun e => ?_
    · refine Prog.Steps.bind ?_ fun _ => memory_mind rfl
      unfold placeExchangeStop
      split
      · exact Prog.Steps.raise
      · exact Prog.Steps.bind call_mind fun _ => Prog.Steps.pure
    · split
      · exact Prog.Steps.bind (memory_mind rfl) fun _ => alert_mind
      · exact Prog.Steps.raise

theorem adopt_mind {snapshot : AccountSnapshot} :
    (adopt ex snapshot).Steps (SameMind (S := S)) w := by
  unfold adopt
  refine Prog.Steps.bind (memory_mind rfl) fun _ => ?_
  refine Prog.Steps.mem_bind ?_
  dsimp only
  split
  · exact Prog.Steps.bind (memory_mind rfl) fun _ => persist_mind
  · refine Prog.Steps.bind (memory_mind rfl) fun _ => ?_
    exact Prog.Steps.bind adoptStop_mind fun _ => persist_mind

theorem halt_mind {reason : String} :
    (halt ex reason).Steps (SameMind (S := S)) w := by
  unfold halt
  refine Prog.Steps.mem_bind ?_
  split
  · exact Prog.Steps.pure
  · refine Prog.Steps.bind alert_mind fun _ => ?_
    exact Prog.Steps.bind (memory_mind rfl) fun _ => setState_mind

theorem submitAttempt_mind {attempt : ℕ} {req : OrderRequest}
    {sizeBefore : Decimal}
    {otherwise : Act V (InstrumentRouter S) (Option OrderAck)}
    (ho : ∀ w', otherwise.Steps SameMind w') :
    (submitAttempt ex attempt req sizeBefore otherwise).Steps
      (SameMind (S := S)) w := by
  unfold submitAttempt
  refine Prog.Steps.catching ?_ fun e => ?_
  · refine Prog.Steps.mem_bind (Prog.Steps.bind ?_ fun _ => Prog.Steps.pure)
    exact ⟨rfl, rfl⟩
  · split
    · refine Prog.Steps.bind call_mind fun snap => ?_
      split
      · exact Prog.Steps.bind alert_mind fun _ => clock_bind Prog.Steps.pure
      · exact ho _
    · exact Prog.Steps.raise

theorem send_mind {intent : Intent} {target : Option Decimal}
    {verdicts : List (String × String)} :
    (send ex intent target verdicts).Steps (SameMind (S := S)) w := by
  unfold send
  refine Prog.Steps.mem_bind (Prog.Steps.bind ?_ fun req => ?_)
  · unfold announce
    refine Prog.Steps.bind (memory_mind rfl) fun _ => ?_
    refine Prog.Steps.mem_bind (Prog.Steps.bind record_mind fun _ => ?_)
    refine clock_bind (Prog.Steps.bind ⟨rfl, rfl⟩ fun _ => ?_)
    refine Prog.Steps.bind (memory_mind rfl) fun _ => ?_
    exact Prog.Steps.bind setState_mind fun _ => Prog.Steps.pure
  refine Prog.Steps.bind (Prog.Steps.attempt (submitAttempt_mind fun _ =>
    Prog.Steps.bind alert_mind fun _ => submitAttempt_mind fun _ =>
      Prog.Steps.pure)) fun result => ?_
  cases result with
  | error e =>
      refine Prog.Steps.bind updateOrder_mind fun _ => ?_
      refine Prog.Steps.bind alert_mind fun _ => ?_
      refine Prog.Steps.bind halt_mind fun _ => ?_
      exact Prog.Steps.bind call_mind fun snap => adopt_mind
  | ok ack =>
      cases ack with
      | none => exact Prog.Steps.bind updateOrder_mind fun _ => halt_mind
      | some ack =>
          unfold acknowledge
          dsimp only
          split
          · refine Prog.Steps.bind updateOrder_mind fun _ => ?_
            refine Prog.Steps.bind alert_mind fun _ => ?_
            exact Prog.Steps.bind (memory_mind rfl) fun _ => setState_mind
          · exact updateOrder_mind

theorem exit_mind {mark : Decimal} {reason : String} {target : Option Decimal}
    {size : Decimal} :
    (exit ex mark reason target size).Steps (SameMind (S := S)) w := by
  unfold exit
  refine Prog.Steps.mem_bind ?_
  exact send_mind

theorem shutdown_mind {mark : Decimal} {exchangeSize : Option Decimal} :
    (shutdown ex mark exchangeSize).Steps (SameMind (S := S)) w := by
  unfold shutdown
  refine Prog.Steps.mem_bind ?_
  dsimp only
  split
  · exact Prog.Steps.pure
  split
  · refine Prog.Steps.bind exit_mind fun _ => ?_
    split
    · exact setState_mind
    · exact Prog.Steps.bind alert_mind fun _ => setState_mind
  · split
    · exact setState_mind
    · exact Prog.Steps.bind alert_mind fun _ => setState_mind

theorem enter_mind {mark target : Decimal} {snapshot : AccountSnapshot}
    {kill : KillAction} {pending : List Intent} :
    (enter ex mark target snapshot kill pending).Steps
      (SameMind (S := S)) w := by
  unfold enter
  split
  · exact record_mind
  refine Prog.Steps.mem_bind ?_
  refine Prog.Steps.bind Prog.Steps.ofExcept fun perContract => ?_
  refine Prog.Steps.bind Prog.Steps.ofExcept fun entryVerdict => ?_
  refine Prog.Steps.bind Prog.Steps.ofExcept fun exposureVerdict => ?_
  refine Prog.Steps.bind Prog.Steps.ofExcept fun merged => ?_
  split
  split
  · exact record_mind
  · exact send_mind

theorem holdOrExit_mind {mark target : Decimal} :
    (holdOrExit ex mark target).Steps (SameMind (S := S)) w := by
  unfold holdOrExit
  refine Prog.Steps.mem_bind ?_
  dsimp only
  split
  · exact exit_mind
  · exact record_mind

/-- A bar can be decided: the router waits for nothing, stands frozen by
nothing, and is not told to shut down. -/
def decides (r : InstrumentRouter S) (kill : KillAction) : Bool :=
  !r.state.frozen && !r.state.pending && kill ≠ .shutdown

/-- What a complete, priced bar asks the strategy. -/
theorem onBar_asks (ex : Executor V)
    (w : World (Durable V) (InstrumentRouter S)) (snapshot : AccountSnapshot)
    (kill : KillAction) (pending : List Intent) {history : List Bar}
    {last : Bar}
    (hlast : history.getLast? = some last) (hcomplete : last.complete = true)
    (hpriced : last.close.isSome = true) :
    let w' := (onBar ex history snapshot kill pending w).2
    w'.mem.strategy = w.mem.strategy ∧
      w'.mem.strategyState =
        if w.mem.decides kill ∧ w.mem.strategy.warmup ≤ history.length then
          (w.mem.strategy.target w.mem.strategyState history).2
        else w.mem.strategyState := by
  intro w'
  have hskip : ∀ m : Act V (InstrumentRouter S) Unit, m.Steps SameMind w →
      onBar ex history snapshot kill pending w = m w →
      ¬ (w.mem.decides kill = true ∧
        w.mem.strategy.warmup ≤ history.length) →
      w'.mem.strategy = w.mem.strategy ∧ w'.mem.strategyState =
        if w.mem.decides kill ∧ w.mem.strategy.warmup ≤ history.length then
          (w.mem.strategy.target w.mem.strategyState history).2
        else w.mem.strategyState := by
    intro m hm heq hno
    have hmind : SameMind w w' := by
      show SameMind w (onBar ex history snapshot kill pending w).2
      rw [heq]
      exact hm
    rw [if_neg hno]
    exact ⟨hmind.strategy, hmind.state⟩
  obtain ⟨mark, hmark⟩ := Option.isSome_iff_exists.mp hpriced
  by_cases hactive : (w.mem.state.frozen || w.mem.state.pending) = true
  · refine hskip _ record_mind (by
      unfold onBar
      rw [Prog.mem_bind_apply, if_pos hactive]
      rfl) ?_
    rw [decides, ← Bool.not_or, hactive]
    nofun
  by_cases hkill : kill = .shutdown
  · refine hskip _ shutdown_mind (by
      unfold onBar
      rw [Prog.mem_bind_apply, if_neg hactive, hlast]
      dsimp only
      rw [hmark]
      dsimp only
      rw [if_pos hkill]) ?_
    rw [decides, hkill]
    simp
  by_cases hwarm : history.length < w.mem.strategy.warmup
  · refine hskip _ record_mind (by
      unfold onBar
      rw [Prog.mem_bind_apply, if_neg hactive, hlast]
      dsimp only
      rw [hmark]
      dsimp only
      rw [if_neg hkill, hcomplete, if_neg (by decide), if_pos hwarm]
      rfl) ?_
    omega
  -- the bar asks, and what follows leaves the strategy alone
  have hdecides : w.mem.decides kill = true := by
    rw [decides, ← Bool.not_or, eq_false_of_ne_true hactive]
    simp [hkill]
  rw [if_pos ⟨hdecides, not_lt.mp hwarm⟩]
  have hask : askTarget history w =
      (.ok (clampTarget
        (w.mem.strategy.target w.mem.strategyState history).1),
        { w with
          mem := { w.mem with
            strategyState :=
              (w.mem.strategy.target w.mem.strategyState history).2 } }) := rfl
  have hw' : w' = ((if w.mem.state = .flat then
      enter ex mark (clampTarget
        (w.mem.strategy.target w.mem.strategyState history).1) snapshot kill
        pending
    else holdOrExit ex mark (clampTarget
      (w.mem.strategy.target w.mem.strategyState history).1) :
        Act V (InstrumentRouter S) Unit)
      { w with
        mem := { w.mem with
          strategyState :=
            (w.mem.strategy.target w.mem.strategyState history).2 } }).2 := by
    show (onBar ex history snapshot kill pending w).2 = _
    unfold onBar
    rw [Prog.mem_bind_apply, if_neg hactive, hlast]
    dsimp only
    rw [hmark]
    dsimp only
    rw [if_neg hkill, hcomplete, if_neg (by decide), if_neg hwarm,
      Prog.bind_of_ok hask]
  rw [hw']
  split
  · obtain ⟨h₁, h₂⟩ := (enter_mind :
      (enter ex mark _ snapshot kill pending).Steps (SameMind (S := S)) _)
    exact ⟨h₁, h₂⟩
  · obtain ⟨h₁, h₂⟩ := (holdOrExit_mind :
      (holdOrExit ex mark _).Steps (SameMind (S := S)) _)
    exact ⟨h₁, h₂⟩

end InstrumentRouter

/-! ## Both -/

section Both

variable {V S : Type}

/-- A router driven once for each closed bar, with the bars so far; `flags`
says which of them it could decide. Before each anything may have happened to
it that asks its strategy nothing. -/
inductive Driven (ex : Executor V) (strategy : Strategy S) (bars : List Bar) :
    List Bool → World (Durable V) (InstrumentRouter (S × List (List Bar))) →
      Prop
  | start {w} (hstrategy : w.mem.strategy = listening strategy)
      (hlog : w.mem.strategyState.2 = []) : Driven ex strategy bars [] w
  | bar {flags w} (h : Driven ex strategy bars flags w)
      (w₁ : World (Durable V) (InstrumentRouter (S × List (List Bar))))
      (hstrategy : w₁.mem.strategy = w.mem.strategy)
      (hlog : w₁.mem.strategyState.2 = w.mem.strategyState.2)
      (snapshot : AccountSnapshot) (kill : KillAction)
      (pending : List Intent) :
      Driven ex strategy bars (flags ++ [w₁.mem.decides kill])
        (InstrumentRouter.onBar ex (bars.take (flags.length + 1)) snapshot
          kill pending w₁).2

variable {ex : Executor V} {strategy : Strategy S} {bars : List Bar}
  {flags : List Bool}
  {w : World (Durable V) (InstrumentRouter (S × List (List Bar)))}

/-- The bars a router asked about: those it could decide, once the history
was long enough. -/
theorem Driven.asks (h : Driven ex strategy bars flags w)
    (hlen : flags.length ≤ bars.length)
    (hbars : ∀ b ∈ bars, b.complete = true ∧ b.close.isSome = true) :
    w.mem.strategy = listening strategy ∧
      w.mem.strategyState.2 = historiesOf bars
        ((List.range flags.length).filter fun k =>
          flags.getD k false && decide (strategy.warmup ≤ k + 1)) := by
  induction h with
  | start hstrategy hlog => exact ⟨hstrategy, by rw [hlog]; rfl⟩
  | @bar flags w h w₁ hstrategy hlog snapshot kill pending ih =>
      rw [List.length_append, List.length_singleton] at hlen
      obtain ⟨hs, hasked⟩ := ih (by omega)
      rw [← hstrategy] at hs
      rw [← hlog] at hasked
      have hk : flags.length < bars.length := by omega
      have hlast : (bars.take (flags.length + 1)).getLast? =
          some (bars[flags.length]) := by
        rw [List.take_succ_eq_append_getElem hk, List.getLast?_concat]
      have hbar := hbars _ (List.getElem_mem hk)
      obtain ⟨h₁, h₂⟩ := InstrumentRouter.onBar_asks ex w₁ snapshot kill
        pending hlast hbar.1 hbar.2
      refine ⟨h₁.trans hs, ?_⟩
      have hold : ∀ k ∈ List.range flags.length,
          ((flags ++ [w₁.mem.decides kill]).getD k false &&
              decide (strategy.warmup ≤ k + 1)) =
            (flags.getD k false && decide (strategy.warmup ≤ k + 1)) := by
        intro k hk'
        rw [List.getD_append _ _ _ _ (List.mem_range.mp hk')]
      rw [h₂, List.length_append, List.length_singleton, List.range_succ,
        List.filter_append, List.filter_congr hold, historiesOf,
        List.map_append, ← historiesOf, ← hasked, hs]
      have hlength : (bars.take (flags.length + 1)).length =
          flags.length + 1 := by
        rw [List.length_take]
        omega
      have hnew : (flags ++ [w₁.mem.decides kill]).getD flags.length false =
          w₁.mem.decides kill := by
        simp
      rw [List.filter_singleton, hnew, hlength]
      have hwarmup : (listening strategy).warmup = strategy.warmup := rfl
      rw [hwarmup]
      by_cases hc : w₁.mem.decides kill = true ∧
          strategy.warmup ≤ flags.length + 1
      · have hb : (w₁.mem.decides kill &&
            decide (strategy.warmup ≤ flags.length + 1)) = true := by
          simpa using hc
        rw [if_pos hc, hb]
        rfl
      · have hb : (w₁.mem.decides kill &&
            decide (strategy.warmup ≤ flags.length + 1)) = false :=
          eq_false_of_ne_true (by simpa using hc)
        rw [if_neg hc, hb]
        exact (List.append_nil _).symm

/-- **When the two engines ask about the same bars.** Over complete, priced
bars a backtest that returns and a router driven along them ask about the same
histories, the last bar aside, exactly if the router can decide every bar from
number `warmup` on and, where there is one, not the bar before. -/
theorem same_histories_iff {p : BacktestParams S} {s₀ : S}
    {s' : BacktestState S} (hwarmup : p.warmup = p.strategy.warmup)
    (hbars : ∀ b ∈ bars, b.complete = true ∧ b.close.isSome = true)
    (hret : runBacktest bars p (Backtest.initial s₀) = (.ok (), s'))
    (hdriven : Driven ex p.strategy bars flags w)
    (hlen : flags.length = bars.length - 1) :
    askedIn s'.calls = w.mem.strategyState.2 ↔
      ∀ k < bars.length - 1, (p.warmup ≤ k → flags.getD k false = true) ∧
        (p.warmup = k + 1 → flags.getD k false = false) := by
  rw [Backtest.runBacktest_asks hbars hret,
    (hdriven.asks (by omega) hbars).2, hlen,
    historiesOf_eq_iff (by omega), ← hwarmup]
  refine forall₂_congr fun k hk => ?_
  by_cases h1 : p.warmup ≤ k
  · have h2 : p.warmup ≤ k + 1 := by omega
    have h3 : p.warmup ≠ k + 1 := by omega
    simp [h1, h2, h3]
  · by_cases h2 : p.warmup = k + 1
    · simp [h2]
    · have h3 : ¬ p.warmup ≤ k + 1 := by omega
      simp [h1, h2, h3]

end Both

/-! ### A warm-up of one bar -/

section OneBar

def plainBar (openTs : DateTime) : Bar where
  instrumentId := 1
  sourceType := .proxyHyperliquid
  openTs := openTs
  openPrice := some 100
  high := some 100
  low := some 100
  close := some 100
  indexClose := none
  fundingRate := some 0
  spreadBps := 5
  spreadSource := .constant
  complete := true

def twoBars : List Bar := [plainBar 0, plainBar hour]

/-- A backtest of a strategy that needs one bar and stays flat. -/
def oneBarWarmup : BacktestParams Unit where
  strategy :=
    { warmup := 1, target := fun s _ => (0, s), onFlatten := none
      onRecover := none }
  minuteCloses := []
  takerFeeRate := 0
  warmup := 1
  latency := 0
  impactBps := 0
  notional := 100
  fillFallback := .hourlyOpen
  lastTradeMaxAge := 0

/-- A venue without an answer. -/
def silent : Executor Unit where
  name := "live"
  submit _ _ := (.error ⟨.timeoutError, ""⟩, ())
  cancel _ _ := (.ok (), ())
  placeStop _ _ _ := (.ok (), ())
  cancelStop _ _ := (.ok (), ())
  snapshot _ := (.error ⟨.timeoutError, ""⟩, ())
  clock _ := 0

/-- A router that has loaded nothing. -/
def attentive : World (Durable Unit) (InstrumentRouter (Unit × List (List Bar)))
    where
  mem := InstrumentRouter.fresh "run" 1 (listening oneBarWarmup.strategy)
    ((), []) [] limitsDefault exposureDefault
  disk := ⟨Db.empty, (), [], []⟩
  past := []

def attended : World (Durable Unit)
    (InstrumentRouter (Unit × List (List Bar))) :=
  (InstrumentRouter.onBar silent (twoBars.take 1)
    ⟨1000, [], [], [], false, 0⟩ .run [] attentive).2

theorem attended_driven :
    Driven silent oneBarWarmup.strategy twoBars [true] attended := by
  have h : Driven silent oneBarWarmup.strategy twoBars
      ([] ++ [attentive.mem.decides .run]) attended :=
    .bar (.start rfl rfl) attentive rfl rfl _ _ _
  exact h

theorem twoBars_runs : runBacktest twoBars oneBarWarmup (Backtest.initial ()) =
    (.ok (), Backtest.initial ()) := rfl

theorem twoBars_priced :
    ∀ b ∈ twoBars, b.complete = true ∧ b.close.isSome = true := by
  decide +kernel

/-- The router asks about the first of two bars, the backtest about none. -/
theorem router_asks_sooner :
    ¬ ∀ (p : BacktestParams Unit) (bars : List Bar) (flags : List Bool)
      (s' : BacktestState Unit)
      (w : World (Durable Unit) (InstrumentRouter (Unit × List (List Bar)))),
      p.warmup = p.strategy.warmup →
      (∀ b ∈ bars, b.complete = true ∧ b.close.isSome = true) →
      runBacktest bars p (Backtest.initial ()) = (.ok (), s') →
      Driven silent p.strategy bars flags w →
      flags.length = bars.length - 1 → (∀ b ∈ flags, b = true) →
      askedIn s'.calls = w.mem.strategyState.2 := by
  intro hall
  have h := hall oneBarWarmup twoBars [true] (Backtest.initial ()) attended rfl
    twoBars_priced twoBars_runs attended_driven rfl (by simp)
  have hasked : attended.mem.strategyState.2.length = 1 := by
    decide +kernel
  rw [← h] at hasked
  cases hasked

theorem same_histories_twoBars :
    askedIn (Backtest.initial ()).calls = attended.mem.strategyState.2 ↔
      ∀ k < twoBars.length - 1,
        (oneBarWarmup.warmup ≤ k → [true].getD k false = true) ∧
        (oneBarWarmup.warmup = k + 1 → [true].getD k false = false) :=
  same_histories_iff rfl twoBars_priced twoBars_runs attended_driven rfl

end OneBar

end Polyperps
