import Polyperps.Backtest.Harness
import Polyperps.Strategies.Hypotheses

/-!
# Strategies that hold a fixed number of bars

Three of the hypotheses take a side on a signal and keep it for `hold_bars`
calls. The count is reset where the side is taken, where the block ends and
where the engine says it is flat, so a block's length does not depend on what
went before it. Index-lag has one more way out: a bar it cannot read ends the
block at once.

What the three share is `Holds`; the block's law is proved from that.
-/

namespace Polyperps

namespace Strategy

variable {S : Type}

/-- What a call of the strategy leaves. -/
def called (strategy : Strategy S) (s : S) : StrategyCall → S
  | .target history => (strategy.target s history).2
  | .onFlatten => strategy.flatten s

/-- The state after some calls. -/
def after (strategy : Strategy S) (s : S) (calls : List StrategyCall) : S :=
  calls.foldl strategy.called s

/-- What it answers to one history after the other. -/
def answers (strategy : Strategy S) : S → List (List Bar) → List Decimal
  | _, [] => []
  | s, history :: rest =>
      (strategy.target s history).1 ::
        strategy.answers (strategy.target s history).2 rest

theorem after_append {strategy : Strategy S} {s : S}
    {calls calls' : List StrategyCall} :
    strategy.after s (calls ++ calls') =
      strategy.after (strategy.after s calls) calls' := List.foldl_append

theorem answers_append {strategy : Strategy S} {s : S}
    {histories histories' : List (List Bar)} :
    strategy.answers s (histories ++ histories') =
      strategy.answers s histories ++
        strategy.answers (strategy.after s (histories.map .target))
          histories' := by
  induction histories generalizing s with
  | nil => rfl
  | cons history rest ih =>
      rw [List.cons_append, answers, ih]
      rfl

end Strategy

/-! ## The law -/

variable {strategy : Strategy Stance} {holdBars : ℤ} {blind : List Bar → Prop}
  {s : Stance} {history : List Bar} {histories : List (List Bar)}

/-- The side a history makes the strategy take when it is flat, zero without
a signal. -/
def entrySide (strategy : Strategy Stance) (history : List Bar) : Decimal :=
  (strategy.target .start history).1

/-- The histories of a block: the strategy is asked on some bar, and can read
it. -/
def Readable (blind : List Bar → Prop) (history : List Bar) : Prop :=
  history ≠ [] ∧ ¬ blind history

/-- What the counting strategies have in common. -/
structure Holds (strategy : Strategy Stance) (holdBars : ℤ)
    (blind : List Bar → Prop) : Prop where
  answer : ∀ s history, (strategy.target s history).1 =
    (strategy.target s history).2.position
  flatten : ∀ s, strategy.flatten s = .start
  enter : ∀ s history, s.position = 0 → Readable blind history →
    (strategy.target s history).1 = entrySide strategy history ∧
      (entrySide strategy history ≠ 0 →
        (strategy.target s history).2.held = 0)
  hold : ∀ s history, s.position ≠ 0 → Readable blind history →
    (strategy.target s history).2 = s.hold holdBars
  blind : ∀ s history, blind history → (strategy.target s history).2 = .start

/-- Inside the block every call answers the side and counts. -/
theorem Holds.inside (h : Holds strategy holdBars blind)
    (hs : s.position ≠ 0) (hread : ∀ x ∈ histories, Readable blind x)
    (hlen : s.held + histories.length < holdBars) :
    strategy.answers s histories =
        List.replicate histories.length s.position ∧
      strategy.after s (histories.map .target) =
        { s with held := s.held + histories.length } := by
  induction histories generalizing s with
  | nil => simp [Strategy.answers, Strategy.after]
  | cons history rest ih =>
      rw [List.forall_mem_cons] at hread
      rw [List.length_cons] at hlen
      push_cast at hlen
      have hnext : (strategy.target s history).2 =
          { s with held := s.held + 1 } := by
        rw [h.hold s history hs hread.1, Stance.hold, if_neg (by omega)]
      obtain ⟨hanswers, hafter⟩ := ih (s := { s with held := s.held + 1 }) hs
        hread.2 (by show s.held + 1 + (rest.length : ℤ) < _; omega)
      refine ⟨?_, ?_⟩
      · rw [Strategy.answers, h.answer, hnext, hanswers]
        rfl
      · rw [List.map_cons]
        show strategy.after (strategy.target s history).2 _ = _
        rw [hnext, hafter, List.length_cons]
        simp only [Stance.mk.injEq, true_and]
        push_cast
        omega

/-- The call that ends the block. -/
theorem Holds.last (h : Holds strategy holdBars blind) (hs : s.position ≠ 0)
    (hread : Readable blind history) (hheld : holdBars ≤ s.held + 1) :
    (strategy.target s history).2 = .start := by
  rw [h.hold s history hs hread, Stance.hold, if_pos hheld]

/-- A flat strategy stays flat while there is no signal. -/
theorem Holds.waits (h : Holds strategy holdBars blind) (hs : s.position = 0)
    (hnone : ∀ x ∈ histories, x ≠ [] ∧ (blind x ∨ entrySide strategy x = 0)) :
    strategy.answers s histories = List.replicate histories.length 0 ∧
      (strategy.after s (histories.map .target)).position = 0 := by
  induction histories generalizing s with
  | nil => exact ⟨rfl, hs⟩
  | cons history rest ih =>
      rw [List.forall_mem_cons] at hnone
      have hflat : (strategy.target s history).2.position = 0 := by
        by_cases hb : blind history
        · rw [h.blind s history hb]
          rfl
        · obtain ⟨hside, -⟩ := h.enter s history hs ⟨hnone.1.1, hb⟩
          rw [← h.answer, hside]
          exact hnone.1.2.resolve_left hb
      obtain ⟨hanswers, hafter⟩ := ih hflat hnone.2
      refine ⟨?_, hafter⟩
      rw [Strategy.answers, h.answer, hflat, hanswers]
      rfl

/-- What follows an entry: the side for as many calls as the block has left,
then flat; flat at once when the engine says so or the bar cannot be read. -/
structure Block (strategy : Strategy Stance) (holdBars : ℤ)
    (blind : List Bar → Prop) (s : Stance) (side : Decimal) : Prop where
  full : ∀ histories : List (List Bar), (∀ x ∈ histories, Readable blind x) →
    (histories.length : ℤ) = holdBars →
    strategy.answers s histories =
      List.replicate (histories.length - 1) side ++ [0]
  ended : ∀ histories : List (List Bar), (∀ x ∈ histories, Readable blind x) →
    (histories.length : ℤ) = holdBars →
    strategy.after s (histories.map .target) = .start
  cut : ∀ histories : List (List Bar), (∀ x ∈ histories, Readable blind x) →
    (histories.length : ℤ) < holdBars →
    strategy.answers s histories = List.replicate histories.length side ∧
      strategy.after s (histories.map .target ++ [.onFlatten]) = .start ∧
      ∀ x, blind x →
        strategy.answers s (histories ++ [x]) =
            List.replicate histories.length side ++ [0] ∧
          strategy.after s ((histories ++ [x]).map .target) = .start

theorem Holds.block (h : Holds strategy holdBars blind) (hs : s.position ≠ 0)
    (hheld : s.held = 0) (hbars : 1 ≤ holdBars) :
    Block strategy holdBars blind s s.position := by
  have hfull : ∀ histories : List (List Bar),
      (∀ x ∈ histories, Readable blind x) →
      (histories.length : ℤ) = holdBars →
      strategy.answers s histories =
          List.replicate (histories.length - 1) s.position ++ [0] ∧
        strategy.after s (histories.map .target) = .start := by
    intro histories hread hlen
    -- all but the last call are inside the block
    obtain ⟨init, x, rfl⟩ : ∃ init x, histories = init ++ [x] := by
      have hne : histories ≠ [] := by
        rintro rfl
        simp at hlen
        omega
      exact ⟨_, _, (List.dropLast_append_getLast hne).symm⟩
    rw [List.length_append, List.length_singleton] at hlen
    push_cast at hlen
    rw [List.forall_mem_append] at hread
    obtain ⟨hanswers, hafter⟩ := h.inside hs hread.1
      (by rw [hheld]; omega)
    have hlast : (strategy.target { s with held := s.held + init.length }
        x).2 = .start := by
      refine h.last hs (hread.2 x (by simp)) ?_
      show holdBars ≤ s.held + init.length + 1
      omega
    refine ⟨?_, ?_⟩
    · rw [Strategy.answers_append, hanswers, hafter, Strategy.answers,
        h.answer, hlast, List.length_append, List.length_singleton,
        Nat.add_sub_cancel]
      rfl
    · rw [List.map_append, Strategy.after_append, hafter]
      exact hlast
  refine ⟨fun hs' hr hl => (hfull hs' hr hl).1,
    fun hs' hr hl => (hfull hs' hr hl).2, ?_⟩
  intro histories hread hlen
  obtain ⟨hanswers, hafter⟩ := h.inside hs hread (by rw [hheld]; omega)
  refine ⟨hanswers, ?_, fun x hx => ⟨?_, ?_⟩⟩
  · rw [Strategy.after_append]
    exact h.flatten _
  · rw [Strategy.answers_append, hanswers, Strategy.answers, h.answer,
      h.blind _ x hx]
    rfl
  · rw [List.map_append, Strategy.after_append]
    exact h.blind _ x hx

/-! ## The three strategies -/

/-- A bar index-lag cannot read: no close, or no index to divide by. -/
def Unpriced (history : List Bar) : Prop :=
  ∃ last ∈ history.getLast?,
    last.close = none ∨ truthy last.indexClose = none

/-- The strategies that count, each with its `hold_bars` and the histories it
cannot read. -/
inductive FixedHold : Strategy Stance → ℤ → (List Bar → Prop) → Prop
  | indexLag (params : IndexLag) :
      FixedHold (Stance.strategy 1 params.next Stance.reset) params.holdBars
        Unpriced
  | leadLag (proxy : List (DateTime × Decimal)) (params : LeadLag) :
      FixedHold (Stance.strategy 2 (params.next proxy) Stance.reset)
        params.holdBars fun _ => False
  | overshoot (score : List Decimal → Decimal) (params : Overshoot) :
      FixedHold (Stance.strategy (Overshoot.lookback + 1) (params.next score)
        Stance.reset) params.holdBars fun _ => False

/-- A bar it can read has both prices. -/
theorem readable_prices (h : Readable Unpriced history) :
    ∃ last close index, history.getLast? = some last ∧
      last.close = some close ∧ truthy last.indexClose = some index := by
  obtain ⟨hne, hb⟩ := h
  have hlast := List.getLast?_eq_some_getLast hne
  have hpriced : ¬ ((history.getLast hne).close = none ∨
      truthy (history.getLast hne).indexClose = none) :=
    fun h => hb ⟨_, hlast, h⟩
  obtain ⟨close, hclose⟩ := Option.ne_none_iff_exists'.mp
    fun h => hpriced (.inl h)
  obtain ⟨index, hindex⟩ := Option.ne_none_iff_exists'.mp
    fun h => hpriced (.inr h)
  exact ⟨_, close, index, hlast, hclose, hindex⟩

theorem IndexLag.holds (params : IndexLag) :
    Holds (Stance.strategy 1 params.next Stance.reset) params.holdBars
      Unpriced where
  answer _ _ := rfl
  flatten _ := rfl
  enter := by
    intro s history hs hread
    obtain ⟨last, close, index, hlast, hclose, hindex⟩ := readable_prices hread
    simp only [entrySide, Stance.strategy, next, hlast, hclose, hindex,
      Stance.start, hs, ne_eq, not_true_eq_false, if_false]
    split
    · exact ⟨trivial, fun _ => rfl⟩
    split
    · exact ⟨trivial, fun _ => rfl⟩
    · exact ⟨trivial, fun _ => rfl⟩
  hold := by
    intro s history hs hread
    obtain ⟨last, close, index, hlast, hclose, hindex⟩ := readable_prices hread
    simp only [Stance.strategy, next, hlast, hclose, hindex]
    exact if_pos hs
  blind := by
    rintro s history ⟨last, hlast, hb⟩
    rw [Option.mem_def] at hlast
    simp only [Stance.strategy, next, hlast]
    rcases hb with hb | hb
    · rw [hb]
      cases truthy last.indexClose <;> rfl
    · rw [hb]

theorem LeadLag.holds (proxy : List (DateTime × Decimal)) (params : LeadLag) :
    Holds (Stance.strategy 2 (params.next proxy) Stance.reset)
      params.holdBars fun _ => False where
  answer _ _ := rfl
  flatten _ := rfl
  enter := by
    intro s history hs _
    simp only [entrySide, Stance.strategy, next, Stance.start, hs, ne_eq,
      not_true_eq_false, if_false]
    split
    · exact ⟨hs, fun h => absurd rfl h⟩
    split
    · split
      · exact ⟨rfl, fun _ => rfl⟩
      · exact ⟨hs, fun h => absurd rfl h⟩
    · exact ⟨hs, fun h => absurd rfl h⟩
  hold _ _ hs _ := if_pos hs
  blind _ _ h := h.elim

theorem Overshoot.holds (score : List Decimal → Decimal) (params : Overshoot) :
    Holds (Stance.strategy (Overshoot.lookback + 1) (params.next score)
      Stance.reset) params.holdBars fun _ => False where
  answer _ _ := rfl
  flatten _ := rfl
  enter := by
    intro s history hs _
    simp only [entrySide, Stance.strategy, next, Stance.start, hs, ne_eq,
      not_true_eq_false, if_false]
    split
    · exact ⟨hs, fun h => absurd rfl h⟩
    split
    · exact ⟨hs, fun h => absurd rfl h⟩
    split
    · exact ⟨hs, fun h => absurd rfl h⟩
    split
    · exact ⟨rfl, fun _ => rfl⟩
    · exact ⟨hs, fun h => absurd rfl h⟩
  hold _ _ hs _ := if_pos hs
  blind _ _ h := h.elim

theorem FixedHold.holds (h : FixedHold strategy holdBars blind) :
    Holds strategy holdBars blind := by
  cases h with
  | indexLag params => exact params.holds
  | leadLag proxy params => exact params.holds proxy
  | overshoot score params => exact params.holds score

/-- After any calls, a flat strategy stays flat until a history it is asked on
has a signal; the call that takes a side is followed by `hold_bars - 1` calls
that answer the side and one that answers zero, and a call of `on_flatten` or
a bar that cannot be read ends the block in the state a run starts in. -/
theorem FixedHold.holds_block (h : FixedHold strategy holdBars blind)
    (hbars : 1 ≤ holdBars) (calls : List StrategyCall)
    (hflat : (strategy.after .start calls).position = 0) :
    (∀ histories : List (List Bar), (∀ x ∈ histories, x ≠ [] ∧
        (blind x ∨ entrySide strategy x = 0)) →
      strategy.answers (strategy.after .start calls) histories =
        List.replicate histories.length 0) ∧
      ∀ history ≠ [],
        (strategy.target (strategy.after .start calls) history).1 ≠ 0 →
        (strategy.target (strategy.after .start calls) history).1 =
            entrySide strategy history ∧
          Block strategy holdBars blind
            (strategy.target (strategy.after .start calls) history).2
            (strategy.target (strategy.after .start calls) history).1 := by
  have hh := h.holds
  refine ⟨fun histories hnone => (hh.waits hflat hnone).1, ?_⟩
  intro history hne hside
  have hread : Readable blind history := by
    refine ⟨hne, fun hb => hside ?_⟩
    rw [hh.answer, hh.blind _ history hb]
    rfl
  obtain ⟨hanswer, hheld⟩ := hh.enter _ history hflat hread
  refine ⟨hanswer, ?_⟩
  rw [hanswer] at hside
  have hposition : (strategy.target (strategy.after .start calls)
      history).2.position ≠ 0 := by
    rwa [← hh.answer, hanswer]
  rw [hh.answer]
  exact hh.block hposition (hheld hside) hbars

/-! ## A block of two bars -/

/-- Two hours in which the other venue moved by a tenth and this one did not. -/
def ledHistory : List Bar :=
  [⟨6, .polymarketRest, 0, some 100, some 100, some 100, some 100, none, none,
      5, .constant, true⟩,
    ⟨6, .polymarketRest, hour, some 100, some 100, some 100, some 100, none,
      none, 5, .constant, true⟩]

def ledParams : LeadLag := ⟨30, 2⟩

/-- The side is taken, held for one more call and given up. -/
theorem holds_block_led :
    (Stance.strategy 2 (ledParams.next [(0, 100), (hour, 110)])
        Stance.reset).answers .start [ledHistory, ledHistory, ledHistory] =
      [1, 1, 0] := by
  have hentry : ((Stance.strategy 2 (ledParams.next [(0, 100), (hour, 110)])
    Stance.reset).target .start ledHistory).1 = 1 := by decide +kernel
  obtain ⟨-, hblock⟩ := (FixedHold.holds_block
    (.leadLag [(0, 100), (hour, 110)] ledParams) (by decide) [] rfl).2
    ledHistory nofun (by
      rw [show Strategy.after _ Stance.start [] = Stance.start from rfl, hentry]
      decide)
  have hfull := hblock.full [ledHistory, ledHistory]
    (fun _ hx => ⟨by
      rcases List.mem_cons.mp hx with rfl | hx
      · nofun
      · rw [List.mem_singleton.mp hx]
        nofun, id⟩) rfl
  rw [show Strategy.after _ Stance.start [] = Stance.start from rfl, hentry]
    at hfull
  rw [Strategy.answers, hentry, hfull]
  rfl

end Polyperps
