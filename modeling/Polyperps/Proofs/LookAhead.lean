import Polyperps.Backtest.Harness
import Polyperps.Lib.Dict

/-!
# The backtest does not look ahead

Two runs whose data agree up to a decision make the same program of
everything up to it, so they do the same, raise the same and leave the same
state. Only three things of an iteration come from beyond its own bar: the
time and the open of the next bar, whether that bar has a close, and the
minute closes at or before the fill minute. The last one needs an argument,
because `last_trade` bisects the keys of the whole data set: the key it lands
on is the greatest one at or before the fill minute, and that one is known
from the earlier keys alone.
-/

namespace Polyperps

open ProgramLogic

/-! ## The last trade -/

/-- On a sorted list the key before the insertion point is the greatest of
those at or before `time`. -/
theorem bisectRight_spec {keys : List DateTime}
    (hs : keys.Pairwise (· ≤ ·)) (time k : DateTime) :
    (Backtest.bisectRight keys time ≠ 0 ∧
      keys[Backtest.bisectRight keys time - 1]? = some k) ↔
      k ∈ keys ∧ k ≤ time ∧ ∀ k' ∈ keys, k' ≤ time → k' ≤ k := by
  induction keys with
  | nil => simp [Backtest.bisectRight]
  | cons x rest ih =>
      rw [List.pairwise_cons] at hs
      obtain ⟨hx, hrest⟩ := hs
      rw [Backtest.bisectRight]
      split
      · next hle =>
          simp only [ne_eq, Nat.add_one_ne_zero, not_false_eq_true,
            Nat.add_sub_cancel, true_and]
          by_cases h0 : Backtest.bisectRight rest time = 0
          · -- only the head is at or before `time`
            have hnone : ∀ k' ∈ rest, ¬k' ≤ time := by
              cases rest with
              | nil => simp
              | cons y ys =>
                  rw [Backtest.bisectRight] at h0
                  split at h0
                  · cases h0
                  · next hy =>
                      intro k' hk' hle'
                      rcases List.mem_cons.mp hk' with rfl | hk'
                      · exact hy hle'
                      · rw [List.pairwise_cons] at hrest
                        exact hy ((hrest.1 k' hk').trans hle')
            rw [h0]
            simp only [List.getElem?_cons_zero, Option.some.injEq,
              List.mem_cons]
            constructor
            · rintro rfl
              refine ⟨.inl rfl, hle, ?_⟩
              rintro k' (rfl | hk') hle'
              · exact le_rfl
              · exact absurd hle' (hnone k' hk')
            · rintro ⟨rfl | hk, hkle, -⟩
              · rfl
              · exact absurd hkle (hnone k hk)
          · obtain ⟨i, hi⟩ := Nat.exists_eq_add_one_of_ne_zero h0
            have ih := ih hrest
            rw [hi] at ih ⊢
            simp only [ne_eq, Nat.add_one_ne_zero, not_false_eq_true,
              Nat.add_sub_cancel, true_and] at ih
            rw [List.getElem?_cons_succ, ih]
            simp only [List.mem_cons]
            constructor
            · rintro ⟨hk, hkle, hmax⟩
              refine ⟨.inr hk, hkle, ?_⟩
              rintro k' (rfl | hk') hle'
              · exact hx k hk
              · exact hmax k' hk' hle'
            · rintro ⟨hk, hkle, hmax⟩
              refine ⟨?_, hkle, fun k' hk' => hmax k' (.inr hk')⟩
              rcases hk with rfl | hk
              · -- some later key counts, so it equals the head
                obtain ⟨y, hy⟩ : ∃ y, y ∈ rest ∧ y ≤ time := by
                  cases rest with
                  | nil => simp [Backtest.bisectRight] at hi
                  | cons y ys =>
                      rw [Backtest.bisectRight] at hi
                      split at hi
                      · next hy => exact ⟨y, by simp, hy⟩
                      · cases hi
                have hyk := hmax y (.inr hy.1) hy.2
                rw [le_antisymm (hx y hy.1) hyk]
                exact hy.1
              · exact hk
      · next hgt =>
          simp only [ne_eq, not_true_eq_false, false_and, List.mem_cons,
            false_iff, not_and]
          rintro (rfl | hk) hkle
          · exact absurd hkle hgt
          · exact absurd ((hx k hk).trans hkle) hgt

namespace Backtest

variable {S : Type} {p : BacktestParams S}
  {closes : List (DateTime × Decimal)}
  {target : S → List Bar → Decimal × S} {time : DateTime}

/-- The same run on other minute closes, its strategy asked through another
function. -/
def withData (p : BacktestParams S) (closes : List (DateTime × Decimal))
    (target : S → List Bar → Decimal × S) : BacktestParams S :=
  { p with
    minuteCloses := closes
    strategy := { p.strategy with target } }

/-- Two dictionaries agree on the keys at or before `time`. -/
def AgreeUpTo (time : DateTime) (m m' : List (DateTime × Decimal)) : Prop :=
  ∀ k ≤ time, m.lookup k = m'.lookup k

theorem AgreeUpTo.keys {m m' : List (DateTime × Decimal)}
    (h : AgreeUpTo time m m') {k : DateTime} (hk : k ≤ time) :
    k ∈ m.map Prod.fst ↔ k ∈ m'.map Prod.fst := by
  rw [KeyedTable.mem_keys_iff, KeyedTable.mem_keys_iff, h k hk]

theorem lastTrade_eq_some {k : DateTime} :
    lastTrade p time = some k ↔
      p.fillFallback = .lastTrade ∧ time - k ≤ p.lastTradeMaxAge ∧
        k ∈ p.minuteCloses.map Prod.fst ∧ k ≤ time ∧
        ∀ k' ∈ p.minuteCloses.map Prod.fst, k' ≤ time → k' ≤ k := by
  unfold lastTrade minuteKeys
  cases hmode : p.fillFallback with
  | hourlyOpen => simp [bisectRight]
  | lastTrade =>
      have hspec := bisectRight_spec
        (List.pairwise_insertionSort (· ≤ ·) (p.minuteCloses.map Prod.fst)) time
      simp only [List.mem_insertionSort] at hspec
      simp only [true_and]
      rw [← hspec k]
      split
      · next h0 => simp [h0]
      · next h0 =>
          split
          · next k' hk' =>
              rw [hk', Option.some.injEq]
              split
              · next hage =>
                  rw [Option.some.injEq]
                  exact ⟨fun he => he ▸ ⟨hage, h0, rfl⟩, fun he => he.2.2⟩
              · next hage =>
                  refine ⟨fun he => (nomatch he), fun he => ?_⟩
                  exact absurd (he.2.2 ▸ he.1) hage
          · next hnone => simp [hnone]

/-- The last trade is known from the closes up to the fill minute. -/
theorem lastTrade_agree (h : AgreeUpTo time p.minuteCloses closes) :
    lastTrade (withData p closes target) time = lastTrade p time := by
  ext k
  rw [lastTrade_eq_some, lastTrade_eq_some]
  simp only [withData]
  have hkey : ∀ k', k' ≤ time →
      (k' ∈ closes.map Prod.fst ↔ k' ∈ p.minuteCloses.map Prod.fst) :=
    fun k' hk' => (h.keys hk').symm
  constructor
  · rintro ⟨hmode, hage, hk, hle, hmax⟩
    exact ⟨hmode, hage, (hkey k hle).mp hk, hle,
      fun k' hk' hle' => hmax k' ((hkey k' hle').mpr hk') hle'⟩
  · rintro ⟨hmode, hage, hk, hle, hmax⟩
    exact ⟨hmode, hage, (hkey k hle).mpr hk, hle,
      fun k' hk' hle' => hmax k' ((hkey k' hle').mp hk') hle'⟩

/-! ## One iteration -/

theorem fillPhase_agree {bar nxt nxt' : Bar} {x : Decimal}
    (hts : nxt'.openTs = nxt.openTs) (hopen : nxt'.openPrice = nxt.openPrice)
    (h : AgreeUpTo (floorMinute (nxt.openTs + p.latency)) p.minuteCloses
      closes) :
    fillPhase (withData p closes target) bar nxt' x =
      fillPhase p bar nxt x := by
  have hlast : lastTrade (withData p closes target) _ = _ :=
    lastTrade_agree h
  have hminute := h _ le_rfl
  unfold fillPhase
  rw [hts, hopen]
  have hperiod : (withData p closes target).latency = p.latency := rfl
  have hmap : (withData p closes target).minuteCloses = closes := rfl
  simp only [hperiod, hmap, hlast, ← hminute]
  split
  · rfl
  · split
    · next last hl =>
        obtain ⟨-, -, -, hle, -⟩ := lastTrade_eq_some.mp hl
        rw [← h last hle]
        rfl
    · rfl

/-- What an iteration does before its closing mark is known from the history,
what the strategy says of it, its bar, the next bar's time, open and having a
close, and the minute closes up to the fill minute. -/
theorem trade_agree {history : List Bar} {bar nxt nxt' : Bar}
    (hts : nxt'.openTs = nxt.openTs) (hopen : nxt'.openPrice = nxt.openPrice)
    (hclose : nxt'.close.isNone = nxt.close.isNone)
    (h : AgreeUpTo (floorMinute (nxt.openTs + p.latency)) p.minuteCloses
      closes)
    (htarget : ∀ s, target s history = p.strategy.target s history) :
    trade (withData p closes target) history bar nxt' =
      trade p history bar nxt := by
  have hgap : gapPhase (withData p closes target) bar nxt' =
      gapPhase p bar nxt := by
    unfold gapPhase
    rw [hts]
    rfl
  have hguard : guardPhase (withData p closes target) bar nxt' =
      guardPhase p bar nxt := by
    unfold guardPhase
    rw [hts]
    rfl
  have hdecide : decidePhase (withData p closes target) history
      bar nxt' = decidePhase p history bar nxt := by
    unfold decidePhase
    have hask : ∀ s, (withData p closes target).strategy.target s history =
        p.strategy.target s history := htarget
    simp only [fillPhase_agree hts hopen h, hask]
  unfold trade
  rw [hclose, hgap, hguard, hdecide]
  rfl

/-! ## The run up to a decision -/

/-- Iteration `t` without its closing mark. -/
def tradeAt (p : BacktestParams S) (bars : List Bar) (t : ℕ) : M S Unit :=
  match bars[t]?, bars[t + 1]? with
  | some bar, some nxt => trade p (bars.take (t + 1)) bar nxt
  | _, _ => Prog.raise ⟨.other "IndexError", "list index out of range"⟩

/-- A run through the end of iteration `t`, before its closing mark; before
the warm-up is over there are no iterations. -/
def throughTrade (p : BacktestParams S) (bars : List Bar) (t : ℕ) :
    M S Unit := do
  iterations p bars t
  if p.warmup ≤ t then tradeAt p bars t else pure ()

/-- The run is this beginning of it, the mark of the iteration, and the
iterations that follow. -/
theorem runBacktest_through {bars : List Bar} {t : ℕ} {bar nxt : Bar}
    (hw : p.warmup ≤ t) (hbar : bars[t]? = some bar)
    (hnxt : bars[t + 1]? = some nxt) :
    runBacktest bars p = (do
      throughTrade p bars t
      markEquity p nxt.openTs nxt.close
      Prog.forEach (List.range' (t + 1) (bars.length - 1 - (t + 1)))
        (iterationAt p bars)) := by
  have hlen : t + 1 < bars.length := (List.getElem?_eq_some_iff.mp hnxt).1
  have hrange : List.range' p.warmup (bars.length - 1 - p.warmup) =
      List.range' p.warmup (t - p.warmup) ++
        t :: List.range' (t + 1) (bars.length - 1 - (t + 1)) := by
    rw [← List.range'_succ]
    have happend := @List.range'_append_1 p.warmup (t - p.warmup)
      (bars.length - 1 - (t + 1) + 1)
    rw [Nat.add_sub_cancel' hw] at happend
    rw [happend]
    congr 1
    omega
  unfold runBacktest iterations
  rw [hrange, Prog.forEach_append, Prog.forEach]
  unfold throughTrade iterations
  rw [if_pos hw, Prog.bind_assoc]
  have hat : iterationAt p bars t =
      (do tradeAt p bars t; markEquity p nxt.openTs nxt.close) := by
    unfold iterationAt tradeAt
    rw [hbar, hnxt]
    rfl
  rw [hat, Prog.bind_assoc]

/-- Two inputs of a run that agree on what is known at the decision of
iteration `t`. -/
structure SamePast (t : ℕ) (bars bars' : List Bar) (p p' : BacktestParams S) :
    Prop where
  params : p' = { p with minuteCloses := p'.minuteCloses }
  past : ∀ i ≤ t, bars'[i]? = bars[i]?
  next : ∃ nxt nxt', bars[t + 1]? = some nxt ∧ bars'[t + 1]? = some nxt' ∧
    nxt'.openTs = nxt.openTs ∧ nxt'.openPrice = nxt.openPrice ∧
    nxt'.close.isNone = nxt.close.isNone ∧
    AgreeUpTo (floorMinute (nxt.openTs + p.latency)) p.minuteCloses
      p'.minuteCloses

theorem floorMinute_mono {s t : DateTime} (h : s ≤ t) :
    floorMinute s ≤ floorMinute t := by
  unfold floorMinute minute second
  unfold DateTime at *
  omega

theorem AgreeUpTo.mono {m m' : List (DateTime × Decimal)} {s : DateTime}
    (h : AgreeUpTo time m m') (hs : s ≤ time) : AgreeUpTo s m m' :=
  fun k hk => h k (hk.trans hs)

theorem SamePast.take {t i : ℕ} {bars bars' : List Bar}
    {p' : BacktestParams S} (h : SamePast t bars bars' p p') (hi : i ≤ t) :
    bars'.take (i + 1) = bars.take (i + 1) := by
  apply List.ext_getElem?
  intro j
  rw [List.getElem?_take, List.getElem?_take]
  split
  · exact h.past j (by omega)
  · rfl

/-- The iterations before `t` are the same. -/
theorem iterationAt_agree {t i : ℕ} {bars bars' : List Bar}
    {p' : BacktestParams S} (hbars : bars.Pairwise (·.openTs < ·.openTs))
    (h : SamePast t bars bars' p p') (hi : i < t) :
    iterationAt p' bars' i = iterationAt p bars i := by
  obtain ⟨nxt, nxt', hnxt, -, -, -, -, hcloses⟩ := h.next
  unfold iterationAt
  rw [h.take hi.le, h.past i hi.le, h.past (i + 1) hi]
  split
  · next bar inext hb hin =>
      -- the fill minute of an earlier decision is earlier
      have hts : inext.openTs ≤ nxt.openTs := by
        obtain ⟨hl, rfl⟩ := List.getElem?_eq_some_iff.mp hin
        obtain ⟨hl', rfl⟩ := List.getElem?_eq_some_iff.mp hnxt
        exact (List.pairwise_iff_getElem.mp hbars _ _ hl hl' (by omega)).le
      have hagree := hcloses.mono
        (floorMinute_mono (add_le_add_left hts p.latency))
      have hp : p' = withData p p'.minuteCloses p.strategy.target := h.params
      rw [hp]
      unfold iteration
      rw [trade_agree rfl rfl rfl hagree fun _ => rfl]
      rfl
  · rfl

/-- A backtest never looks ahead: two runs on inputs that agree on what is
known at the decision of iteration `t` return or raise the same and leave the
same book, strategy, trades and calls of the strategy at the end of that
iteration's trading. -/
theorem throughTrade_blind {t : ℕ} {bars bars' : List Bar}
    {p' : BacktestParams S} (hbars : bars.Pairwise (·.openTs < ·.openTs))
    (h : SamePast t bars bars' p p') (s : S) :
    throughTrade p' bars' t (initial s) =
      throughTrade p bars t (initial s) := by
  have hwarmup : p'.warmup = p.warmup := by rw [h.params]
  have hearlier : iterations p' bars' t = iterations p bars t := by
    unfold iterations
    rw [hwarmup]
    apply Prog.forEach_congr
    intro i hi
    have hi := List.mem_range'_1.mp hi
    exact iterationAt_agree hbars h (by omega)
  have hnow : tradeAt p' bars' t = tradeAt p bars t := by
    obtain ⟨nxt, nxt', hnxt, hnxt', hts, hopen, hclose, hcloses⟩ := h.next
    unfold tradeAt
    rw [h.take le_rfl, h.past t le_rfl, hnxt, hnxt']
    cases bars[t]? with
    | none => rfl
    | some bar =>
        have hp : p' = withData p p'.minuteCloses p.strategy.target := h.params
        simp only
        rw [hp]
        exact trade_agree hts hopen hclose hcloses fun _ => rfl
  unfold throughTrade
  rw [hwarmup, hearlier, hnow]

/-- A whole run is known from the minute closes up to the fill minute of its
last bar and from what the strategy says of the bars it is shown. -/
theorem runBacktest_agree {bars : List Bar}
    (hbars : bars.Pairwise (·.openTs < ·.openTs))
    (hcloses : ∀ last ∈ bars.getLast?, AgreeUpTo
      (floorMinute (last.openTs + p.latency)) p.minuteCloses closes)
    (htarget : ∀ s t, target s (bars.take t) =
      p.strategy.target s (bars.take t)) :
    runBacktest bars (withData p closes target) = runBacktest bars p := by
  unfold runBacktest iterations
  apply Prog.forEach_congr
  intro i hi
  unfold iterationAt
  split
  · next bar nxt hbar hnxt =>
      obtain ⟨hl, rfl⟩ := List.getElem?_eq_some_iff.mp hnxt
      have hne : bars ≠ [] := List.ne_nil_of_length_pos (by omega)
      have hlast := hcloses _ (List.getLast?_eq_some_getLast hne)
      have hts : bars[i + 1].openTs ≤ (bars.getLast hne).openTs := by
        rw [List.getLast_eq_getElem]
        rcases Nat.lt_or_ge (i + 1) (bars.length - 1) with hlt | hge
        · exact (List.pairwise_iff_getElem.mp hbars _ _ hl (by omega) hlt).le
        · have hi : i + 1 = bars.length - 1 := by omega
          simp only [hi, le_refl]
      have hagree := hlast.mono
        (floorMinute_mono (add_le_add_left hts p.latency))
      unfold iteration
      rw [trade_agree rfl rfl rfl hagree fun s => htarget s (i + 1)]
      rfl
  · rfl

/-! ## Two inputs with the same past -/

/-- A strategy that is always long. -/
def alwaysLong : Strategy Unit where
  warmup := 0
  target := fun s _ => (1, s)
  onFlatten := none
  onRecover := none

def paramsWith (closes : List (DateTime × Decimal)) : BacktestParams Unit where
  strategy := alwaysLong
  minuteCloses := closes
  takerFeeRate := 1 / 1000
  warmup := 0
  latency := 2 * second
  impactBps := 5
  notional := 100
  fillFallback := .lastTrade
  lastTradeMaxAge := 60 * minute

def hourBar (i : ℤ) (close : Decimal) : Bar :=
  ⟨6, .polymarketRest, i * hour, some 100, some 200, some 100, some close,
    none, none, 5, .constant, true⟩

/-- The close of the second bar and the minute after it differ. -/
theorem throughTrade_blind_secondClose :
    throughTrade (paramsWith [(hour, 101), (hour + minute, 180)])
        [hourBar 0 100, hourBar 1 180] 0 (initial ()) =
      throughTrade (paramsWith [(hour, 101), (hour + minute, 90)])
        [hourBar 0 100, hourBar 1 110] 0 (initial ()) := by
  refine throughTrade_blind (by decide +kernel) ?_ ()
  refine ⟨rfl, fun i hi => ?_, hourBar 1 110, hourBar 1 180, rfl, rfl, rfl,
    rfl, rfl, fun k hk => ?_⟩
  · obtain rfl : i = 0 := Nat.le_zero.mp hi
    rfl
  · have hlate : ¬k = hour + minute := by
      rintro rfl
      exact absurd hk (by decide +kernel)
    simp [paramsWith, List.lookup_cons, beq_eq_false_iff_ne.mpr hlate]

end Backtest

end Polyperps
