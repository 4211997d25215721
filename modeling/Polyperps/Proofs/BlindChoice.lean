import Polyperps.Proofs.LookAhead
import Polyperps.Scripts.RunBacktest

/-!
# The choice of the parameters does not see the holdout

The minute closes and the proxy closes of the whole data set are handed to
every run on the train slice. A run asks for minute closes up to the fill
minute of its last bar, and the two strategies that read the proxy look up the
hours of the bars they are shown; so the trials, and with them the choice, are
functions of the train slice and the data up to its end.
-/

namespace Polyperps

open ProgramLogic Slices

/-! ## The strategies look up the hours they are shown -/

section Lookups

variable {m m' : List (DateTime × Decimal)} {s : Stance} {history : List Bar}
  {score : List Decimal → Decimal}

/-- Two dictionaries agree on the hours of some bars. -/
def AgreeOn (bars : List Bar) (m m' : List (DateTime × Decimal)) : Prop :=
  ∀ b ∈ bars, m'.lookup b.openTs = m.lookup b.openTs

theorem Basis.pair_agree {b : Bar} (h : AgreeOn history m m')
    (hb : b ∈ history) : Basis.pair m' b = Basis.pair m b := by
  unfold Basis.pair
  rw [h b hb]

theorem Basis.next_agree {params : Basis} (h : AgreeOn history m m') :
    params.next score m' s history = params.next score m s history := by
  have hlast : history.getLast?.bind (pair m') =
      history.getLast?.bind (pair m) := by
    cases hl : history.getLast? with
    | none => rfl
    | some b => exact pair_agree h (List.mem_of_getLast? hl)
  have hwindow : history.filterMap (pair m') = history.filterMap (pair m) :=
    List.filterMap_congr fun b hb => pair_agree h hb
  unfold Basis.next
  rw [hlast, hwindow]

theorem mem_of_lastTwo {p c : Bar} (h : lastTwo history = some (p, c)) :
    p ∈ history ∧ c ∈ history := by
  unfold lastTwo at h
  split at h
  · next c' p' rest hr =>
      cases h
      constructor <;> rw [← List.mem_reverse, hr] <;> simp
  · cases h

theorem LeadLag.next_agree {params : LeadLag} (h : AgreeOn history m m') :
    params.next m' s history = params.next m s history := by
  unfold LeadLag.next
  cases hl : lastTwo history with
  | none => rfl
  | some pc =>
      obtain ⟨hp, hc⟩ := mem_of_lastTwo hl
      simp only [h _ hp, h _ hc]

end Lookups

/-- Two builds of a strategy: the same failure, or strategies that say the
same of every history made of the bars. -/
def SameOn (bars : List Bar) (x x' : Except Exc (Strategy Stance)) : Prop :=
  match x with
  | .error e => x' = .error e
  | .ok st => ∃ target, x' = .ok { st with target } ∧
      ∀ s history, (∀ b ∈ history, b ∈ bars) →
        target s history = st.target s history

theorem SameOn.rfl {bars : List Bar} {x : Except Exc (Strategy Stance)} :
    SameOn bars x x := by
  cases x with
  | error e => exact Eq.refl _
  | ok st => exact ⟨st.target, Eq.refl _, fun _ _ _ => Eq.refl _⟩

theorem SameOn.strategy {bars : List Bar} {warmup : ℕ}
    {next next' : Stance → List Bar → Stance} {onFlatten : Stance → Stance}
    (h : ∀ s history, (∀ b ∈ history, b ∈ bars) →
      next' s history = next s history) :
    SameOn bars (.ok (Stance.strategy warmup next onFlatten))
      (.ok (Stance.strategy warmup next' onFlatten)) := by
  refine ⟨_, Eq.refl _, fun s history hmem => ?_⟩
  show ((next' s history).position, _) = ((next s history).position, _)
  rw [h s history hmem]

/-- A built strategy is the same on the bars whose proxy closes are. -/
theorem buildStrategy_agree {score : List Decimal → Decimal} {h : Hypothesis}
    {params : h.Params} {bars : List Bar}
    {proxy proxy' : Option (List (DateTime × Decimal))}
    (hsome : proxy'.isSome = proxy.isSome)
    (hp : ∀ m ∈ proxy, ∀ m' ∈ proxy', AgreeOn bars m m') :
    SameOn bars (buildStrategy score h params proxy)
      (buildStrategy score h params proxy') := by
  cases proxy with
  | none =>
      cases proxy' with
      | none => exact SameOn.rfl
      | some m' => cases hsome
  | some m =>
      obtain ⟨m', rfl⟩ := Option.isSome_iff_exists.mp hsome
      have hm := hp m rfl m' rfl
      cases h with
      | h1 => exact SameOn.rfl
      | h2 => exact SameOn.strategy fun _ _ hmem =>
          Basis.next_agree fun b hb => hm b (hmem b hb)
      | h3 => exact SameOn.rfl
      | h4 => exact SameOn.strategy fun _ _ hmem =>
          LeadLag.next_agree fun b hb => hm b (hmem b hb)
      | h5 => exact SameOn.rfl
      | h6 => exact SameOn.rfl

namespace RunBacktest

variable {percent : Decimal → String} {score : List Decimal → Decimal}
  {h : Hypothesis} {args args' : RunArgs} {data data' : DataSet}
  {prepared prepared' : Prepared}

/-! ## What the checks let through -/

theorem trimIncompleteEdges_sublist (bars : List Bar) :
    (trimIncompleteEdges bars).Sublist bars := by
  unfold trimIncompleteEdges
  rw [← List.reverse_sublist, List.reverse_reverse]
  refine (List.dropWhile_sublist _).trans ?_
  rw [List.reverse_sublist]
  exact List.dropWhile_sublist _

/-- The prepared bars are in order, the fee is the stored one, and there are
proxy closes exactly where the hypothesis reads them. -/
theorem prepare_spec (hok : prepare percent h args data = .ok prepared) :
    args.takerFeeRate = some prepared.takerFeeRate ∧
      prepared.bars.Pairwise (·.openTs < ·.openTs) ∧
      prepared.proxyCloses.isSome = h.needsProxy := by
  have hsorted := (data.rows.buildBars_sorted args.instrument args.source
    proxySpreadBps epoch2000 args.stop).1.sublist
      (trimIncompleteEdges_sublist _)
  unfold prepare at hok
  split at hok
  · cases hok
  · next fee hfee =>
      simp only at hok
      split at hok
      · cases hok
      · split at hok
        · cases hok
        · split at hok
          · cases hok
          · next first rest hbars =>
              rw [hbars] at hsorted
              split at hok
              · next hneeds =>
                  split at hok
                  · cases hok
                  · cases hc : coveredCloses percent h args data
                      (trimIncompleteEdges (data.rows.buildBars
                        args.instrument args.source proxySpreadBps epoch2000
                        args.stop)) first with
                    | error e =>
                        rw [hc] at hok
                        cases hok
                    | ok closes =>
                        rw [hc] at hok
                        cases hok
                        exact ⟨hfee, hbars ▸ hsorted, hneeds.symm⟩
              · next hneeds =>
                  cases hok
                  exact ⟨hfee, hbars ▸ hsorted, by simpa using hneeds⟩

/-! ## The trials -/

theorem trial_agree {params : h.Params}
    (hok : prepare percent h args data = .ok prepared)
    (hok' : prepare percent h args' data' = .ok prepared')
    (hfee : args'.takerFeeRate = args.takerFeeRate)
    (htrain : trainSlice prepared'.bars = trainSlice prepared.bars)
    (hcloses : ∀ last ∈ (trainSlice prepared.bars).getLast?,
      Backtest.AgreeUpTo (floorMinute (last.openTs + barBar.latency))
        data.minuteCloses data'.minuteCloses)
    (hproxy : ∀ m ∈ prepared.proxyCloses, ∀ m' ∈ prepared'.proxyCloses,
      AgreeOn (trainSlice prepared.bars) m m') :
    trial score h data' prepared' params =
      trial score h data prepared params := by
  obtain ⟨hstored, hsorted, hneeds⟩ := prepare_spec hok
  obtain ⟨hstored', -, hneeds'⟩ := prepare_spec hok'
  have hrate : prepared'.takerFeeRate = prepared.takerFeeRate := by
    rw [hstored, hstored', Option.some.injEq] at hfee
    exact hfee
  have hbuilt : SameOn (trainSlice prepared.bars)
      (buildStrategy score h params prepared.proxyCloses)
      (buildStrategy score h params prepared'.proxyCloses) :=
    buildStrategy_agree (hneeds'.trans hneeds.symm) hproxy
  unfold trial
  rw [hrate, htrain]
  cases hb : buildStrategy score h params prepared.proxyCloses with
  | error e =>
      rw [hb] at hbuilt
      rw [show buildStrategy score h params prepared'.proxyCloses = .error e
        from hbuilt]
      rfl
  | ok st =>
      rw [hb] at hbuilt
      obtain ⟨target, hb', htarget⟩ := hbuilt
      rw [hb']
      have htrainSorted : (trainSlice prepared.bars).Pairwise
          (·.openTs < ·.openTs) := hsorted.sublist (List.take_sublist _ _)
      have hrun := Backtest.runBacktest_agree
        (p := backtestParams prepared.takerFeeRate data.minuteCloses st)
        htrainSorted hcloses
        (fun s t => htarget s _ fun b hb => List.mem_of_mem_take hb)
      show resultOf _ _ = resultOf _ _
      unfold resultOf
      have hp : backtestParams prepared.takerFeeRate data'.minuteCloses
          { st with target } = Backtest.withData
            (backtestParams prepared.takerFeeRate data.minuteCloses st)
            data'.minuteCloses target := rfl
      rw [hp, hrun]

/-- The trials on the train slice, with their trades and returns, and the
parameters chosen from them are the same for any two data sets that pass the
checks and agree on the train slice, on the minute closes up to the fill
minute of its last bar and on the proxy closes of its hours. -/
theorem chooseParams_blind {R : Type} (sharpe : List Decimal → R)
    (gt : R → R → Bool) (grid : List h.Params)
    (hok : prepare percent h args data = .ok prepared)
    (hok' : prepare percent h args' data' = .ok prepared')
    (hfee : args'.takerFeeRate = args.takerFeeRate)
    (htrain : trainSlice prepared'.bars = trainSlice prepared.bars)
    (hcloses : ∀ last ∈ (trainSlice prepared.bars).getLast?,
      Backtest.AgreeUpTo (floorMinute (last.openTs + barBar.latency))
        data.minuteCloses data'.minuteCloses)
    (hproxy : ∀ m ∈ prepared.proxyCloses, ∀ m' ∈ prepared'.proxyCloses,
      AgreeOn (trainSlice prepared.bars) m m') :
    chooseParams percent score sharpe gt h grid args' data' =
      chooseParams percent score sharpe gt h grid args data := by
  have htrials : ∀ params : h.Params,
      trial score h data' prepared' params =
        trial score h data prepared params :=
    fun params => trial_agree hok hok' hfee htrain hcloses hproxy
  unfold chooseParams
  rw [hok, hok']
  show (do
    let trials ← grid.mapM fun params => do
      let res ← trial score h data' prepared' params
      return (params, res)
    _) = _
  simp only [htrials]
  rfl

/-! ## Two data sets that part in the holdout -/

/-- A hundred hours of candles with these closes, and their settlements. -/
def hundredHours (close : ℕ → Decimal) : HourlyRows where
  candles := (List.range 100).map fun i : ℕ =>
    (epoch2000 + i * hour, candleAt (epoch2000 + i * hour) (close i))
  funding := (List.range 101).map fun i : ℕ => (epoch2000 + i * hour, 0)
  indexByHour := []
  spreadsByHour := []
where
  candleAt (t : DateTime) (close : Decimal) : Candle :=
    ⟨6, "1h", t, 100, 1000, 1, close, 1, 1, t, .polymarketRest⟩

/-- Rising closes, or closes that fall from hour 70 on. -/
@[irreducible] def risingSet (falls : Bool) : DataSet where
  rows := hundredHours fun i => if falls ∧ 70 ≤ i then 500 - i else 100 + i
  proxyRows := hundredHours fun i => if falls ∧ 70 ≤ i then 600 - i else 100 + i
  minuteCloses := [(epoch2000 + 80 * hour, if falls then 420 else 180)]

@[irreducible] def sampleArgs : RunArgs :=
  ⟨6, .polymarketRest, "crypto", epoch2000 + 100 * hour, some (1 / 1000)⟩

@[irreducible] def samplePrepared (falls : Bool) : Prepared :=
  match prepare (fun _ => "") .h4 sampleArgs (risingSet falls) with
  | .ok prepared => prepared
  | .error _ => ⟨0, [], none⟩

/-- What the checks and the split make of the two sets. -/
theorem samplePrepared_facts :
    (∀ falls, (prepare (fun _ => "") .h4 sampleArgs
      (risingSet falls)).toOption.isSome = true) ∧
    (trainSlice (samplePrepared false).bars).getLast?.map (·.openTs) =
      some (epoch2000 + 69 * hour) ∧
    trainSlice (samplePrepared true).bars =
      trainSlice (samplePrepared false).bars ∧
    ∀ m ∈ (samplePrepared false).proxyCloses,
      ∀ m' ∈ (samplePrepared true).proxyCloses,
      ∀ b ∈ trainSlice (samplePrepared false).bars,
        m'.lookup b.openTs = m.lookup b.openTs := by
  decide +kernel

theorem samplePrepared_ok (falls : Bool) :
    prepare (fun _ => "") .h4 sampleArgs (risingSet falls) =
      .ok (samplePrepared falls) := by
  have hok := samplePrepared_facts.1 falls
  unfold samplePrepared
  generalize prepare (fun _ => "") .h4 sampleArgs (risingSet falls) = x at hok ⊢
  cases x with
  | ok prepared => rfl
  | error e => cases hok

/-- The lead-lag grid point chosen on hours 0 to 69 is the same whether the
closes of both venues rise or fall afterwards. -/
theorem chooseParams_blind_risingSet :
    chooseParams (fun _ => "") List.sum List.sum (fun a b => decide (b < a))
        .h4 [⟨25, 1⟩, ⟨50, 3⟩] sampleArgs (risingSet true) =
      chooseParams (fun _ => "") List.sum List.sum (fun a b => decide (b < a))
        .h4 [⟨25, 1⟩, ⟨50, 3⟩] sampleArgs (risingSet false) := by
  obtain ⟨-, hlast, htrain, hagree⟩ := samplePrepared_facts
  have hcloses : ∀ falls, (risingSet falls).minuteCloses =
      [(epoch2000 + 80 * hour, if falls then 420 else 180)] := by
    intro falls
    rw [risingSet]
  refine chooseParams_blind List.sum (fun a b => decide (b < a)) _
    (samplePrepared_ok false) (samplePrepared_ok true) rfl htrain
    (fun last hmem k hk => ?_) hagree
  rw [Option.mem_def.mp hmem, Option.map_some, Option.some.injEq] at hlast
  rw [hlast] at hk
  have hlate : ¬k = epoch2000 + 80 * hour := by
    rintro rfl
    exact absurd hk (by decide +kernel)
  rw [hcloses, hcloses]
  simp [List.lookup_cons, beq_eq_false_iff_ne.mpr hlate]

end RunBacktest

end Polyperps
