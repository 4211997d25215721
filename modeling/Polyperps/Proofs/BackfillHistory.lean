import Polyperps.Scripts.Backfill

/-!
# A backfill converges to the venue's history

What a run adds is rows that the venue answered, and of the candles only those
that had ended when the run began; what is there stays as it is. Where the
answers are those of one history, it does not matter how many runs there were
before, over which windows, and where they failed or were stopped: after a run,
the rows of a window that it did not list as failed are those of the history,
no more and no fewer.
-/

namespace Polyperps

open ProgramLogic

/-- What the venue has on record. A time has one rate, and one candle of an
interval. -/
structure VenueHistory where
  funding : InstrumentId → List RawFunding
  candles : InstrumentId → String → List RawCandle
  funding_one : ∀ iid, ∀ x ∈ funding iid, ∀ y ∈ funding iid,
    x.timestamp = y.timestamp → x = y
  candles_one : ∀ iid interval, ∀ x ∈ candles iid interval,
    ∀ y ∈ candles iid interval, x.timestamp = y.timestamp → x = y

/-- A candle of an interval has ended. -/
def IntervalEnded (now : DateTime) (interval : String) (openTs : DateTime) : Prop :=
  ∃ length, parseInterval interval = some length ∧ openTs + length ≤ now

/-- Where the SDK answers, it leaves out nothing that is on record for the
window asked for, candles that have not ended apart. -/
structure Sdk.Complete (sdk : Sdk) (history : VenueHistory) (now : DateTime) :
    Prop where
  funding_all : ∀ {n iid start stop rows},
    (sdk.funding n iid start stop).rows = .ok rows →
      ∀ r ∈ history.funding iid, start ≤ r.timestamp → r.timestamp < stop →
        r ∈ rows
  candles_all : ∀ {n iid interval start stop rows},
    (sdk.candles n iid interval start stop).rows = .ok rows →
      ∀ c ∈ history.candles iid interval, start ≤ c.timestamp →
        c.timestamp < stop → IntervalEnded now interval c.timestamp → c ∈ rows

/-- The SDK serves the history: all of the window asked for where it answers,
and nothing that is not on record, candles that have not ended apart. -/
structure Sdk.Serves (sdk : Sdk) (history : VenueHistory)
    (now : DateTime) : Prop extends sdk.Complete history now where
  funding_mem : ∀ {n iid start stop rows},
    (sdk.funding n iid start stop).rows = .ok rows →
      ∀ r ∈ rows, r ∈ history.funding iid
  candles_mem : ∀ {n iid interval start stop rows},
    (sdk.candles n iid interval start stop).rows = .ok rows →
      ∀ c ∈ rows, IntervalEnded now interval c.timestamp →
        c ∈ history.candles iid interval

/-- A stored row without what the process adds to it. -/
def FundingObservation.raw (f : FundingObservation) : RawFunding :=
  ⟨f.fundingRate, f.exchangeTs⟩

def Candle.raw (c : Candle) : RawCandle :=
  ⟨c.openTs, c.openPrice, c.high, c.low, c.close, c.volume, c.trades⟩

/-- A funding row that a run may add: one of a rate that the SDK answered. -/
structure FundingOf (sdk : Sdk) (f : FundingObservation) : Prop where
  answered : ∃ n start stop rows,
    (sdk.funding n f.instrumentId start stop).rows = .ok rows ∧
      ∃ r ∈ rows, f = fundingFromRest f.instrumentId (sdk.clock n) r

/-- A candle that a run may add: one that the SDK answered, and that has
ended. -/
structure CandleOf (sdk : Sdk) (now : DateTime) (c : Candle) : Prop where
  answered : ∃ n start stop rows,
    (sdk.candles n c.instrumentId c.interval start stop).rows = .ok rows ∧
      ∃ r ∈ rows, c = candleFromRest c.instrumentId c.interval (sdk.clock n) r
  ended : IntervalEnded now c.interval c.openTs

/-- What a run adds: rows that the SDK answered, none twice, and nothing
else. -/
structure Adds (sdk : Sdk) (now : DateTime)
    (db db' : BarTables) : Prop where
  market : db'.market = db.market
  funding : ∃ fs, db'.fundingRates = db.fundingRates ++ fs ∧
    ∀ f ∈ fs, FundingOf sdk f
  candles : ∃ cs, db'.candles = db.candles ++ cs ∧
    ∀ c ∈ cs, CandleOf sdk now c
  funding_keys : (db.fundingRates.map FundingObservation.key).Nodup →
    (db'.fundingRates.map FundingObservation.key).Nodup
  candle_keys : (db.candles.map Candle.key).Nodup →
    (db'.candles.map Candle.key).Nodup

variable {sdk : Sdk} {history : VenueHistory} {now : DateTime}
  {db db' : BarTables} {iid : InstrumentId} {interval : String}
  {w w' : World BarTables Session}

/-- What an SDK that serves the history answers is on record. -/
theorem FundingOf.recorded {f : FundingObservation} (h : FundingOf sdk f)
    (hs : sdk.Serves history now) : f.raw ∈ history.funding f.instrumentId := by
  obtain ⟨n, start, stop, rows, hrows, r, hr, heq⟩ := h.answered
  have hraw : f.raw = r := by
    rw [heq]
    rfl
  rw [hraw]
  exact hs.funding_mem hrows r hr

theorem CandleOf.recorded {c : Candle} (h : CandleOf sdk now c)
    (hs : sdk.Serves history now) :
    c.raw ∈ history.candles c.instrumentId c.interval := by
  obtain ⟨n, start, stop, rows, hrows, r, hr, heq⟩ := h.answered
  have hraw : c.raw = r := by
    rw [heq]
    rfl
  have htime : c.openTs = r.timestamp := congrArg RawCandle.timestamp hraw
  rw [hraw]
  exact hs.candles_mem hrows r hr (htime ▸ h.ended)

theorem Adds.refl : Adds sdk now db db :=
  ⟨rfl, ⟨[], by simp⟩, ⟨[], by simp⟩, id, id⟩

theorem Adds.trans {db'' : BarTables} (h : Adds sdk now db db')
    (h' : Adds sdk now db' db'') : Adds sdk now db db'' := by
  obtain ⟨fs, hf, hfs⟩ := h.funding
  obtain ⟨fs', hf', hfs'⟩ := h'.funding
  obtain ⟨cs, hc, hcs⟩ := h.candles
  obtain ⟨cs', hc', hcs'⟩ := h'.candles
  refine ⟨h'.market.trans h.market, ⟨fs ++ fs', ?_, fun f hmem => ?_⟩,
    ⟨cs ++ cs', ?_, fun c hmem => ?_⟩, fun hn => h'.funding_keys
      (h.funding_keys hn), fun hn => h'.candle_keys (h.candle_keys hn)⟩
  · rw [hf', hf, List.append_assoc]
  · exact (List.mem_append.mp hmem).elim (hfs f) (hfs' f)
  · rw [hc', hc, List.append_assoc]
  · exact (List.mem_append.mp hmem).elim (hcs c) (hcs' c)

instance : Std.Refl (Adds sdk now) := ⟨fun _ => Adds.refl⟩

instance : IsTrans BarTables (Adds sdk now) := ⟨fun _ _ _ => Adds.trans⟩

/-- Rows once there are there from then on. -/
theorem Adds.funding_mem (h : Adds sdk now db db')
    {f : FundingObservation} (hf : f ∈ db.fundingRates) :
    f ∈ db'.fundingRates := by
  obtain ⟨fs, heq, _⟩ := h.funding
  rw [heq]
  exact List.mem_append_left fs hf

theorem Adds.candles_mem (h : Adds sdk now db db') {c : Candle}
    (hc : c ∈ db.candles) : c ∈ db'.candles := by
  obtain ⟨cs, heq, _⟩ := h.candles
  rw [heq]
  exact List.mem_append_left cs hc

theorem Adds.funding_key (h : Adds sdk now db db') {k}
    (hk : k ∈ db.fundingRates.map FundingObservation.key) :
    k ∈ db'.fundingRates.map FundingObservation.key := by
  obtain ⟨f, hf, rfl⟩ := List.mem_map.mp hk
  exact List.mem_map_of_mem (h.funding_mem hf)

theorem Adds.candle_key (h : Adds sdk now db db') {k}
    (hk : k ∈ db.candles.map Candle.key) :
    k ∈ db'.candles.map Candle.key := by
  obtain ⟨c, hc, rfl⟩ := List.mem_map.mp hk
  exact List.mem_map_of_mem (h.candles_mem hc)

namespace Backfill

/-! ## Inserting -/

/-- A row is left out just when its key is there. -/
theorem insertOrIgnore_cases {ρ κ : Type} [DecidableEq κ] (key : ρ → κ)
    (r : ρ) (t : List ρ) :
    (key r ∈ t.map key ∧ insertOrIgnore key r t = t) ∨
      (key r ∉ t.map key ∧ insertOrIgnore key r t = t ++ [r]) := by
  unfold insertOrIgnore
  by_cases h : key r ∈ t.map key
  · exact Or.inl ⟨h, if_pos h⟩
  · exact Or.inr ⟨h, if_neg h⟩

theorem nodup_insertOrIgnore {ρ κ : Type} [DecidableEq κ] {key : ρ → κ}
    {r : ρ} {t : List ρ} (h : (t.map key).Nodup) :
    ((insertOrIgnore key r t).map key).Nodup := by
  rcases insertOrIgnore_cases key r t with ⟨_, heq⟩ | ⟨hnew, heq⟩
  · rw [heq]
    exact h
  · rw [heq, List.map_append]
    refine List.nodup_append.mpr ⟨h, List.nodup_singleton _, ?_⟩
    intro a ha b hb hab
    rw [List.map_singleton, List.mem_singleton] at hb
    exact hnew (hb ▸ hab ▸ ha)

theorem key_mem_insertOrIgnore {ρ κ : Type} [DecidableEq κ] (key : ρ → κ)
    (r : ρ) (t : List ρ) : key r ∈ (insertOrIgnore key r t).map key := by
  rcases insertOrIgnore_cases key r t with ⟨hold, heq⟩ | ⟨_, heq⟩
  · rwa [heq]
  · rw [heq, List.map_append]
    exact List.mem_append_right _ (List.mem_singleton_self _)

theorem added_insertOrIgnore {ρ κ : Type} [DecidableEq κ] (key : ρ → κ)
    {p : ρ → Prop} {r : ρ} (hr : p r) (t : List ρ) :
    ∃ rs, insertOrIgnore key r t = t ++ rs ∧ ∀ x ∈ rs, p x := by
  rcases insertOrIgnore_cases key r t with ⟨_, heq⟩ | ⟨_, heq⟩
  · exact ⟨[], by rw [heq, List.append_nil], by simp⟩
  · exact ⟨[r], heq, by simpa using hr⟩

/-- What a run does before it reports: rows are added, one by one. -/
structure Adding (sdk : Sdk) (now : DateTime)
    (w w' : World BarTables Session) : Prop where
  along : World.Along (Adds sdk now) w w'
  reports : w'.mem.reports = w.mem.reports

instance : Std.Refl (Adding sdk now) := ⟨fun w => ⟨refl_of _ w, rfl⟩⟩

instance : IsTrans (World BarTables Session) (Adding sdk now) :=
  ⟨fun _ _ _ h h' => ⟨trans_of _ h.along h'.along,
    h'.reports.trans h.reports⟩⟩

theorem Adding.adds (h : Adding sdk now w w') :
    Adds sdk now w.disk w'.disk := h.along.between.1

theorem insertFunding_spec {f : FundingObservation}
    (hf : FundingOf sdk f) (w : World BarTables Session) :
    Prog.wp (insertFunding f)
      (fun _ w' => Adding sdk now w w' ∧
        f.key ∈ w'.disk.fundingRates.map FundingObservation.key)
      (fun _ _ => False) w := by
  unfold insertFunding
  rw [Prog.wp_commit_ok]
  exact ⟨⟨.commit _ _ ⟨rfl, added_insertOrIgnore _ hf _, ⟨[], by simp⟩,
    nodup_insertOrIgnore, id⟩, rfl⟩, key_mem_insertOrIgnore ..⟩

theorem insertCandle_spec {c : Candle} (hc : CandleOf sdk now c)
    (w : World BarTables Session) :
    Prog.wp (insertCandle c)
      (fun _ w' => Adding sdk now w w' ∧
        c.key ∈ w'.disk.candles.map Candle.key)
      (fun _ _ => False) w := by
  unfold insertCandle
  rw [Prog.wp_commit_ok]
  exact ⟨⟨.commit _ _ ⟨rfl, ⟨[], by simp⟩, added_insertOrIgnore _ hc _, id,
    nodup_insertOrIgnore⟩, rfl⟩, key_mem_insertOrIgnore ..⟩

/-- Inserting one by one: what one insert makes so, and adding rows keeps so,
is so of all of them in the end. -/
theorem insertAll_spec {ρ : Type} {insert : ρ → Act Bool}
    {has : ρ → BarTables → Prop}
    (hkeep : ∀ r d d', Adds sdk now d d' → has r d → has r d')
    {rows : List ρ} (hinsert : ∀ r ∈ rows, ∀ w,
      Prog.wp (insert r)
        (fun _ w' => Adding sdk now w w' ∧ has r w'.disk)
        (fun _ _ => False) w) (w : World BarTables Session) :
    Prog.wp (insertAll insert rows)
      (fun _ w' => Adding sdk now w w' ∧ ∀ r ∈ rows, has r w'.disk)
      (fun _ _ => False) w := by
  induction rows generalizing w with
  | nil => exact ⟨refl_of _ w, by simp⟩
  | cons r rest ih =>
      rw [insertAll, Prog.wp_bind]
      refine Prog.wp_mono (hinsert r (by simp) w) (fun _ w₁ h₁ => ?_)
        fun _ _ hf => hf
      rw [Prog.wp_bind]
      refine Prog.wp_mono
        (ih (fun x hx => hinsert x (List.mem_cons_of_mem r hx)) w₁)
        (fun _ w₂ h₂ => ?_) fun _ _ hf => hf
      refine ⟨trans_of _ h₁.1 h₂.1, fun x hx => ?_⟩
      rcases List.mem_cons.mp hx with rfl | hx
      · exact hkeep _ _ _ h₂.1.adds h₁.2
      · exact h₂.2 x hx

/-! ## One window -/

theorem mem_closed {cs out : List Candle} (h : closed now cs = .ok out)
    {c : Candle} : c ∈ out ↔ c ∈ cs ∧ IntervalEnded now c.interval c.openTs := by
  induction cs generalizing out with
  | nil =>
      rw [← Except.ok.inj h]
      simp
  | cons x rest ih =>
      unfold closed at h
      cases hx : parseInterval x.interval with
      | none => rw [hx] at h; cases h
      | some length =>
          rw [hx] at h
          cases hrest : closed now rest with
          | error e => rw [hrest] at h; cases h
          | ok later =>
              rw [hrest] at h
              have hout := Except.ok.inj h
              have ih := ih hrest
              have hended : IntervalEnded now x.interval x.openTs ↔
                  x.openTs + length ≤ now :=
                ⟨fun ⟨l, hl, hle⟩ => by
                    rw [hx, Option.some.injEq] at hl
                    rwa [hl],
                  fun hle => ⟨length, hx, hle⟩⟩
              rw [← hout, List.mem_cons]
              split
              · next hle =>
                rw [List.mem_cons, ih]
                constructor
                · rintro (rfl | h)
                  · exact ⟨Or.inl rfl, hended.mpr hle⟩
                  · exact ⟨Or.inr h.1, h.2⟩
                · rintro ⟨rfl | h, hend⟩
                  · exact Or.inl rfl
                  · exact Or.inr ⟨h, hend⟩
              · next hle =>
                rw [ih]
                constructor
                · exact fun h => ⟨Or.inr h.1, h.2⟩
                · rintro ⟨rfl | h, hend⟩
                  · exact absurd (hended.mp hend) hle
                  · exact ⟨h, hend⟩

/-- The tables have every time of a window that is on record. -/
structure Covers (history : VenueHistory) (now : DateTime)
    (iid : InstrumentId) (interval : String) (win : Window)
    (db : BarTables) : Prop where
  funding : ∀ r ∈ history.funding iid, win.1 ≤ r.timestamp →
    r.timestamp < win.2 → (iid, .polymarketRest, r.timestamp) ∈
      db.fundingRates.map FundingObservation.key
  candles : ∀ c ∈ history.candles iid interval, win.1 ≤ c.timestamp →
    c.timestamp < win.2 → IntervalEnded now interval c.timestamp →
      (iid, interval, .polymarketRest, c.timestamp) ∈
        db.candles.map Candle.key

theorem Covers.mono {win : Window} (h : Covers history now iid interval win db)
    (ha : Adds sdk now db db') :
    Covers history now iid interval win db' where
  funding := fun r hr h1 h2 => ha.funding_key (h.funding r hr h1 h2)
  candles := fun c hc h1 h2 h3 => ha.candle_key (h.candles c hc h1 h2 h3)

/-- A fetch returns what the SDK served, or raises; the disk is as it was. -/
theorem fetchFundingHistory_spec (hs : sdk.Complete history now)
    (start stop : DateTime) (w : World BarTables Session) :
    Prog.wp (fetchFundingHistory sdk iid start stop)
      (fun fs w' => Adding sdk now w w' ∧
        (∀ f ∈ fs, FundingOf sdk f) ∧
        ∀ r ∈ history.funding iid, start ≤ r.timestamp →
          r.timestamp < stop →
            ∃ f ∈ fs, f.key = (iid, .polymarketRest, r.timestamp))
      (fun _ w' => Adding sdk now w w') w := by
  unfold fetchFundingHistory nextCall
  simp only [Prog.wp_bind, Prog.wp_mem, Prog.wp_modifyMem, Prog.wp_pure]
  cases hrows : (sdk.funding w.mem.calls iid start stop).rows with
  | error e => exact ⟨.memory _, rfl⟩
  | ok rows =>
      rw [Prog.wp_ofExcept_ok]
      refine ⟨⟨.memory _, rfl⟩, fun f hf => ?_, fun r hr h1 h2 => ?_⟩
      · obtain ⟨r, hr, rfl⟩ := List.mem_map.mp hf
        exact ⟨_, start, stop, rows, hrows, r, hr, rfl⟩
      · exact ⟨_, List.mem_map_of_mem (hs.funding_all hrows r hr h1 h2), rfl⟩

theorem fetchCandles_spec (hs : sdk.Complete history now)
    (start stop : DateTime) (w : World BarTables Session) :
    Prog.wp (fetchCandles sdk iid interval start stop)
      (fun cs w' => Adding sdk now w w' ∧
        (∀ c ∈ cs, IntervalEnded now c.interval c.openTs →
          CandleOf sdk now c) ∧
        ∀ r ∈ history.candles iid interval, start ≤ r.timestamp →
          r.timestamp < stop → IntervalEnded now interval r.timestamp →
            ∃ c ∈ cs, IntervalEnded now c.interval c.openTs ∧
              c.key = (iid, interval, .polymarketRest, r.timestamp))
      (fun _ w' => Adding sdk now w w') w := by
  unfold fetchCandles nextCall
  simp only [Prog.wp_bind, Prog.wp_mem, Prog.wp_modifyMem, Prog.wp_pure]
  cases hrows : (sdk.candles w.mem.calls iid interval start stop).rows with
  | error e => exact ⟨.memory _, rfl⟩
  | ok rows =>
      rw [Prog.wp_ofExcept_ok]
      refine ⟨⟨.memory _, rfl⟩, fun c hc hended => ?_, fun r hr h1 h2 h3 => ?_⟩
      · obtain ⟨r, hr, rfl⟩ := List.mem_map.mp hc
        exact ⟨⟨_, start, stop, rows, hrows, r, hr, rfl⟩, hended⟩
      · exact ⟨_, List.mem_map_of_mem (hs.candles_all hrows r hr h1 h2 h3),
          h3, rfl⟩

theorem attemptWindow_spec (hs : sdk.Complete history now) (win : Window)
    (w : World BarTables Session) :
    Prog.wp (attemptWindow sdk iid interval now win)
      (fun _ w' => Adding sdk now w w' ∧
        Covers history now iid interval win w'.disk)
      (fun _ w' => Adding sdk now w w') w := by
  unfold attemptWindow
  rw [Prog.wp_bind]
  refine Prog.wp_mono (fetchFundingHistory_spec hs win.1 win.2 w)
    (fun fs w₁ h₁ => ?_) fun _ _ h => h
  obtain ⟨hadd₁, hof, hall⟩ := h₁
  rw [Prog.wp_bind]
  refine Prog.wp_mono (@insertAll_spec sdk now _ insertFunding
    (fun f d => f.key ∈ d.fundingRates.map FundingObservation.key)
    (fun f _ _ ha hk => ha.funding_key hk) fs
    (fun f hf w => insertFunding_spec (hof f hf) w) w₁)
    (fun _ w₂ h₂ => ?_) fun _ _ hf => hf.elim
  obtain ⟨hadd₂, hstored⟩ := h₂
  rw [Prog.wp_bind]
  refine Prog.wp_mono (fetchCandles_spec hs win.1 win.2 w₂)
    (fun cs w₃ h₃ => ?_) fun _ _ h =>
      trans_of _ hadd₁ (trans_of _ hadd₂ h)
  obtain ⟨hadd₃, hcof, hcall⟩ := h₃
  have hadd := trans_of _ hadd₁ (trans_of _ hadd₂ hadd₃)
  rw [Prog.wp_bind]
  cases hdone : closed now cs with
  | error e => exact hadd
  | ok done =>
      rw [Prog.wp_ofExcept_ok, Prog.wp_bind]
      refine Prog.wp_mono (@insertAll_spec sdk now _ insertCandle
        (fun c d => c.key ∈ d.candles.map Candle.key)
        (fun c _ _ ha hk => ha.candle_key hk) done
        (fun c hc w => insertCandle_spec (hcof c ((mem_closed hdone).mp hc).1
          ((mem_closed hdone).mp hc).2) w) w₃)
        (fun _ w₄ h₄ => ?_) fun _ _ hf => hf.elim
      obtain ⟨hadd₄, hcstored⟩ := h₄
      refine ⟨trans_of _ hadd hadd₄, fun r hr h1 h2 => ?_,
        fun r hr h1 h2 h3 => ?_⟩
      · obtain ⟨f, hf, hkey⟩ := hall r hr h1 h2
        rw [← hkey]
        exact (trans_of _ hadd₃ hadd₄).adds.funding_key (hstored f hf)
      · obtain ⟨c, hc, hended, hkey⟩ := hcall r hr h1 h2 h3
        rw [← hkey]
        exact hcstored c ((mem_closed hdone).mpr ⟨hc, hended⟩)

theorem fetchWindow_spec (hs : sdk.Complete history now) (win : Window)
    (left : ℕ) (w : World BarTables Session) :
    Prog.wp (fetchWindow sdk iid interval now win left)
      (fun _ w' => Adding sdk now w w' ∧
        Covers history now iid interval win w'.disk)
      (fun _ w' => Adding sdk now w w') w := by
  induction left generalizing w with
  | zero => exact refl_of _ w
  | succ left ih =>
      rw [fetchWindow, Prog.wp_catching]
      refine Prog.wp_mono (attemptWindow_spec hs win w) (fun _ _ h => h)
        fun e w₁ h₁ => ?_
      cases e with
      | transient name =>
          exact Prog.wp_mono (ih w₁)
            (fun _ _ h => ⟨trans_of _ h₁ h.1, h.2⟩)
            fun _ _ h => trans_of _ h₁ h
      | runtime message => exact h₁
      | other name => exact h₁

/-! ## The windows -/

/-- Every time of the span is in a window. -/
theorem windowsFrom_covers {stop : DateTime} {turns : ℕ} {start : DateTime}
    (hturns : stop - start ≤ turns * day) {t : DateTime} (h₁ : start ≤ t)
    (h₂ : t < stop) :
    ∃ win ∈ windowsFrom stop turns start, win.1 ≤ t ∧ t < win.2 := by
  induction turns generalizing start with
  | zero =>
      unfold DateTime at *
      omega
  | succ turns ih =>
      rw [windowsFrom, if_pos (lt_of_le_of_lt h₁ h₂)]
      by_cases hfirst : t < min (start + day) stop
      · exact ⟨_, List.mem_cons_self .., h₁, hfirst⟩
      · have hnext : min (start + day) stop = start + day := by
          rcases min_choice (start + day) stop with h | h
          · exact h
          · rw [h] at hfirst
            exact absurd h₂ hfirst
        rw [hnext] at hfirst ⊢
        have hrest : ((turns + 1 : ℕ) : ℤ) * day = turns * day + day := by
          push_cast
          ring
        obtain ⟨win, hwin, hin⟩ := @ih (start + day) (by
          unfold DateTime at *
          omega) (not_lt.mp hfirst)
        exact ⟨win, List.mem_cons_of_mem _ hwin, hin⟩

theorem windows_covers {start stop t : DateTime} (h₁ : start ≤ t)
    (h₂ : t < stop) : ∃ win ∈ windows start stop, win.1 ≤ t ∧ t < win.2 := by
  refine windowsFrom_covers ?_ h₁ h₂
  have hday : day = 86400000000 := rfl
  rw [hday, Int.toNat_of_nonneg (by unfold DateTime at *; omega)]
  unfold DateTime at *
  omega

/-! ## A run -/

theorem backfillWindows_spec (hs : sdk.Complete history now)
    (wins : List Window) (w : World BarTables Session) :
    Prog.wp (backfillWindows sdk iid interval now wins)
      (fun out w' => Adding sdk now w w' ∧ ∀ win ∈ wins, win ∉ out.2 →
        Covers history now iid interval win w'.disk)
      (fun _ w' => Adding sdk now w w') w := by
  induction wins generalizing w with
  | nil => exact ⟨refl_of _ w, by simp⟩
  | cons win rest ih =>
      rw [backfillWindows, Prog.wp_bind, Prog.wp_catching, Prog.wp_bind]
      -- what follows a window, whether or not it failed
      have hrest : ∀ (rows : Option (ℕ × ℕ)) (w₁ : World BarTables Session),
          Adding sdk now w w₁ → (rows.isSome → Covers history now iid
            interval win w₁.disk) →
          Prog.wp (do
            let later ← backfillWindows sdk iid interval now rest
            return tally win rows later)
          (fun out w' => Adding sdk now w w' ∧
            ∀ x ∈ win :: rest, x ∉ out.2 →
              Covers history now iid interval x w'.disk)
          (fun _ w' => Adding sdk now w w') w₁ := by
        intro rows w₁ h₁ hcov
        rw [Prog.wp_bind]
        refine Prog.wp_mono (ih w₁) (fun out w₂ h₂ => ?_)
          fun _ _ h => trans_of _ h₁ h
        obtain ⟨hadd, hall⟩ := h₂
        obtain ⟨counts, failed⟩ := out
        cases rows with
        | none =>
            refine ⟨trans_of _ h₁ hadd, fun x hx hne => ?_⟩
            rcases List.mem_cons.mp hx with rfl | hx
            · exact absurd (List.mem_cons_self ..) hne
            · exact hall x hx fun h => hne (List.mem_cons_of_mem _ h)
        | some rows =>
            refine ⟨trans_of _ h₁ hadd, fun x hx hne => ?_⟩
            rcases List.mem_cons.mp hx with rfl | hx
            · exact (hcov rfl).mono hadd.adds
            · exact hall x hx hne
      refine Prog.wp_mono (fetchWindow_spec hs win maxAttempts w)
        (fun rows w₁ h₁ => hrest (some rows) w₁ h₁.1 fun _ => h₁.2)
        fun e w₁ h₁ => ?_
      cases e with
      | transient name => exact h₁
      | runtime message => exact hrest none w₁ h₁ (by simp)
      | other name => exact h₁

/-- A report says which windows have all that is on record. -/
def Faithful (history : VenueHistory) (interval : String)
    (start stop : DateTime) (rep : InstrumentReport) (db : BarTables) : Prop :=
  ∀ win ∈ windows start stop, win ∉ rep.failedWindows →
    Covers history stop rep.instrumentId interval win db

theorem Faithful.mono {start stop : DateTime} {rep : InstrumentReport}
    (h : Faithful history interval start stop rep db)
    (ha : Adds sdk stop db db') :
    Faithful history interval start stop rep db' :=
  fun win hwin hne => (h win hwin hne).mono ha

/-- An instrument that is done with has one report more. -/
theorem backfillInstrument_spec {start stop : DateTime}
    (hs : sdk.Complete history stop) (inst : Instrument)
    (w : World BarTables Session) :
    Prog.wp (backfillInstrument sdk inst interval start stop)
      (fun _ w' => World.Along (Adds sdk stop) w w' ∧
        ∃ rep, w'.mem.reports = w.mem.reports ++ [rep] ∧
          rep.instrumentId = inst.instrumentId ∧
          Faithful history interval start stop rep w'.disk)
      (fun _ w' => World.Along (Adds sdk stop) w w' ∧
        w'.mem.reports = w.mem.reports) w := by
  unfold backfillInstrument
  rw [Prog.wp_bind]
  refine Prog.wp_mono (backfillWindows_spec hs (windows start stop) w)
    (fun out w₁ h₁ => ?_) fun _ _ h => ⟨h.along, h.reports⟩
  obtain ⟨hadd, hall⟩ := h₁
  obtain ⟨counts, failed⟩ := out
  dsimp only
  rw [Prog.wp_bind, Prog.wp_disk, Prog.wp_bind]
  cases fundingCheck (id w₁.disk) inst start stop with
  | error e => exact ⟨hadd.along, hadd.reports⟩
  | ok fundingGaps =>
      rw [Prog.wp_ofExcept_ok, Prog.wp_bind]
      cases candleCheck (id w₁.disk) inst.instrumentId interval start stop with
      | error e => exact ⟨hadd.along, hadd.reports⟩
      | ok candleGaps =>
          rw [Prog.wp_ofExcept_ok, Prog.wp_modifyMem]
          refine ⟨trans_of _ hadd.along (.memory _), _,
            congrArg (· ++ _) hadd.reports, rfl, hall⟩

/-- The loop over the instruments, with those still to come. -/
structure Progress (sdk : Sdk) (history : VenueHistory) (interval : String)
    (start stop : DateTime) (instruments : List (InstrumentId × Instrument))
    (ids rest : List InstrumentId) (w₀ w : World BarTables Session) : Prop where
  along : World.Along (Adds sdk stop) w₀ w
  faithful : ∀ rep ∈ w.mem.reports,
    Faithful history interval start stop rep w.disk
  done : ∀ iid ∈ ids, iid ∈ rest ∨ ∀ inst,
    instruments.lookup iid = some inst →
      ∃ rep ∈ w.mem.reports, rep.instrumentId = inst.instrumentId

theorem backfillInstruments_spec {start stop : DateTime}
    {instruments : List (InstrumentId × Instrument)} {ids : List InstrumentId}
    (hs : sdk.Complete history stop) {w₀ : World BarTables Session}
    (hnone : w₀.mem.reports = []) :
    Prog.wp (backfillInstruments sdk instruments interval start stop ids)
      (fun _ w' => Progress sdk history interval start stop instruments ids
        [] w₀ w')
      (fun _ w' => World.Along (Adds sdk stop) w₀ w' ∧
        ∀ rep ∈ w'.mem.reports,
          Faithful history interval start stop rep w'.disk) w₀ := by
  unfold backfillInstruments
  refine Prog.wp_forEach (fun rest w => Progress sdk history interval start
    stop instruments ids rest w₀ w) (fun iid rest w h => ?_)
    ⟨refl_of _ w₀, by rw [hnone]; simp, fun iid hid => Or.inl hid⟩
  cases hlook : instruments.lookup iid with
  | none =>
      refine ⟨h.along, h.faithful, fun j hj => ?_⟩
      rcases h.done j hj with hrest | hdone
      · rcases List.mem_cons.mp hrest with rfl | hrest
        · refine Or.inr fun inst hinst => ?_
          rw [hlook] at hinst
          cases hinst
        · exact Or.inl hrest
      · exact Or.inr hdone
  | some inst =>
      refine Prog.wp_mono (backfillInstrument_spec hs inst w)
        (fun _ w' h' => ?_) fun _ w' h' => ?_
      · obtain ⟨halong, rep, hreps, hid, hfaith⟩ := h'
        refine ⟨trans_of _ h.along halong, fun x hx => ?_, fun j hj => ?_⟩
        · rw [hreps] at hx
          rcases List.mem_append.mp hx with hx | hx
          · exact (h.faithful x hx).mono halong.between.1
          · rw [List.mem_singleton.mp hx]
            exact hfaith
        · rcases h.done j hj with hrest | hdone
          · rcases List.mem_cons.mp hrest with rfl | hrest
            · refine Or.inr fun inst' hinst' => ⟨rep, ?_, ?_⟩
              · rw [hreps]
                exact List.mem_append_right _ (List.mem_singleton_self _)
              · rw [hlook, Option.some.injEq] at hinst'
                rw [hid, hinst']
            · exact Or.inl hrest
          · refine Or.inr fun inst' hinst' => ?_
            obtain ⟨rep', hrep', hid'⟩ := hdone inst' hinst'
            refine ⟨rep', ?_, hid'⟩
            rw [hreps]
            exact List.mem_append_left _ hrep'
      · refine ⟨trans_of _ h.along h'.1, fun x hx => ?_⟩
        rw [h'.2] at hx
        exact (h.faithful x hx).mono h'.1.between.1

/-- What is known of a run's reports and of its exit. -/
structure Finished (history : VenueHistory) (sdk : Sdk)
    (ids : List InstrumentId) (interval : String) (start stop : DateTime)
    (failing : Bool) (w : World BarTables Session) : Prop where
  faithful : ∀ rep ∈ w.mem.reports,
    Faithful history interval start stop rep w.disk
  complete : failing = false →
    (∀ rep ∈ w.mem.reports, rep.failedWindows = []) ∧
    ∀ listed, sdk.instruments = .ok listed → ∀ iid ∈ ids,
      (∃ inst ∈ listed, inst.instrumentId = iid) →
        ∃ rep ∈ w.mem.reports, rep.instrumentId = iid

theorem main_spec {ids : List InstrumentId} {start stop : DateTime}
    (hs : sdk.Complete history stop) {w₀ : World BarTables Session}
    (hnone : w₀.mem.reports = []) :
    Prog.wp (main sdk ids interval start stop)
      (fun failing w' => World.Along (Adds sdk stop) w₀ w' ∧
        Finished history sdk ids interval start stop failing w')
      (fun _ w' => World.Along (Adds sdk stop) w₀ w') w₀ := by
  unfold main
  rw [Prog.wp_bind]
  cases hlisted : sdk.instruments with
  | error e => exact refl_of _ w₀
  | ok listed =>
      rw [Prog.wp_ofExcept_ok]
      dsimp only
      rw [Prog.wp_catching, Prog.wp_bind]
      refine Prog.wp_mono (backfillInstruments_spec hs hnone)
        (fun _ w₁ h₁ => ?_) fun _ w₁ h₁ =>
          ⟨h₁.1, h₁.2, fun h => by cases h⟩
      rw [Prog.wp_bind, Prog.wp_mem, Prog.wp_pure]
      refine ⟨h₁.along, h₁.faithful, fun hexit => ⟨fun rep hrep => ?_,
        fun listed' hl iid hid hinst => ?_⟩⟩
      · rw [List.any_eq_false] at hexit
        simpa using hexit rep hrep
      · rw [hlisted, Except.ok.injEq] at hl
        subst hl
        obtain ⟨inst, hinst, hiid⟩ := hinst
        rcases h₁.done iid hid with hrest | hdone
        · cases hrest
        · -- the dictionary has an instrument for each id on the list
          have hlast : ((listed.filter fun x => x.instrumentId = iid).getLast?
              ).isSome := by
            rw [List.getLast?_isSome]
            exact List.ne_nil_of_mem
              (List.mem_filter.mpr ⟨hinst, decide_eq_true hiid⟩)
          obtain ⟨last, hlast⟩ := Option.isSome_iff_exists.mp hlast
          have hmem := List.mem_filter.mp (List.mem_of_getLast? hlast)
          obtain ⟨rep, hrep, hrepid⟩ := hdone last (by
            rw [KeyedTable.lookup_dictOf, hlast]
            rfl)
          exact ⟨rep, hrep, hrepid.trans (of_decide_eq_true hmem.2)⟩

/-! ## Runs after runs -/

/-- The rows of the native source are on record. -/
structure Agrees (history : VenueHistory) (db : BarTables) : Prop where
  funding : ∀ f ∈ db.fundingRates, f.sourceType = .polymarketRest →
    f.raw ∈ history.funding f.instrumentId
  candles : ∀ c ∈ db.candles, c.sourceType = .polymarketRest →
    c.raw ∈ history.candles c.instrumentId c.interval

theorem Agrees.adds (h : Agrees history db) (hs : sdk.Serves history now)
    (ha : Adds sdk now db db') : Agrees history db' := by
  obtain ⟨fs, hf, hfs⟩ := ha.funding
  obtain ⟨cs, hc, hcs⟩ := ha.candles
  refine ⟨fun f hmem hsource => ?_, fun c hmem hsource => ?_⟩
  · rw [hf] at hmem
    rcases List.mem_append.mp hmem with hmem | hmem
    · exact h.funding f hmem hsource
    · exact (hfs f hmem).recorded hs
  · rw [hc] at hmem
    rcases List.mem_append.mp hmem with hmem | hmem
    · exact h.candles c hmem hsource
    · exact (hcs c hmem).recorded hs

/-- A run from one database to another: finished, failed or stopped anywhere
between two commits. -/
def Night (history : VenueHistory) (db db' : BarTables) : Prop :=
  ∃ (sdk : Sdk) (ids : List InstrumentId) (interval : String)
    (start stop : DateTime) (calls : ℕ), sdk.Serves history stop ∧
    db' ∈ (main sdk ids interval start stop ⟨⟨calls, []⟩, db, []⟩).2.moments

/-- A record without rows. No SDK leaves out any of them. -/
def noHistory : VenueHistory := ⟨fun _ => [], fun _ _ => [], by simp, by simp⟩

theorem noHistory_complete (sdk : Sdk) (now : DateTime) :
    sdk.Complete noHistory now where
  funding_all := fun _ _ hr => absurd hr List.not_mem_nil
  candles_all := fun _ _ hc => absurd hc List.not_mem_nil

theorem main_along (sdk : Sdk) (ids : List InstrumentId) (interval : String)
    (start stop : DateTime) (calls : ℕ) :
    World.Along (Adds sdk stop) ⟨⟨calls, []⟩, db, []⟩
      (main sdk ids interval start stop ⟨⟨calls, []⟩, db, []⟩).2 :=
  Prog.wp_state.mp (Prog.wp_mono (main_spec (noHistory_complete sdk stop) rfl)
    (fun _ _ h => h.1) fun _ _ h => h)

/-- Whatever a run is answered and wherever it is stopped: what was stored
before it stays as and where it was, what is new was answered, no key is there
twice that was not, and a candle is stored only once its interval has ended. -/
theorem main_adds {ids : List InstrumentId} {start stop : DateTime}
    {calls : ℕ} (hmoment : db' ∈ (main sdk ids interval start stop
      ⟨⟨calls, []⟩, db, []⟩).2.moments) :
    Adds sdk stop db db' := by
  rcases (main_along sdk ids interval start stop calls).between.2 db'
    hmoment with hold | hbetween
  · rw [World.moments, List.nil_append, List.mem_singleton] at hold
    rw [hold]
    exact refl_of _ db
  · exact hbetween.1

theorem Agrees.night (h : Agrees history db) (hn : Night history db db') :
    Agrees history db' := by
  obtain ⟨sdk, ids, interval, start, stop, calls, hs, hmem⟩ := hn
  rcases (main_along sdk ids interval start stop calls).between.2 db' hmem
    with hold | hbetween
  · rw [World.moments, List.nil_append, List.mem_singleton] at hold
    rw [hold]
    exact h
  · exact h.adds hs hbetween.1

theorem Agrees.nights {db₀ : BarTables} (h : Agrees history db₀)
    (hn : Relation.ReflTransGen (Night history) db₀ db) :
    Agrees history db := by
  induction hn with
  | refl => exact h
  | tail _ hnight ih => exact ih.night hnight

/-- At a time, the rows stored of an instrument are those on record. -/
structure OnRecord (history : VenueHistory) (now : DateTime)
    (iid : InstrumentId) (interval : String) (t : DateTime)
    (db : BarTables) : Prop where
  funding : ∀ raw : RawFunding, raw.timestamp = t →
    (raw ∈ history.funding iid ↔ ∃ f ∈ db.fundingRates,
      f.instrumentId = iid ∧ f.sourceType = .polymarketRest ∧ f.raw = raw)
  candles : ∀ raw : RawCandle, raw.timestamp = t →
    IntervalEnded now interval t →
    (raw ∈ history.candles iid interval ↔ ∃ c ∈ db.candles,
      c.instrumentId = iid ∧ c.interval = interval ∧
        c.sourceType = .polymarketRest ∧ c.raw = raw)

theorem Covers.onRecord {win : Window} {t : DateTime}
    (h : Covers history now iid interval win db) (ha : Agrees history db)
    (h₁ : win.1 ≤ t) (h₂ : t < win.2) :
    OnRecord history now iid interval t db := by
  refine ⟨fun raw ht => ⟨fun hraw => ?_, ?_⟩,
    fun raw ht hended => ⟨fun hraw => ?_, ?_⟩⟩
  · obtain ⟨f, hf, hkey⟩ := List.mem_map.mp
      (h.funding raw hraw (ht ▸ h₁) (ht ▸ h₂))
    obtain ⟨hid, hsource, hts⟩ : f.instrumentId = iid ∧
        f.sourceType = .polymarketRest ∧ f.exchangeTs = raw.timestamp := by
      simpa [FundingObservation.key] using hkey
    refine ⟨f, hf, hid, hsource, ?_⟩
    have hfraw := ha.funding f hf hsource
    rw [hid] at hfraw
    exact history.funding_one iid _ hfraw _ hraw hts
  · rintro ⟨f, hf, hid, hsource, rfl⟩
    rw [← hid]
    exact ha.funding f hf hsource
  · subst ht
    obtain ⟨c, hc, hkey⟩ := List.mem_map.mp (h.candles raw hraw h₁ h₂ hended)
    obtain ⟨hid, hint, hsource, hts⟩ : c.instrumentId = iid ∧
        c.interval = interval ∧ c.sourceType = .polymarketRest ∧
          c.openTs = raw.timestamp := by
      simpa [Candle.key] using hkey
    refine ⟨c, hc, hid, hint, hsource, ?_⟩
    have hcraw := ha.candles c hc hsource
    rw [hid, hint] at hcraw
    exact history.candles_one iid interval _ hcraw _ hraw hts
  · rintro ⟨c, hc, hid, hint, hsource, rfl⟩
    rw [← hid, ← hint]
    exact ha.candles c hc hsource

/-- After any number of runs, each finished, failed or stopped anywhere, a
run's report is right about the stored rows: at every time of the span that is
in no window it lists as failed, they are those of the venue's history. A run
that exits with 0 leaves them so over the whole span, for every configured
instrument that the venue lists. -/
theorem nights_converge {db₀ : BarTables} {ids : List InstrumentId}
    {start stop : DateTime} {calls : ℕ} {failing : Bool}
    (h₀ : Agrees history db₀)
    (hpast : Relation.ReflTransGen (Night history) db₀ db)
    (hs : sdk.Serves history stop)
    (hrun : main sdk ids interval start stop ⟨⟨calls, []⟩, db, []⟩ =
      (.ok failing, w')) :
    (∀ rep ∈ w'.mem.reports, ∀ t : DateTime, start ≤ t → t < stop →
      (∀ win ∈ rep.failedWindows, ¬(win.1 ≤ t ∧ t < win.2)) →
        OnRecord history stop rep.instrumentId interval t w'.disk) ∧
    (failing = false → ∀ listed, sdk.instruments = .ok listed →
      ∀ iid ∈ ids, (∃ inst ∈ listed, inst.instrumentId = iid) →
        ∀ t : DateTime, start ≤ t → t < stop →
          OnRecord history stop iid interval t w'.disk) := by
  have hagrees : Agrees history db := h₀.nights hpast
  have hmain : Prog.wp (main sdk ids interval start stop)
      (fun failing w' => World.Along (Adds sdk stop)
        ⟨⟨calls, []⟩, db, []⟩ w' ∧
          Finished history sdk ids interval start stop failing w')
      (fun _ w' => World.Along (Adds sdk stop) ⟨⟨calls, []⟩, db, []⟩ w')
      ⟨⟨calls, []⟩, db, []⟩ := main_spec hs.toComplete rfl
  rw [Prog.wp_of_ok hrun] at hmain
  obtain ⟨halong, hfinished⟩ := hmain
  have hafter : Agrees history w'.disk := hagrees.adds hs halong.between.1
  have hreport : ∀ rep ∈ w'.mem.reports, ∀ t : DateTime, start ≤ t →
      t < stop → (∀ win ∈ rep.failedWindows, ¬(win.1 ≤ t ∧ t < win.2)) →
        OnRecord history stop rep.instrumentId interval t w'.disk := by
    intro rep hrep t h₁ h₂ hnot
    obtain ⟨win, hwin, hin⟩ := windows_covers h₁ h₂
    exact (hfinished.faithful rep hrep win hwin fun hfailed =>
      hnot win hfailed hin).onRecord hafter hin.1 hin.2
  refine ⟨hreport, fun hexit listed hlisted iid hid hinst t h₁ h₂ => ?_⟩
  obtain ⟨hnofail, hall⟩ := hfinished.complete hexit
  obtain ⟨rep, hrep, hiid⟩ := hall listed hlisted iid hid hinst
  rw [← hiid]
  refine hreport rep hrep t h₁ h₂ fun win hwin => ?_
  rw [hnofail rep hrep] at hwin
  cases hwin

/-- A venue with two hours on record. -/
def twoHours : VenueHistory where
  funding := fun _ => [⟨1 / 1000, 0⟩, ⟨2 / 1000, hour⟩]
  candles := fun _ _ =>
    [⟨0, 100, 101, 99, 100, 7, 3⟩, ⟨hour, 100, 105, 100, 104, 9, 4⟩]
  funding_one := by
    intro _ x hx y hy h
    simp only [List.mem_cons, List.not_mem_nil, or_false] at hx hy
    rcases hx with rfl | rfl <;> rcases hy with rfl | rfl <;>
      first | rfl | cases h
  candles_one := by
    intro _ _ x hx y hy h
    simp only [List.mem_cons, List.not_mem_nil, or_false] at hx hy
    rcases hx with rfl | rfl <;> rcases hy with rfl | rfl <;>
      first | rfl | cases h

/-- An SDK that serves it in two pages, after a first call that times out. -/
def twoHoursSdk : Sdk where
  instruments := .ok [⟨1, "BTC-PERP", "1h"⟩]
  funding := fun n _ _ _ =>
    if n = 0 then .fails (.transient "TimeoutError")
    else .more [⟨1 / 1000, 0⟩] (.last [⟨2 / 1000, hour⟩])
  candles := fun _ iid interval _ _ => .last (twoHours.candles iid interval)
  clock := fun n => 2 * hour + n

theorem twoHoursSdk_rows {n : ℕ} {iid : InstrumentId} {start stop : DateTime}
    {rows : List RawFunding}
    (h : (twoHoursSdk.funding n iid start stop).rows = .ok rows) :
    rows = twoHours.funding iid := by
  unfold twoHoursSdk at h
  dsimp only at h
  split at h
  · cases h
  · exact (Except.ok.inj h).symm

theorem twoHoursSdk_serves (now : DateTime) :
    twoHoursSdk.Serves twoHours now where
  funding_mem := fun h r hr => by rwa [twoHoursSdk_rows h] at hr
  funding_all := fun h r hr _ _ => by rwa [twoHoursSdk_rows h]
  candles_mem := fun h c hc _ => by rwa [← Except.ok.inj h] at hc
  candles_all := fun h c hc _ _ _ => by rwa [← Except.ok.inj h]

/-- What a first run leaves that is stopped after its first row. -/
def stoppedNight : BarTables :=
  ⟨.empty, [], [fundingFromRest 1 (2 * hour + 1) ⟨1 / 1000, 0⟩]⟩

theorem stoppedNight_night : Night twoHours ⟨.empty, [], []⟩ stoppedNight :=
  ⟨twoHoursSdk, [1], "1h", 0, 2 * hour, 0, twoHoursSdk_serves _,
    List.mem_of_getElem? (show (main twoHoursSdk [1] "1h" 0 (2 * hour)
      ⟨⟨0, []⟩, ⟨.empty, [], []⟩, []⟩).2.moments[1]? = some stoppedNight
        from rfl)⟩

/-- The run after that one exits with 0, and both tables are complete. -/
theorem nights_converge_twoHours :
    ∃ w', main twoHoursSdk [1] "1h" 0 (2 * hour)
        ⟨⟨0, []⟩, stoppedNight, []⟩ = (.ok false, w') ∧
      ∀ t : DateTime, 0 ≤ t → t < 2 * hour →
        OnRecord twoHours (2 * hour) 1 "1h" t w'.disk := by
  have hexit : (main twoHoursSdk [1] "1h" 0 (2 * hour)
      ⟨⟨0, []⟩, stoppedNight, []⟩).1 = .ok false := by decide +kernel
  refine ⟨_, Prod.ext hexit rfl, fun t h₁ h₂ => ?_⟩
  have hempty : Agrees twoHours ⟨.empty, [], []⟩ := ⟨by simp, by simp⟩
  exact (nights_converge hempty (.single stoppedNight_night)
    (twoHoursSdk_serves _) (Prod.ext hexit rfl)).2 rfl
    [⟨1, "BTC-PERP", "1h"⟩] rfl 1 (by simp)
    ⟨⟨1, "BTC-PERP", "1h"⟩, by simp, rfl⟩ t h₁ h₂

/-- An SDK that answers the first rate, has no candles at first, and then
answers that rate otherwise and one candle of two. -/
def revisingSdk : Sdk where
  instruments := .ok [⟨1, "BTC-PERP", "1h"⟩]
  funding := fun n _ _ _ =>
    if n = 0 then .last [⟨1 / 1000, 0⟩]
    else .last [⟨9 / 1000, 0⟩, ⟨2 / 1000, hour⟩]
  candles := fun n _ _ _ _ =>
    if n = 1 then .fails (.transient "TimeoutError")
    else .last [⟨0, 100, 101, 99, 100, 7, 3⟩]
  clock := fun n => 2 * hour + n

/-- The four inserts are committed one by one, and the first rate stays as it
was answered first. -/
theorem main_adds_revising :
    (main revisingSdk [1] "1h" 0 (2 * hour)
        ⟨⟨0, []⟩, ⟨.empty, [], []⟩, []⟩).2.disk.fundingRates.map
          FundingObservation.raw = [⟨1 / 1000, 0⟩, ⟨2 / 1000, hour⟩] ∧
      (main revisingSdk [1] "1h" 0 (2 * hour)
        ⟨⟨0, []⟩, ⟨.empty, [], []⟩, []⟩).2.past.length = 4 ∧
      ∀ d ∈ (main revisingSdk [1] "1h" 0 (2 * hour)
          ⟨⟨0, []⟩, ⟨.empty, [], []⟩, []⟩).2.moments,
        Adds revisingSdk (2 * hour) ⟨.empty, [], []⟩ d :=
  ⟨by decide +kernel, by decide +kernel, fun _ hd => main_adds hd⟩

end Backfill

end Polyperps
