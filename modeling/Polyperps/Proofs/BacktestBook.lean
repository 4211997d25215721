import Polyperps.Proofs.LookAhead

/-!
# The backtest's books

What an iteration does to the cash, the position and the result. Every change
of the cash is in one of two outputs: what a closing leg realises is in
`trade_pnls`, costs and funding are cash deltas of ledger rows. So the cash is
the sum of the two, and the equity of a mark adds the open position's value.

The book divides by the entry of a position it carries and reads closes it
does not check. Both are there: a trade that opens sets an entry between
positive prices, and a position goes into the next iteration only if that
iteration's bar has a close.
-/

namespace Polyperps

open ProgramLogic

/-- The prices of a bar that are there are positive. -/
structure Bar.Priced (bar : Bar) : Prop where
  openPrice : ∀ x ∈ bar.openPrice, 0 < x
  close : ∀ x ∈ bar.close, 0 < x

/-- A position is carried at a positive entry. -/
def Book.Carries (book : Book) : Prop := book.position ≠ 0 → 0 < book.entry

/-- A position can be valued by its entry. -/
def Book.Entered (book : Book) : Prop := book.position ≠ 0 → book.entry ≠ 0

theorem Book.Carries.entered {book : Book} (h : book.Carries) : book.Entered :=
  fun hne => (h hne).ne'

namespace Backtest

variable {S : Type} {p : BacktestParams S} {s s' s'' : BacktestState S}
  {bar nxt : Bar} {price : Option Decimal} {target : Decimal}

/-- What an iteration books before its mark: the cash is changed by what is
realised and by the cash deltas of new ledger rows. -/
structure Booked (s s' : BacktestState S) : Prop where
  equity : s'.res.equity = s.res.equity
  returns : s'.res.returns = s.res.returns
  lastEquity : s'.lastEquity = s.lastEquity
  cash : ∃ pnls rows, s'.res.tradePnls = s.res.tradePnls ++ pnls ∧
    s'.res.ledger = s.res.ledger ++ rows ∧
    s'.book.cash = s.book.cash + pnls.sum + (rows.map LedgerRow.cashDelta).sum ∧
    ∀ row ∈ rows, row.kind ≠ .mark

/-- Nothing is booked where the cash and the outputs stay. -/
theorem Booked.same (hres : s'.res.equity = s.res.equity)
    (hreturns : s'.res.returns = s.res.returns)
    (hlast : s'.lastEquity = s.lastEquity)
    (hpnls : s'.res.tradePnls = s.res.tradePnls)
    (hledger : s'.res.ledger = s.res.ledger)
    (hcash : s'.book.cash = s.book.cash) : Booked s s' :=
  ⟨hres, hreturns, hlast, [], [], by simp [hpnls], by simp [hledger],
    by simp [hcash], by simp⟩

theorem Booked.refl (s : BacktestState S) : Booked s s :=
  .same rfl rfl rfl rfl rfl rfl

theorem Booked.trans (h : Booked s s') (h' : Booked s' s'') :
    Booked s s'' := by
  obtain ⟨pnls, rows, hp, hr, hc, hk⟩ := h.cash
  obtain ⟨pnls', rows', hp', hr', hc', hk'⟩ := h'.cash
  refine ⟨h'.equity.trans h.equity, h'.returns.trans h.returns,
    h'.lastEquity.trans h.lastEquity, pnls ++ pnls', rows ++ rows', ?_, ?_, ?_,
    ?_⟩
  · rw [hp', hp, List.append_assoc]
  · rw [hr', hr, List.append_assoc]
  · rw [hc', hc, List.map_append, List.sum_append, List.sum_append]
    ring
  · intro row hrow
    rcases List.mem_append.mp hrow with hrow | hrow
    · exact hk row hrow
    · exact hk' row hrow

/-- The price a trade can be made at: any to close at, a positive one to open
at. -/
def Tradable (target : Decimal) (price : Option Decimal) : Prop :=
  ∃ x, price = some x ∧ (target = 0 ∨ 0 < x)

/-! ## The arithmetic of a trade -/

theorem closeLeg_returns {book : Book} {x : Decimal} (hb : book.Carries)
    (hx : target = 0 ∨ 0 < x) (hne : target - book.position ≠ 0) :
    ∃ realised entry, closeLeg p book target x = .ok (realised, entry) ∧
      (target ≠ 0 → 0 < entry) := by
  unfold closeLeg
  split
  · next h =>
    rw [divide_of_ne_zero (hb h.1).ne']
    exact ⟨_, _, rfl, fun ht => absurd h.2 ht⟩
  split
  · next h =>
    rw [divide_of_ne_zero (hb h.1).ne']
    exact ⟨_, _, rfl, fun _ => hb h.1⟩
  next h _ =>
  have ht : target ≠ 0 := by
    rintro rfl
    refine h ⟨fun h0 => hne ?_, rfl⟩
    rw [h0, sub_zero]
  rw [divide_of_ne_zero (abs_pos.mpr ht).ne']
  refine ⟨_, _, rfl, fun _ => ?_⟩
  have hadded : 0 < |target - book.position| * x :=
    mul_pos (abs_pos.mpr hne) (hx.resolve_left ht)
  have hkept : 0 ≤ |book.position| * book.entry := by
    by_cases h0 : book.position = 0
    · rw [h0, abs_zero, zero_mul]
    · exact mul_nonneg (abs_nonneg _) (hb h0).le
  exact div_pos (by linarith) (abs_pos.mpr ht)

/-- A leg's value, nothing where the notional is. -/
theorem legValue_returns {book : Book} {x : Decimal} (hb : book.Entered)
    (hx : target = 0 ∨ 0 < x) (hne : target - book.position ≠ 0) :
    ∃ value qty, legValue p book target x = .ok (value, qty) ∧
      (p.notional = 0 → value = 0) := by
  unfold legValue units
  dsimp only
  split
  · next h =>
    rw [divide_of_ne_zero (hb h.1), divide_of_ne_zero (hb h.1)]
    refine ⟨_, _, rfl, fun hn => ?_⟩
    rw [hn, mul_zero, zero_mul, zero_div]
  · next h =>
    have hpos : x ≠ 0 := by
      rcases hx with rfl | hx
      · have h0 : book.position ≠ 0 := by
          intro h0
          rw [h0, sub_zero] at hne
          exact hne rfl
        exact absurd ⟨h0, by rw [abs_zero]; exact abs_pos.mpr h0⟩ h
      · exact hx.ne'
    rw [divide_of_ne_zero hpos]
    refine ⟨_, _, rfl, fun hn => ?_⟩
    rw [hn, mul_zero]

theorem fillCost_returns {value notional spreadBps rate impactBps : Decimal}
    (h : notional = 0 → value = 0) :
    ∃ cost, fillCost value notional spreadBps rate impactBps = .ok cost := by
  by_cases hn : notional = 0
  · rw [h hn]
    exact ⟨0, rfl⟩
  · exact fillCost_ok hn spreadBps rate impactBps

/-- The equity of a book whose position can be valued. -/
theorem equityAt_entered {book : Book} {notional x : Decimal}
    (hb : book.Entered) : equityAt book notional (some x) =
      .ok (book.cash + book.position * notional * (x / book.entry - 1)) := by
  dsimp only [equityAt, unrealised]
  split
  · next h =>
    rw [h, zero_mul, zero_mul]
    rfl
  · next h =>
    rw [divide_of_ne_zero (hb h)]
    rfl

theorem entered_of_equityAt {book : Book} {notional x eq : Decimal}
    (h : equityAt book notional (some x) = .ok eq) : book.Entered := by
  intro hne he
  dsimp only [equityAt, unrealised] at h
  rw [if_neg hne, divide, if_pos he] at h
  cases h

theorem equityAt_returns {book : Book} {notional : Decimal}
    (hb : book.Entered) : ∃ eq, equityAt book notional price = .ok eq := by
  cases price with
  | none => exact ⟨_, rfl⟩
  | some x => exact ⟨_, equityAt_entered hb⟩

/-! ## A trade -/

/-- What a trade leaves. -/
structure Traded (target : Decimal) (price : Option Decimal)
    (s s' : BacktestState S) : Prop where
  booked : Booked s s'
  position : s'.book.position = target
  carries : s.book.Carries → Tradable target price → s'.book.Carries

/-- A ledger row, which raises where the position's entry is missing. -/
theorem logRow_spec {ts : DateTime} {kind : LedgerKind} {delta : Decimal}
    {note : String} {Q : BacktestState S → Prop}
    (h : ∀ row : LedgerRow, row.kind = kind → row.cashDelta = delta →
      row.position = s.book.position → row.price = price →
      Q { s with res := { s.res with ledger := s.res.ledger ++ [row] } }) :
    Prog.wp (logRow p ts kind price delta note) (fun _ s' => Q s')
      (fun _ _ => ¬ s.book.Entered) s := by
  unfold logRow onResult
  rw [Prog.wp_bind, Prog.wp_get, Prog.wp_bind]
  cases heq : equityAt s.book p.notional price with
  | error e =>
      intro hb
      obtain ⟨eq, hok⟩ : ∃ eq, equityAt s.book p.notional price = .ok eq :=
        equityAt_returns hb
      rw [hok] at heq
      cases heq
  | ok eq =>
      rw [Prog.wp_ofExcept_ok, Prog.wp_modify]
      exact h _ rfl rfl rfl rfl

/-- What follows the closing part of a trade on `book`: the costs, the new
position and the rows. -/
def chargeTrade (p : BacktestParams S) (book : Book) (target x entry : Decimal)
    (spreadBps : Decimal) (ts : DateTime) (kind : LedgerKind)
    (note : String) : M S Unit := do
  let (value, qty) ← Prog.ofExcept (legValue p book target x)
  let cost ← Prog.ofExcept
    (fillCost value p.notional spreadBps p.takerFeeRate p.impactBps)
  onBook fun b =>
    { b with cash := b.cash - cost, position := target, entry }
  onResult fun res =>
    { res with
      fillNotionals := res.fillNotionals ++ [value]
      trades := res.trades ++
        [{ ts, side := if 0 < target - book.position then .buy else .sell
           quantity := qty }]
      fills := res.fills + 1 }
  logRow p ts kind (some x) (-cost) note
  if target = 0 then do
    onBook fun b => { b with funding := 0 }
    tellFlat p
  else pure ()

theorem chargeTrade_spec {s₀ : BacktestState S} {x entry spreadBps : Decimal}
    {ts : DateTime} {kind : LedgerKind} {note : String}
    (hkind : kind ≠ .mark) (hne : target - s₀.book.position ≠ 0)
    (hs : Booked s₀ s)
    (hentry : s₀.book.Carries → Tradable target (some x) →
      target ≠ 0 → 0 < entry) :
    Prog.wp (chargeTrade p s₀.book target x entry spreadBps ts kind note)
      (fun _ s' => Traded target (some x) s₀ s')
      (fun _ _ => ¬ (s₀.book.Carries ∧ Tradable target (some x))) s := by
  have hprice : Tradable target (some x) → target = 0 ∨ 0 < x := by
    rintro ⟨y, hy, hx⟩
    obtain rfl := Option.some.inj hy
    exact hx
  unfold chargeTrade
  rw [Prog.wp_bind]
  cases hleg : legValue p s₀.book target x with
  | error e =>
      rintro ⟨hb, ht⟩
      obtain ⟨_, _, hok, -⟩ := legValue_returns (p := p) hb.entered
        (hprice ht) hne
      rw [hok] at hleg
      cases hleg
  | ok leg =>
  obtain ⟨value, qty⟩ := leg
  rw [Prog.wp_ofExcept_ok]
  dsimp only
  rw [Prog.wp_bind]
  cases hcost : fillCost value p.notional spreadBps p.takerFeeRate
      p.impactBps with
  | error e =>
      rintro ⟨hb, ht⟩
      obtain ⟨_, _, hok, hzero⟩ := legValue_returns (p := p) hb.entered
        (hprice ht) hne
      rw [hok] at hleg
      obtain ⟨rfl, -⟩ := Prod.mk.inj (Except.ok.inj hleg)
      obtain ⟨cost, hc⟩ : ∃ cost, fillCost _ p.notional spreadBps
          p.takerFeeRate p.impactBps = .ok cost := fillCost_returns hzero
      rw [hc] at hcost
      cases hcost
  | ok cost =>
  rw [Prog.wp_ofExcept_ok, Prog.wp_bind, onBook, Prog.wp_modify, Prog.wp_bind,
    onResult, Prog.wp_modify, Prog.wp_bind]
  refine Prog.wp_mono (logRow_spec (Q := fun s' => Booked s₀ s' ∧
    s'.book.position = target ∧ s'.book.entry = entry) ?_)
    (fun _ s' h => ?_)
    fun _ _ hb ⟨hb₀, ht⟩ => hb fun hne => (hentry hb₀ ht hne).ne'
  · intro row hrow hdelta _ _
    obtain ⟨pnls, rows, hp, hr, hc, hk⟩ := hs.cash
    refine ⟨⟨hs.equity, hs.returns, hs.lastEquity, pnls, rows ++ [row], hp, ?_,
      ?_, ?_⟩, rfl, rfl⟩
    · show s.res.ledger ++ [row] = _
      rw [hr, List.append_assoc]
    · show s.book.cash - cost = _
      rw [hc, List.map_append, List.sum_append, List.map_singleton,
        List.sum_singleton, hdelta]
      ring
    · intro row' hrow'
      rcases List.mem_append.mp hrow' with hrow' | hrow'
      · exact hk row' hrow'
      · rw [List.mem_singleton.mp hrow', hrow]
        exact hkind
  · obtain ⟨hbooked, hposition, hentry'⟩ := h
    have hcarries : s₀.book.Carries → Tradable target (some x) →
        s'.book.Carries := by
      intro hb ht hne'
      rw [hposition] at hne'
      rw [hentry']
      exact hentry hb ht hne'
    rw [Prog.wp_ite]
    split
    · rw [Prog.wp_bind, onBook, Prog.wp_modify, tellFlat, Prog.wp_modify]
      exact ⟨⟨hbooked.equity, hbooked.returns, hbooked.lastEquity,
        hbooked.cash⟩, hposition, hcarries⟩
    · exact ⟨hbooked, hposition, hcarries⟩

theorem tradeTo_spec {spreadBps : Decimal} {ts : DateTime}
    {kind : LedgerKind} {note : String} (hkind : kind ≠ .mark) :
    Prog.wp (tradeTo p target price spreadBps ts kind note)
      (fun _ s' => Traded target price s s')
      (fun _ _ => ¬ (s.book.Carries ∧ Tradable target price)) s := by
  unfold tradeTo
  rw [Prog.wp_bind, Prog.wp_get]
  dsimp only
  rw [Prog.wp_ite]
  split
  · next h =>
    exact ⟨.refl s, by linarith, fun hb _ => hb⟩
  next hne =>
  rw [Prog.wp_bind]
  cases price with
  | none =>
      rintro ⟨-, x, hx, -⟩
      cases hx
  | some x =>
  have hprice : Tradable target (some x) → target = 0 ∨ 0 < x := by
    rintro ⟨y, hy, hx⟩
    obtain rfl := Option.some.inj hy
    exact hx
  rw [required, Prog.wp_ofExcept_ok, Prog.wp_bind]
  cases hclose : closeLeg p s.book target x with
  | error e =>
      rintro ⟨hb, ht⟩
      obtain ⟨_, _, hok, -⟩ := closeLeg_returns (p := p) hb (hprice ht) hne
      rw [hok] at hclose
      cases hclose
  | ok leg =>
  obtain ⟨realised, entry⟩ := leg
  have hentry : s.book.Carries → Tradable target (some x) → target ≠ 0 →
      0 < entry := by
    intro hb ht
    obtain ⟨_, _, hok, hpos⟩ := closeLeg_returns (p := p) hb (hprice ht) hne
    rw [hok] at hclose
    obtain ⟨-, rfl⟩ := Prod.mk.inj (Except.ok.inj hclose)
    exact hpos
  rw [Prog.wp_ofExcept_ok]
  cases realised with
  | none => exact chargeTrade_spec hkind hne (.refl s) hentry
  | some pnl =>
      dsimp only
      rw [Prog.wp_bind, onBook, Prog.wp_modify, Prog.wp_bind, onResult,
        Prog.wp_modify]
      refine chargeTrade_spec hkind hne ⟨rfl, rfl, rfl, [pnl], [], rfl, ?_, ?_,
        ?_⟩ hentry
      · simp
      · simp
      · simp

/-! ## The phases -/

/-- What a phase that opens nothing leaves: the position it found, or none. -/
structure Held (s s' : BacktestState S) : Prop where
  booked : Booked s s'
  book : (s'.book.position = s.book.position ∧ s'.book.entry = s.book.entry) ∨
    s'.book.position = 0

theorem Held.refl (s : BacktestState S) : Held s s :=
  ⟨.refl s, .inl ⟨rfl, rfl⟩⟩

theorem Held.trans (h : Held s s') (h' : Held s' s'') : Held s s'' := by
  refine ⟨h.booked.trans h'.booked, ?_⟩
  rcases h'.book with ⟨hp, he⟩ | hp
  · rw [hp, he]
    exact h.book
  · exact .inr hp

theorem Held.carries (h : Held s s') (hb : s.book.Carries) :
    s'.book.Carries := by
  intro hne
  rcases h.book with ⟨hp, he⟩ | hp
  · rw [he]
    exact hb (hp ▸ hne)
  · exact absurd hp hne

theorem Held.entered (h : Held s s') (hb : s.book.Entered) :
    s'.book.Entered := by
  intro hne
  rcases h.book with ⟨hp, he⟩ | hp
  · rw [he]
    exact hb (hp ▸ hne)
  · exact absurd hp hne

/-- Closing the position, at whatever price. -/
theorem exit_held {x spreadBps : Decimal} {ts : DateTime} {kind : LedgerKind}
    {note : String} (hkind : kind ≠ .mark) :
    Prog.wp (tradeTo p 0 (some x) spreadBps ts kind note)
      (fun _ s' => Held s s' ∧ s'.book.position = 0)
      (fun _ _ => ¬ s.book.Carries) s := by
  have ht : Tradable 0 (some x) := ⟨x, rfl, .inl rfl⟩
  refine Prog.wp_mono (tradeTo_spec hkind) (fun _ s' h => ?_)
    fun _ _ h hb => h ⟨hb, ht⟩
  exact ⟨⟨h.booked, .inr h.position⟩, h.position⟩

theorem stopPhase_held :
    Prog.wp (stopPhase p bar) (fun _ s' => Held s s')
      (fun _ _ => ¬ s.book.Carries) s := by
  unfold stopPhase
  rw [Prog.wp_bind, Prog.wp_get]
  split
  next high low _ _ =>
    rw [Prog.wp_ite]
    split
    · exact .refl s
    · dsimp only
      rw [Prog.wp_ite]
      have hstop : LedgerKind.stop ≠ .mark := nofun
      by_cases hhit : if decide (0 < s.book.position) = true
          then low ≤ stopPrice (decide (0 < s.book.position)) s.book.entry
            limitsDefault
          else stopPrice (decide (0 < s.book.position)) s.book.entry
            limitsDefault ≤ high
      · rw [if_pos hhit]
        exact Prog.wp_mono (exit_held hstop) (fun _ _ h => h.1)
          fun _ _ h => h
      · rw [if_neg hhit]
        exact .refl s
  · exact .refl s

theorem fundingPhase_held :
    Prog.wp (fundingPhase p bar) (fun _ s' => Held s s')
      (fun _ _ => ¬ s.book.Carries) s := by
  unfold fundingPhase
  rw [Prog.wp_bind, Prog.wp_get]
  split
  next rate close _ _ =>
    rw [Prog.wp_ite]
    split
    · exact .refl s
    next hne =>
    rw [Prog.wp_bind]
    cases hratio : divide close s.book.entry with
    | error e =>
      intro hb
      rw [divide_of_ne_zero (hb hne).ne'] at hratio
      cases hratio
    | ok ratio =>
      rw [Prog.wp_ofExcept_ok]
      dsimp only
      rw [Prog.wp_bind, onBook, Prog.wp_modify]
      refine Prog.wp_mono (logRow_spec (Q := Held s) ?_) (fun _ _ h => h)
        fun _ _ h hb => h hb.entered
      intro row hkind hdelta _ _
      refine ⟨⟨rfl, rfl, rfl, [], [row], by simp, rfl, ?_, ?_⟩,
        .inl ⟨rfl, rfl⟩⟩
      · simp [hdelta]
      · intro row' hrow
        rw [List.mem_singleton.mp hrow, hkind]
        decide
  · exact .refl s

/-- A bar with a close is left flat. -/
theorem gapPhase_held :
    Prog.wp (gapPhase p bar nxt)
      (fun _ s' => Held s s' ∧ (bar.close.isSome → s'.book.position = 0))
      (fun _ _ => ¬ s.book.Carries) s := by
  unfold gapPhase
  rw [Prog.wp_bind, Prog.wp_get]
  cases bar.close with
  | none => exact ⟨.refl s, nofun⟩
  | some close =>
      dsimp only
      rw [Prog.wp_ite]
      split
      · next h => exact ⟨.refl s, fun _ => h⟩
      · exact Prog.wp_mono (exit_held nofun)
          (fun _ _ h => ⟨h.1, fun _ => h.2⟩) fun _ _ h => h

/-- The close an open position is judged at is there and positive. -/
def Valued (bar : Bar) (s : BacktestState S) : Prop :=
  s.book.position ≠ 0 → ∃ x, bar.close = some x ∧ 0 < x

theorem guardPhase_held :
    Prog.wp (guardPhase p bar nxt) (fun _ s' => Held s s')
      (fun _ _ => ¬ (s.book.Carries ∧ Valued bar s)) s := by
  unfold guardPhase
  rw [Prog.wp_bind, Prog.wp_get, Prog.wp_ite]
  split
  · exact .refl s
  next hne =>
  rw [Prog.wp_bind]
  cases hclose : bar.close with
  | none =>
      rintro ⟨-, hv⟩
      obtain ⟨_, hx, -⟩ := hv hne
      rw [hclose] at hx
      cases hx
  | some close =>
  rw [required, Prog.wp_ofExcept_ok, Prog.wp_bind]
  cases hview : view s.book p.notional bar.instrumentId close with
  | error e =>
      rintro ⟨hb, -⟩
      unfold view at hview
      rw [divide_of_ne_zero (hb hne).ne'] at hview
      cases hview
  | ok v =>
  rw [Prog.wp_ofExcept_ok, Prog.wp_bind]
  cases hcheck : checkOpen v close limitsDefault with
  | error e =>
      rintro ⟨-, hv⟩
      obtain ⟨_, hx, hpos⟩ := hv hne
      obtain rfl := Option.some.inj (hclose.symm.trans hx)
      unfold checkOpen at hcheck
      split at hcheck
      · cases hcheck
      · split at hcheck
        · cases hcheck
        · rw [divide_of_ne_zero hpos.ne'] at hcheck
          cases hcheck
  | ok flatten =>
  rw [Prog.wp_ofExcept_ok, Prog.wp_ite]
  split
  · exact Prog.wp_mono (exit_held nofun) (fun _ _ h => h.1)
      fun _ _ h ⟨hb, _⟩ => h hb
  · exact .refl s

/-- The minute closes are positive. -/
def PricedCloses (p : BacktestParams S) : Prop :=
  ∀ c ∈ p.minuteCloses, 0 < c.2

theorem PricedCloses.lookup (h : PricedCloses p) {k : DateTime} {x : Decimal}
    (hx : p.minuteCloses.lookup k = some x) : 0 < x := by
  obtain ⟨l, r, hlr, -⟩ := List.lookup_eq_some_iff.mp hx
  exact h (k, x) (by simp [hlr])

/-- What a decision's fill leaves. -/
structure Filled (p : BacktestParams S) (nxt : Bar)
    (s s' : BacktestState S) : Prop where
  booked : Booked s s'
  carries : nxt.Priced → PricedCloses p → s.book.Carries → s'.book.Carries

/-- A fill at a price that is positive if the data's prices are. -/
theorem fill_filled {x spreadBps : Decimal} {ts : DateTime} {note : String}
    (hs : s'.book = s.book) (hbooked : Booked s s')
    (hprice : price = some x)
    (hx : nxt.Priced → PricedCloses p → 0 < x) :
    Prog.wp (tradeTo p target price spreadBps ts .fill note)
      (fun _ s'' => Filled p nxt s s'')
      (fun _ _ => ¬ (s.book.Carries ∧ nxt.Priced ∧ PricedCloses p)) s' := by
  have ht : nxt.Priced → PricedCloses p → Tradable target price :=
    fun hn hc => ⟨x, hprice, .inr (hx hn hc)⟩
  refine Prog.wp_mono (tradeTo_spec nofun) (fun _ s'' h => ?_) ?_
  · refine ⟨hbooked.trans h.booked, fun hn hc hb => ?_⟩
    rw [← hs] at hb
    exact h.carries hb (ht hn hc)
  · rintro _ _ h ⟨hb, hn, hc⟩
    rw [← hs] at hb
    exact h ⟨hb, ht hn hc⟩

theorem fillPhase_filled :
    Prog.wp (fillPhase p bar nxt target) (fun _ s' => Filled p nxt s s')
      (fun _ _ => ¬ (s.book.Carries ∧ nxt.Priced ∧ PricedCloses p)) s := by
  unfold fillPhase
  dsimp only
  split
  · next x hx =>
    exact fill_filled rfl (.refl s) rfl fun _ hc => hc.lookup hx
  split
  · next last hlast =>
    obtain ⟨-, -, hkey, -⟩ := lastTrade_eq_some.mp hlast
    obtain ⟨x, hx⟩ := Option.ne_none_iff_exists'.mp
      (KeyedTable.mem_keys_iff.mp hkey)
    rw [Prog.wp_bind, onResult, Prog.wp_modify]
    exact fill_filled rfl (.same rfl rfl rfl rfl rfl rfl) hx
      fun _ hc => hc.lookup hx
  split
  · next x hx =>
    rw [Prog.wp_bind, onResult, Prog.wp_modify]
    exact fill_filled rfl (.same rfl rfl rfl rfl rfl rfl) rfl
      fun hn _ => hn.openPrice x hx
  · rw [Prog.wp_bind, onResult, Prog.wp_modify]
    refine Prog.wp_mono (logRow_spec (Q := Filled p nxt s) ?_)
      (fun _ _ h => h) fun _ _ h ⟨hb, _⟩ => h hb.entered
    intro row hkind hdelta _ _
    refine ⟨⟨rfl, rfl, rfl, [], [row], by simp, rfl, ?_, ?_⟩, fun _ _ h => h⟩
    · simp [hdelta]
    · intro row' hrow
      rw [List.mem_singleton.mp hrow, hkind]
      decide

theorem decidePhase_filled {history : List Bar} :
    Prog.wp (decidePhase p history bar nxt) (fun _ s' => Filled p nxt s s')
      (fun _ _ => ¬ (s.book.Carries ∧ nxt.Priced ∧ PricedCloses p)) s := by
  unfold decidePhase
  rw [Prog.wp_bind, Prog.wp_get]
  dsimp only
  rw [Prog.wp_bind, Prog.wp_modify]
  generalize clampTarget (p.strategy.target s.strategyState history).1 = x
  generalize (if s.book.position ≠ 0 ∧ x ≠ 0 ∧
    signOf x ≠ signOf s.book.position then 0 else x : Decimal) = y
  rw [Prog.wp_ite]
  have hbooked : ∀ (σ : S) (calls : List StrategyCall),
      Booked s { s with strategyState := σ, calls } := fun _ _ =>
    .same rfl rfl rfl rfl rfl rfl
  split
  · exact ⟨hbooked _ _, fun _ _ h => h⟩
  · refine Prog.wp_mono fillPhase_filled (fun _ s' h => ?_) fun _ _ h => h
    exact ⟨(hbooked _ _).trans h.booked, h.carries⟩

/-! ## An iteration -/

/-- The position brought into a bar has a close to be judged at. -/
def Watched (bar : Bar) (s : BacktestState S) : Prop :=
  s.book.position ≠ 0 → bar.close.isSome

/-- The data's prices are positive, and the position can be judged. -/
structure Ready (p : BacktestParams S) (bar nxt : Bar)
    (s : BacktestState S) : Prop where
  now : bar.Priced
  next : nxt.Priced
  closes : PricedCloses p
  carries : s.book.Carries
  watched : Watched bar s

/-- What an iteration leaves for its mark. -/
structure Moved (p : BacktestParams S) (bar nxt : Bar)
    (s s' : BacktestState S) : Prop where
  booked : Booked s s'
  watched : Watched bar s → Watched nxt s'
  carries : Ready p bar nxt s → s'.book.Carries

theorem Held.watched (h : Held s s') (hw : Watched bar s) : Watched bar s' := by
  intro hne
  rcases h.book with ⟨hp, -⟩ | hp
  · exact hw (hp ▸ hne)
  · exact absurd hp hne

theorem trade_moved {history : List Bar} :
    Prog.wp (trade p history bar nxt) (fun _ s' => Moved p bar nxt s s')
      (fun _ _ => ¬ Ready p bar nxt s) s := by
  unfold trade
  rw [Prog.wp_bind]
  refine Prog.wp_mono stopPhase_held (fun _ s₁ h₁ => ?_)
    fun _ _ h hr => h hr.carries
  rw [Prog.wp_bind]
  refine Prog.wp_mono fundingPhase_held (fun _ s₂ h₂ => ?_)
    fun _ _ h hr => h (h₁.carries hr.carries)
  have h := h₁.trans h₂
  rw [Prog.wp_ite]
  split
  · refine Prog.wp_mono gapPhase_held (fun _ s₃ h₃ => ?_)
      fun _ _ h' hr => h' (h.carries hr.carries)
    refine ⟨h.booked.trans h₃.1.booked, fun hw hne => ?_,
      fun hr => h₃.1.carries (h.carries hr.carries)⟩
    -- a position that is left was brought in, so the bar had a close to exit at
    have hclose : bar.close.isSome := (h.trans h₃.1).watched hw hne
    exact absurd (h₃.2 hclose) hne
  · next hcond =>
    have hnext : nxt.close.isSome := by
      cases hn : nxt.close with
      | none => simp [hn] at hcond
      | some _ => rfl
    have hvalued : Ready p bar nxt s → Valued bar s₂ := by
      intro hr hne
      obtain ⟨x, hx⟩ := Option.isSome_iff_exists.mp (h.watched hr.watched hne)
      exact ⟨x, hx, hr.now.close x hx⟩
    rw [Prog.wp_bind]
    refine Prog.wp_mono guardPhase_held (fun _ s₃ h₃ => ?_)
      fun _ _ h' hr => h' ⟨h.carries hr.carries, hvalued hr⟩
    have h := h.trans h₃
    refine Prog.wp_mono decidePhase_filled (fun _ s₄ h₄ => ?_)
      fun _ _ h' hr => h' ⟨h.carries hr.carries, hr.next, hr.closes⟩
    exact ⟨h.booked.trans h₄.booked, fun _ _ => hnext,
      fun hr => h₄.carries hr.next hr.closes (h.carries hr.carries)⟩

/-- What a mark adds. -/
structure Marked (p : BacktestParams S) (ts : DateTime)
    (price : Option Decimal) (s s' : BacktestState S) (eq : Decimal) :
    Prop where
  value : equityAt s.book p.notional price = .ok eq
  notional : p.notional ≠ 0
  book : s'.book = s.book
  equity : s'.res.equity = s.res.equity ++ [(ts, eq)]
  returns : s'.res.returns = s.res.returns ++ [(eq - s.lastEquity) / p.notional]
  lastEquity : s'.lastEquity = eq
  tradePnls : s'.res.tradePnls = s.res.tradePnls
  ledger : ∃ row : LedgerRow, s'.res.ledger = s.res.ledger ++ [row] ∧
    row.cashDelta = 0 ∧ row.position = s.book.position ∧ row.price = price

theorem markEquity_marked {ts : DateTime} :
    Prog.wp (markEquity p ts price) (fun _ s' => ∃ eq, Marked p ts price s s' eq)
      (fun _ _ => ¬ (s.book.Carries ∧ p.notional ≠ 0)) s := by
  unfold markEquity
  rw [Prog.wp_bind, Prog.wp_get, Prog.wp_bind]
  cases heq : equityAt s.book p.notional price with
  | error e =>
      rintro ⟨hb, -⟩
      obtain ⟨eq, hok⟩ : ∃ eq, equityAt s.book p.notional price = .ok eq :=
        equityAt_returns hb.entered
      rw [hok] at heq
      cases heq
  | ok eq =>
  rw [Prog.wp_ofExcept_ok, Prog.wp_bind]
  by_cases hn : p.notional = 0
  · rw [divide, if_pos hn]
    rintro ⟨-, h⟩
    exact h hn
  rw [divide_of_ne_zero hn, Prog.wp_ofExcept_ok, Prog.wp_bind, onResult,
    Prog.wp_modify, Prog.wp_bind, Prog.wp_modify]
  refine Prog.wp_mono (logRow_spec
    (Q := fun s' => ∃ eq, Marked p ts price s s' eq) ?_)
    (fun _ _ h => h) fun _ _ h ⟨hb, _⟩ => h hb.entered
  intro row _ hdelta hposition hprice
  exact ⟨eq, heq, hn, rfl, rfl, rfl, rfl, rfl, row, rfl, hdelta, hposition,
    hprice⟩

/-! ## A run -/

variable {bars : List Bar} {σ : S} {t n : ℕ}

theorem iterations_start (h : n ≤ p.warmup) :
    iterations p bars n (initial σ) = (.ok (), initial σ) := by
  unfold iterations
  rw [Nat.sub_eq_zero_of_le h]
  rfl

/-- The run through iteration `t` is the run up to it and the iteration. -/
theorem iterations_succ (h : p.warmup ≤ t) :
    iterations p bars (t + 1) =
      (do iterations p bars t; iterationAt p bars t) := by
  have hrange : List.range' p.warmup (t + 1 - p.warmup) =
      List.range' p.warmup (t - p.warmup) ++ [t] := by
    rw [Nat.succ_sub h, List.range'_1_concat, Nat.add_sub_cancel' h]
  unfold iterations
  rw [hrange, Prog.forEach_append]
  have hone : Prog.forEach [t] (iterationAt p bars) = iterationAt p bars t := by
    funext s
    show (iterationAt p bars t >>= fun _ => pure ()) s = _
    cases hr : iterationAt p bars t s with
    | mk r s' =>
        cases r with
        | ok _ => exact Prog.bind_of_ok hr
        | error _ => exact Prog.bind_of_error hr
  rw [hone]

/-- What every iteration that returns keeps holds of every run that does. -/
theorem run_induction {P : ℕ → BacktestState S → Prop}
    (hinit : P p.warmup (initial σ))
    (hstep : ∀ t s s', p.warmup ≤ t →
      iterations p bars t (initial σ) = (.ok (), s) → P t s →
      iterationAt p bars t s = (.ok (), s') → P (t + 1) s')
    (hn : p.warmup ≤ n)
    (h : iterations p bars n (initial σ) = (.ok (), s)) : P n s := by
  induction n, hn using Nat.le_induction generalizing s with
  | base =>
      rw [iterations_start le_rfl] at h
      obtain ⟨-, rfl⟩ := Prod.mk.inj h
      exact hinit
  | succ t ht ih =>
      rw [iterations_succ ht] at h
      obtain ⟨_, s₁, hrun, hiter⟩ := Prog.bind_returned h
      exact hstep t s₁ s ht hrun (ih hrun) hiter

/-- An iteration that returned: its trading and its mark. -/
theorem iterationAt_returned (h : iterationAt p bars t s = (.ok (), s')) :
    ∃ bar nxt s₁ eq, bars[t]? = some bar ∧ bars[t + 1]? = some nxt ∧
      Moved p bar nxt s s₁ ∧ Marked p nxt.openTs nxt.close s₁ s' eq := by
  unfold iterationAt at h
  cases hbar : bars[t]? with
  | none => simp [hbar, Prog.raise] at h
  | some bar =>
  cases hnxt : bars[t + 1]? with
  | none => simp [hbar, hnxt, Prog.raise] at h
  | some nxt =>
  rw [hbar, hnxt] at h
  obtain ⟨_, s₁, htrade, hmark⟩ := Prog.bind_returned h
  have hmoved : Prog.wp (trade p (bars.take (t + 1)) bar nxt)
    (fun _ s' => Moved p bar nxt s s') (fun _ _ => ¬ Ready p bar nxt s) s :=
    trade_moved
  have hmarked : Prog.wp (markEquity p nxt.openTs nxt.close)
    (fun _ s' => ∃ eq, Marked p nxt.openTs nxt.close s₁ s' eq)
    (fun _ _ => ¬ (s₁.book.Carries ∧ p.notional ≠ 0)) s₁ := markEquity_marked
  rw [Prog.wp_of_ok htrade] at hmoved
  rw [Prog.wp_of_ok hmark] at hmarked
  obtain ⟨eq, hmarked⟩ := hmarked
  exact ⟨bar, nxt, s₁, eq, rfl, rfl, hmoved, hmarked⟩

/-! ### The balance -/

/-- The cash is what the ledger and the realised results add up to. -/
def CashBalances (s : BacktestState S) : Prop :=
  s.book.cash = s.res.tradePnls.sum +
    (s.res.ledger.map LedgerRow.cashDelta).sum

/-- What the open position of a book is worth at a mark: nothing when flat. -/
def OpenValue (book : Book) (notional : Decimal) (price : Option Decimal)
    (v : Decimal) : Prop :=
  (book.position = 0 ∧ v = 0) ∨
    (book.position ≠ 0 ∧ book.entry ≠ 0 ∧ ∃ x, price = some x ∧
      v = book.position * notional * (x / book.entry - 1))

theorem equityAt_openValue {book : Book} {notional eq : Decimal}
    (hp : book.position ≠ 0 → price.isSome)
    (h : equityAt book notional price = .ok eq) :
    ∃ v, OpenValue book notional price v ∧ eq = book.cash + v := by
  by_cases h0 : book.position = 0
  · refine ⟨0, .inl ⟨h0, rfl⟩, ?_⟩
    rw [add_zero]
    cases price with
    | none => exact (Except.ok.inj h).symm
    | some x =>
        rw [equityAt_entered fun hne => absurd h0 hne] at h
        obtain rfl := Except.ok.inj h
        rw [h0, zero_mul, zero_mul, add_zero]
  · obtain ⟨x, rfl⟩ := Option.isSome_iff_exists.mp (hp h0)
    have hb : book.Entered := entered_of_equityAt h
    rw [equityAt_entered hb] at h
    exact ⟨_, .inr ⟨h0, hb h0, x, rfl, rfl⟩, (Except.ok.inj h).symm⟩

theorem Booked.balances (h : Booked s s') (hs : CashBalances s) :
    CashBalances s' := by
  obtain ⟨pnls, rows, hp, hr, hc, -⟩ := h.cash
  unfold CashBalances at hs ⊢
  rw [hc, hp, hr, hs, List.map_append, List.sum_append, List.sum_append]
  ring

theorem Marked.balances {ts : DateTime} {eq : Decimal}
    (h : Marked p ts price s s' eq) (hs : CashBalances s) :
    CashBalances s' := by
  obtain ⟨row, hr, hdelta, -⟩ := h.ledger
  unfold CashBalances at hs ⊢
  rw [h.book, h.tradePnls, hr, hs, List.map_append, List.sum_append,
    List.map_singleton, List.sum_singleton, hdelta, add_zero]

/-- The outputs only grow. -/
structure Grows (s s' : BacktestState S) : Prop where
  equity : s.res.equity <+: s'.res.equity
  tradePnls : s.res.tradePnls <+: s'.res.tradePnls
  ledger : s.res.ledger <+: s'.res.ledger

theorem Grows.refl (s : BacktestState S) : Grows s s :=
  ⟨List.prefix_rfl, List.prefix_rfl, List.prefix_rfl⟩

theorem Grows.trans (h : Grows s s') (h' : Grows s' s'') : Grows s s'' :=
  ⟨h.equity.trans h'.equity, h.tradePnls.trans h'.tradePnls,
    h.ledger.trans h'.ledger⟩

/-- What mark `i` of a run that left `s` says of the run up to it: what was
realised, what was booked and what the open position is worth. -/
def MarkBalances (p : BacktestParams S) (bars : List Bar) (σ : S)
    (s : BacktestState S) (i : ℕ) (mark : DateTime × Decimal) : Prop :=
  ∃ sᵢ nxt v, iterations p bars (p.warmup + i + 1) (initial σ) = (.ok (), sᵢ) ∧
    bars[p.warmup + i + 1]? = some nxt ∧
    sᵢ.res.equity.length = i + 1 ∧ Grows sᵢ s ∧
    OpenValue sᵢ.book p.notional nxt.close v ∧
    mark = (nxt.openTs, sᵢ.res.tradePnls.sum +
      (sᵢ.res.ledger.map LedgerRow.cashDelta).sum + v)

/-- The last mark, zero before there is one. -/
def lastMark (s : BacktestState S) : Decimal :=
  (s.res.equity.getLast?.map Prod.snd).getD 0

/-- The books of a run after its iterations below `n`. -/
structure Kept (p : BacktestParams S) (bars : List Bar) (σ : S) (n : ℕ)
    (s : BacktestState S) : Prop where
  length : s.res.equity.length = n - p.warmup
  cash : CashBalances s
  watched : ∀ bar ∈ bars[n]?, Watched bar s
  last : s.lastEquity = lastMark s
  returns : s.res.returns.sum * p.notional = s.lastEquity
  marks : ∀ i, ∀ mark ∈ s.res.equity[i]?, MarkBalances p bars σ s i mark

theorem Moved.grows (h : Moved p bar nxt s s') : Grows s s' := by
  obtain ⟨pnls, rows, hp, hr, -⟩ := h.booked.cash
  refine ⟨?_, ?_, ?_⟩
  · rw [h.booked.equity]
  · rw [hp]
    exact List.prefix_append _ _
  · rw [hr]
    exact List.prefix_append _ _

theorem Marked.grows {ts : DateTime} {eq : Decimal}
    (h : Marked p ts price s s' eq) : Grows s s' := by
  obtain ⟨row, hr, -⟩ := h.ledger
  refine ⟨?_, ?_, ?_⟩
  · rw [h.equity]
    exact List.prefix_append _ _
  · rw [h.tradePnls]
  · rw [hr]
    exact List.prefix_append _ _

/-- An iteration keeps the books. -/
theorem Kept.step (hw : p.warmup ≤ t) (h : Kept p bars σ t s)
    (hrun : iterations p bars t (initial σ) = (.ok (), s))
    (hiter : iterationAt p bars t s = (.ok (), s')) :
    Kept p bars σ (t + 1) s' := by
  obtain ⟨bar, nxt, s₁, eq, hbar, hnxt, hmoved, hmarked⟩ :=
    iterationAt_returned hiter
  have hgrows : Grows s s' := hmoved.grows.trans hmarked.grows
  have hwatched : Watched nxt s₁ := hmoved.watched (h.watched bar hbar)
  have hcash : CashBalances s₁ := hmoved.booked.balances h.cash
  have hequity : s'.res.equity = s.res.equity ++ [(nxt.openTs, eq)] := by
    rw [hmarked.equity, hmoved.booked.equity]
  have hlength : s'.res.equity.length = t + 1 - p.warmup := by
    rw [hequity, List.length_append, h.length, Nat.succ_sub hw]
    rfl
  refine ⟨hlength, hmarked.balances hcash, ?_, ?_, ?_, ?_⟩
  · intro bar' hbar' hne
    obtain rfl := Option.some.inj (hnxt.symm.trans hbar')
    rw [hmarked.book] at hne
    exact hwatched hne
  · rw [hmarked.lastEquity, lastMark, hequity, List.getLast?_concat]
    rfl
  · have hreturns : s'.res.returns =
        s.res.returns ++ [(eq - s.lastEquity) / p.notional] := by
      rw [hmarked.returns, hmoved.booked.returns, hmoved.booked.lastEquity]
    rw [hreturns, List.sum_append, List.sum_singleton, add_mul, h.returns,
      div_mul_cancel₀ _ hmarked.notional, hmarked.lastEquity]
    ring
  · intro i mark hmark
    rw [hequity, List.getElem?_append] at hmark
    split at hmark
    · obtain ⟨sᵢ, nxtᵢ, v, hrunᵢ, hnxtᵢ, hlenᵢ, hgrowsᵢ, hv, heq⟩ :=
        h.marks i mark hmark
      exact ⟨sᵢ, nxtᵢ, v, hrunᵢ, hnxtᵢ, hlenᵢ, hgrowsᵢ.trans hgrows, hv, heq⟩
    · next hge =>
      -- the mark this iteration added
      have hi : i = t - p.warmup := by
        have hlt := (List.getElem?_eq_some_iff.mp hmark).1
        simp only [List.length_singleton] at hlt
        rw [h.length] at hge hlt
        omega
      have hit : p.warmup + i + 1 = t + 1 := by omega
      obtain rfl : (nxt.openTs, eq) = mark := by
        rw [h.length, hi, Nat.sub_self] at hmark
        exact Option.some.inj hmark
      obtain ⟨v, hv, heq⟩ := equityAt_openValue hwatched hmarked.value
      have hrun' : iterations p bars (t + 1) (initial σ) = (.ok (), s') := by
        rw [iterations_succ hw]
        exact (Prog.bind_of_ok hrun).trans hiter
      refine ⟨s', nxt, v, ?_, ?_, ?_, .refl s', ?_, ?_⟩
      · rw [hit]
        exact hrun'
      · rw [hit]
        exact hnxt
      · rw [hlength, hi]
        omega
      · rw [hmarked.book]
        exact hv
      · have hbalance := hmarked.balances hcash
        unfold CashBalances at hbalance
        rw [← hbalance, hmarked.book, heq]

theorem kept_initial : Kept p bars σ p.warmup (initial σ) where
  length := (Nat.sub_self _).symm
  cash := by simp [CashBalances, initial, BacktestResult.empty, Book.empty]
  watched := fun _ _ hne => absurd rfl hne
  last := rfl
  returns := by simp [initial, BacktestResult.empty]
  marks := nofun

/-- The books balance: every mark of a run is the sum of what was realised so
far, of the ledger's cash deltas so far and of the open position's value, and
the returns add up to the last mark. -/
theorem runBacktest_balances
    (h : runBacktest bars p (initial σ) = (.ok (), s)) :
    s.res.equity.length = bars.length - 1 - p.warmup ∧
      (∀ i, ∀ mark ∈ s.res.equity[i]?, MarkBalances p bars σ s i mark) ∧
      s.res.returns.sum * p.notional = lastMark s := by
  rcases Nat.le_total p.warmup (bars.length - 1) with hn | hn
  · have hkept : Kept p bars σ (bars.length - 1) s :=
      run_induction kept_initial
        (fun _ _ _ hw hrun hkept hiter => hkept.step hw hrun hiter) hn h
    exact ⟨hkept.length, hkept.marks, hkept.returns.trans hkept.last⟩
  · -- the warm-up is longer than the bars
    unfold runBacktest at h
    rw [iterations_start hn] at h
    obtain ⟨-, rfl⟩ := Prod.mk.inj h
    have hkept : Kept p bars σ p.warmup (initial σ) := kept_initial
    exact ⟨(Nat.sub_eq_zero_of_le hn).symm, nofun,
      hkept.returns.trans hkept.last⟩

/-- A long opened in the second hour, marked up in it, and out of the data in
the last. -/
def longBars : List Bar := [hourBar 0 100, hourBar 1 180, hourBar 2 180]

theorem longBars_returns :
    runBacktest longBars (paramsWith [(hour, 101)]) (initial ()) =
      (.ok (), (runBacktest longBars (paramsWith [(hour, 101)])
        (initial ())).2) :=
  Prod.ext (Prog.ok_of_toBool (by decide +kernel)) rfl

/-- Its two marks. -/
theorem runBacktest_balances_long :
    ∃ s : BacktestState Unit, s.res.equity.length = 2 ∧
      (∀ i, ∀ mark ∈ s.res.equity[i]?,
        MarkBalances (paramsWith [(hour, 101)]) longBars () s i mark) ∧
      s.res.returns.sum * 100 = lastMark s :=
  ⟨_, runBacktest_balances longBars_returns⟩

/-! ### The prices -/

/-- A mark of an open position has a price. -/
def MarksPriced (s : BacktestState S) : Prop :=
  ∀ row ∈ s.res.ledger, row.kind = .mark → row.position ≠ 0 → row.price.isSome

/-- What the iterations below `n` leave for iteration `n`. -/
structure Safe (bars : List Bar) (n : ℕ) (s : BacktestState S) : Prop where
  carries : s.book.Carries
  watched : ∀ bar ∈ bars[n]?, Watched bar s
  marks : MarksPriced s

theorem safe_initial : Safe bars n (initial σ) where
  carries := fun hne => absurd rfl hne
  watched := fun _ _ hne => absurd rfl hne
  marks := nofun

section Priced

variable (hbars : ∀ bar ∈ bars, bar.Priced) (hcloses : PricedCloses p)

include hbars hcloses

theorem Safe.ready (h : Safe bars n s) (hbar : bars[n]? = some bar)
    (hnxt : bars[n + 1]? = some nxt) : Ready p bar nxt s :=
  ⟨hbars bar (List.mem_of_getElem? hbar), hbars nxt (List.mem_of_getElem? hnxt),
    hcloses, h.carries, h.watched bar hbar⟩

theorem Safe.step (h : Safe bars t s)
    (hiter : iterationAt p bars t s = (.ok (), s')) : Safe bars (t + 1) s' := by
  obtain ⟨bar, nxt, s₁, eq, hbar, hnxt, hmoved, hmarked⟩ :=
    iterationAt_returned hiter
  have hready := h.ready hbars hcloses hbar hnxt
  have hwatched : Watched nxt s₁ := hmoved.watched hready.watched
  refine ⟨?_, ?_, ?_⟩
  · rw [hmarked.book]
    exact hmoved.carries hready
  · intro bar' hbar' hne
    obtain rfl := Option.some.inj (hnxt.symm.trans hbar')
    rw [hmarked.book] at hne
    exact hwatched hne
  · intro row hrow hkind hne
    obtain ⟨last, hr', -, hposition, hprice⟩ := hmarked.ledger
    obtain ⟨_, rows, -, hr, -, hkinds⟩ := hmoved.booked.cash
    rw [hr', hr] at hrow
    rcases List.mem_append.mp hrow with hrow | hrow
    · rcases List.mem_append.mp hrow with hrow | hrow
      · exact h.marks row hrow hkind hne
      · exact absurd hkind (hkinds row hrow)
    · obtain rfl := List.mem_singleton.mp hrow
      rw [hposition] at hne
      rw [hprice]
      exact hwatched hne

theorem iterations_safe
    (h : iterations p bars n (initial σ) = (.ok (), s)) : Safe bars n s := by
  rcases Nat.le_total p.warmup n with hn | hn
  · exact run_induction safe_initial
      (fun _ _ _ _ _ hsafe hiter => hsafe.step hbars hcloses hiter) hn h
  · rw [iterations_start hn] at h
    obtain ⟨-, rfl⟩ := Prod.mk.inj h
    exact safe_initial

/-- The trading of an iteration returns, and the mark after it has a value. -/
theorem Safe.trades (h : Safe bars n s) (hbar : bars[n]? = some bar)
    (hnxt : bars[n + 1]? = some nxt) :
    ∃ s' eq, trade p (bars.take (n + 1)) bar nxt s = (.ok (), s') ∧
      s'.book.Carries ∧ equityAt s'.book p.notional nxt.close = .ok eq := by
  have hready := h.ready hbars hcloses hbar hnxt
  obtain ⟨_, s', hrun, hmoved⟩ :=
    Prog.wp_returns trade_moved fun _ _ h => h hready
  have hcarries : s'.book.Carries := hmoved.carries hready
  obtain ⟨eq, heq⟩ : ∃ eq, equityAt s'.book p.notional nxt.close = .ok eq :=
    equityAt_returns hcarries.entered
  exact ⟨s', eq, hrun, hcarries, heq⟩

theorem Safe.iterates (h : Safe bars n s) (hnotional : p.notional ≠ 0)
    (hn : n + 1 < bars.length) :
    ∃ s', iterationAt p bars n s = (.ok (), s') := by
  have hbar : bars[n]? = some bars[n] := List.getElem?_eq_getElem (by omega)
  have hnxt : bars[n + 1]? = some bars[n + 1] := List.getElem?_eq_getElem hn
  obtain ⟨s₁, _, htrade, hcarries, -⟩ := h.trades hbars hcloses hbar hnxt
  have hmarked : Prog.wp (markEquity p bars[n + 1].openTs bars[n + 1].close)
    (fun _ s' => ∃ eq, Marked p bars[n + 1].openTs bars[n + 1].close s₁ s' eq)
    (fun _ _ => ¬ (s₁.book.Carries ∧ p.notional ≠ 0)) s₁ := markEquity_marked
  obtain ⟨_, s', hmark, -⟩ := Prog.wp_returns hmarked
    fun _ _ h => h ⟨hcarries, hnotional⟩
  refine ⟨s', ?_⟩
  unfold iterationAt
  rw [hbar, hnxt]
  exact (Prog.bind_of_ok htrade).trans hmark

theorem iterations_return (hnotional : p.notional ≠ 0)
    (hn : n ≤ bars.length - 1) :
    ∃ s, iterations p bars n (initial σ) = (.ok (), s) := by
  induction n with
  | zero => exact ⟨_, iterations_start (Nat.zero_le _)⟩
  | succ t ih =>
      rcases Nat.lt_or_ge t p.warmup with hw | hw
      · exact ⟨_, iterations_start hw⟩
      obtain ⟨s, hrun⟩ := ih (by omega)
      have hsafe : Safe bars t s := iterations_safe hbars hcloses hrun
      obtain ⟨s', hiter⟩ := hsafe.iterates hbars hcloses hnotional (by omega)
      refine ⟨s', ?_⟩
      rw [iterations_succ hw]
      exact (Prog.bind_of_ok hrun).trans hiter

/-- A position is never carried into an unpriced bar: where the prices there
are are positive, every iteration with an open position starts at a bar that
has a close and a positive entry, every mark of an open position has a price,
and nothing an iteration computes before its return raises; so a run returns
unless the notional it divides the returns by is zero. -/
theorem runBacktest_priced :
    (∀ n s, iterations p bars n (initial σ) = (.ok (), s) →
      (∀ bar ∈ bars[n]?, s.book.position ≠ 0 →
        bar.close.isSome ∧ 0 < s.book.entry) ∧
      (∀ row ∈ s.res.ledger, row.kind = .mark → row.position ≠ 0 →
        row.price.isSome) ∧
      (∀ bar nxt, bars[n]? = some bar → bars[n + 1]? = some nxt →
        ∃ s' eq, trade p (bars.take (n + 1)) bar nxt s = (.ok (), s') ∧
          equityAt s'.book p.notional nxt.close = .ok eq)) ∧
      (p.notional ≠ 0 → ∃ s, runBacktest bars p (initial σ) = (.ok (), s)) := by
  refine ⟨fun n s hrun => ?_, fun hnotional =>
    iterations_return hbars hcloses hnotional le_rfl⟩
  have hsafe : Safe bars n s := iterations_safe hbars hcloses hrun
  refine ⟨?_, hsafe.marks, ?_⟩
  · intro bar hbar hne
    exact ⟨hsafe.watched bar hbar hne, hsafe.carries hne⟩
  · intro bar nxt hbar hnxt
    obtain ⟨s', eq, htrade, -, heq⟩ := hsafe.trades hbars hcloses hbar hnxt
    exact ⟨s', eq, htrade, heq⟩

end Priced

theorem longBars_priced : ∀ bar ∈ longBars, bar.Priced := by
  have hprices : ∀ (i : ℤ) (x : Decimal), 0 < x → (hourBar i x).Priced := by
    intro i x hx
    refine ⟨fun y hy => ?_, fun y hy => ?_⟩
    · rw [← Option.some.inj hy]
      norm_num
    · rw [← Option.some.inj hy]
      exact hx
  intro bar hbar
  simp only [longBars, List.mem_cons, List.not_mem_nil, or_false] at hbar
  rcases hbar with rfl | rfl | rfl
  · exact hprices 0 100 (by norm_num)
  · exact hprices 1 180 (by norm_num)
  · exact hprices 2 180 (by norm_num)

/-- The long run returns. -/
theorem runBacktest_priced_long :
    ∃ s, runBacktest longBars (paramsWith [(hour, 101)]) (initial ()) =
      (.ok (), s) := by
  have hcloses : PricedCloses (paramsWith [(hour, 101)]) := by
    intro c hc
    rw [List.mem_singleton.mp hc]
    norm_num
  exact (runBacktest_priced longBars_priced hcloses).2 (by norm_num [paramsWith])

end Backtest

end Polyperps
