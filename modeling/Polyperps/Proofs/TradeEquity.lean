import Polyperps.Proofs.BacktestBook

/-!
# What a trade does to the equity

Without costs a trade at a price should not change what the book is worth at
that price. Closing, reducing and opening keep it. An increase does not: its
new entry averages the old entry and the price by fractions of the notional,
and a fraction bought at another price is another number of contracts.
-/

namespace Polyperps

open ProgramLogic

namespace Backtest

variable {S : Type} {p : BacktestParams S} {s s' : BacktestState S}
  {bar nxt : Bar} {bars : List Bar} {σ : S} {target x : Decimal} {n : ℕ}

/-! ## The books a trade is made on -/

/-- The states a trade of a run starts from: the start of an iteration, and
what a phase before the decision leaves. -/
inductive Passes (p : BacktestParams S) (bars : List Bar) (σ : S) :
    BacktestState S → Prop
  | start {n : ℕ} {s : BacktestState S}
      (h : iterations p bars n (initial σ) = (.ok (), s)) : Passes p bars σ s
  | stop {bar : Bar} {s s' : BacktestState S} (hs : Passes p bars σ s)
      (h : stopPhase p bar s = (.ok (), s')) : Passes p bars σ s'
  | funding {bar : Bar} {s s' : BacktestState S} (hs : Passes p bars σ s)
      (h : fundingPhase p bar s = (.ok (), s')) : Passes p bars σ s'
  | gap {bar nxt : Bar} {s s' : BacktestState S} (hs : Passes p bars σ s)
      (h : gapPhase p bar nxt s = (.ok (), s')) : Passes p bars σ s'
  | guard {bar nxt : Bar} {s s' : BacktestState S} (hs : Passes p bars σ s)
      (h : guardPhase p bar nxt s = (.ok (), s')) : Passes p bars σ s'

/-- A position can be valued, and the notional it is a fraction of is not
zero. -/
structure Solvent (p : BacktestParams S) (s : BacktestState S) : Prop where
  entered : s.book.Entered
  notional : s.book.position ≠ 0 → p.notional ≠ 0

theorem iterations_solvent
    (h : iterations p bars n (initial σ) = (.ok (), s)) : Solvent p s := by
  have hflat : Solvent p (initial σ) :=
    ⟨fun hne => absurd rfl hne, fun hne => absurd rfl hne⟩
  rcases Nat.le_total p.warmup n with hn | hn
  · have hinv : (∀ bar ∈ bars[n]?, Watched bar s) ∧ Solvent p s := by
      refine run_induction (P := fun n s =>
        (∀ bar ∈ bars[n]?, Watched bar s) ∧ Solvent p s) ?_ ?_ hn h
      · exact ⟨fun _ _ hne => absurd rfl hne, hflat⟩
      · intro t s s' _ _ hs hiter
        obtain ⟨bar, nxt, s₁, eq, hbar, hnxt, hmoved, hmarked⟩ :=
          iterationAt_returned hiter
        have hwatched : Watched nxt s₁ := hmoved.watched (hs.1 bar hbar)
        refine ⟨fun bar' hbar' => ?_, fun hne => ?_, fun _ => hmarked.notional⟩
        · obtain rfl := Option.some.inj (hnxt.symm.trans hbar')
          intro hne
          rw [hmarked.book] at hne
          exact hwatched hne
        · -- its mark divided by the entry
          rw [hmarked.book] at hne ⊢
          obtain ⟨y, hy⟩ := Option.isSome_iff_exists.mp (hwatched hne)
          have hvalue := hmarked.value
          rw [hy] at hvalue
          exact entered_of_equityAt hvalue hne
    exact hinv.2
  · rw [iterations_start hn] at h
    obtain ⟨-, rfl⟩ := Prod.mk.inj h
    exact hflat

theorem Held.solvent (h : Held s s') (hs : Solvent p s) : Solvent p s' := by
  refine ⟨h.entered hs.entered, fun hne => ?_⟩
  rcases h.book with ⟨hp, -⟩ | hp
  · exact hs.notional (hp ▸ hne)
  · exact absurd hp hne

/-- A trade of a run can value the position it finds. -/
theorem Passes.solvent (h : Passes p bars σ s) : Solvent p s := by
  induction h with
  | start h => exact iterations_solvent h
  | stop hs h ih =>
      have hm := Prog.wp_of_ok h ▸ stopPhase_held
      exact Held.solvent hm ih
  | funding hs h ih =>
      have hm := Prog.wp_of_ok h ▸ fundingPhase_held
      exact Held.solvent hm ih
  | gap hs h ih =>
      have hm := Prog.wp_of_ok h ▸ gapPhase_held
      exact Held.solvent hm.1 ih
  | guard hs h ih =>
      have hm := Prog.wp_of_ok h ▸ guardPhase_held
      exact Held.solvent hm ih

/-! ## A trade without costs -/

/-- The same run without fees and impact. -/
def free (p : BacktestParams S) : BacktestParams S :=
  { p with takerFeeRate := 0, impactBps := 0 }

theorem fillCost_free {value notional : Decimal}
    (h : notional = 0 → value = 0) : fillCost value notional 0 0 0 = .ok 0 := by
  unfold fillCost
  split
  · rfl
  · next hne =>
    rw [divide_of_ne_zero fun hn => hne (h hn)]
    show Except.ok (value * (0 + 0 / (2 * 10000) + 0 / 10000 *
      (value / notional))) = _
    congr 1
    ring

/-- What a trade at no cost leaves of a book. -/
structure Swapped (target entry : Decimal) (realised : Option Decimal)
    (s s' : BacktestState S) : Prop where
  position : s'.book.position = target
  entry : s'.book.entry = entry
  cash : s'.book.cash = s.book.cash + realised.getD 0

/-- It raises only where the position it makes cannot be valued. -/
theorem tradeTo_free {entry : Decimal} {realised : Option Decimal}
    {ts : DateTime} {kind : LedgerKind} {note : String}
    (hs : s.book.Entered) (hx : 0 < x) (hne : target - s.book.position ≠ 0)
    (hclose : closeLeg p s.book target x = .ok (realised, entry)) :
    Prog.wp (tradeTo (free p) target (some x) 0 ts kind note)
      (fun _ s' => Swapped target entry realised s s')
      (fun _ _ => target ≠ 0 ∧ entry = 0) s := by
  obtain ⟨value, qty, hleg, hzero⟩ :
      ∃ value qty, legValue (free p) s.book target x = .ok (value, qty) ∧
        (p.notional = 0 → value = 0) := legValue_returns hs (.inr hx) hne
  have hclose' : closeLeg (free p) s.book target x = .ok (realised, entry) :=
    hclose
  have hcost : fillCost value (free p).notional 0 (free p).takerFeeRate
    (free p).impactBps = .ok 0 := fillCost_free hzero
  unfold tradeTo
  rw [Prog.wp_bind, Prog.wp_get]
  dsimp only
  rw [Prog.wp_ite, if_neg hne, Prog.wp_bind, required, Prog.wp_ofExcept_ok,
    Prog.wp_bind, hclose', Prog.wp_ofExcept_ok]
  have hrest : ∀ s₁ : BacktestState S,
      s₁.book.cash = s.book.cash + realised.getD 0 →
      Prog.wp (chargeTrade (free p) s.book target x entry 0 ts kind note)
      (fun _ s' => Swapped target entry realised s s')
      (fun _ _ => target ≠ 0 ∧ entry = 0) s₁ := by
    intro s₁ hs₁
    unfold chargeTrade
    rw [Prog.wp_bind, hleg, Prog.wp_ofExcept_ok]
    dsimp only
    rw [Prog.wp_bind, hcost, Prog.wp_ofExcept_ok, Prog.wp_bind, onBook,
      Prog.wp_modify, Prog.wp_bind, onResult, Prog.wp_modify, Prog.wp_bind]
    refine Prog.wp_mono (logRow_spec (Q := Swapped target entry realised s) ?_)
      (fun _ s' h => ?_) fun _ _ hb => ?_
    · intro _ _ _ _ _
      refine ⟨rfl, rfl, ?_⟩
      show s₁.book.cash - 0 = _
      rw [sub_zero, hs₁]
    · rw [Prog.wp_ite]
      split
      · rw [Prog.wp_bind, onBook, Prog.wp_modify, tellFlat, Prog.wp_modify]
        exact ⟨h.position, h.entry, h.cash⟩
      · exact h
    · have hb : ¬ (target ≠ 0 → entry ≠ 0) := hb
      tauto
  cases realised with
  | none => exact hrest s (by simp)
  | some pnl =>
      dsimp only
      rw [Prog.wp_bind, onBook, Prog.wp_modify, Prog.wp_bind, onResult,
        Prog.wp_modify]
      exact hrest _ rfl

/-! ## The arithmetic -/

/-- What a position of `fraction` entered at `entry` is worth at `x`. -/
def worth (p : BacktestParams S) (fraction entry x : Decimal) : Decimal :=
  fraction * p.notional * (x / entry - 1)

/-- The value a trade leaves in the book, its realised part included, is the
value it found. -/
def KeepsWorth (p : BacktestParams S) (book : Book) (target x : Decimal)
    (realised : Option Decimal) (entry : Decimal) : Prop :=
  realised.getD 0 + worth p target entry x =
    worth p book.position book.entry x

/-- A trade keeps the equity exactly where it keeps the worth and leaves a
position that can be valued. -/
theorem tradeTo_free_iff {entry : Decimal} {realised : Option Decimal}
    {ts : DateTime} {kind : LedgerKind} {note : String}
    (hs : s.book.Entered) (hx : 0 < x) (hne : target - s.book.position ≠ 0)
    (hclose : closeLeg p s.book target x = .ok (realised, entry)) :
    (∃ s', tradeTo (free p) target (some x) 0 ts kind note s = (.ok (), s') ∧
        equityAt s'.book p.notional (some x) =
          equityAt s.book p.notional (some x)) ↔
      (target ≠ 0 → entry ≠ 0) ∧ KeepsWorth p s.book target x realised entry := by
  have hfree : Prog.wp (tradeTo (free p) target (some x) 0 ts kind note)
      (fun _ s' => Swapped target entry realised s s')
      (fun _ _ => target ≠ 0 ∧ entry = 0) s := tradeTo_free hs hx hne hclose
  have hvalue : ∀ s' : BacktestState S, Swapped target entry realised s s' →
      (target ≠ 0 → entry ≠ 0) →
      (equityAt s'.book p.notional (some x) =
          equityAt s.book p.notional (some x) ↔
        KeepsWorth p s.book target x realised entry) := by
    intro s' h hentry
    have hs' : s'.book.Entered := by
      unfold Book.Entered
      rw [h.position, h.entry]
      exact hentry
    rw [equityAt_entered hs', equityAt_entered hs, Except.ok.injEq, h.position,
      h.entry, h.cash, add_assoc, add_right_inj]
    rfl
  constructor
  · rintro ⟨s', hrun, heq⟩
    rw [Prog.wp_of_ok hrun] at hfree
    have hentry : target ≠ 0 → entry ≠ 0 := by
      rw [equityAt_entered hs] at heq
      have hs' : s'.book.Entered := entered_of_equityAt heq
      unfold Book.Entered at hs'
      rwa [hfree.position, hfree.entry] at hs'
    exact ⟨hentry, (hvalue s' hfree hentry).mp heq⟩
  · rintro ⟨hentry, hkeeps⟩
    obtain ⟨_, s', hrun, hswapped⟩ := Prog.wp_returns hfree
      fun _ _ ⟨ht, he⟩ => hentry ht he
    exact ⟨s', hrun, (hvalue s' hswapped hentry).mpr hkeeps⟩

/-- The target of a trade that the decision lets through: flat, from flat, or
on the side of the position. -/
def SameSide (book : Book) (target : Decimal) : Prop :=
  target = 0 ∨ book.position = 0 ∨ signOf target = signOf book.position

theorem signOf_eq_iff {a b : Decimal} (hb : b ≠ 0) :
    signOf a = signOf b ↔ (0 < a ∧ 0 < b) ∨ (a < 0 ∧ b < 0) := by
  rcases lt_trichotomy a 0 with ha | rfl | ha
  · rcases lt_or_gt_of_ne hb with hb | hb
    · simp [signOf, ha, hb, ha.not_gt, hb.not_gt]
    · simp [signOf, ha, hb, ha.not_gt, hb.not_gt]
  · rcases lt_or_gt_of_ne hb with hb | hb
    · simp [signOf, hb, hb.not_gt]
    · simp [signOf, hb, hb.not_gt]
  · rcases lt_or_gt_of_ne hb with hb | hb
    · simp [signOf, ha, hb, ha.not_gt, hb.not_gt]
    · simp [signOf, ha, hb, ha.not_gt, hb.not_gt]

theorem sign_mul_abs {a : Decimal} : (signOf a : Decimal) * |a| = a := by
  rcases lt_trichotomy a 0 with ha | rfl | ha
  · simp [signOf, ha, ha.not_gt, abs_of_neg ha]
  · simp [signOf]
  · simp [signOf, ha, abs_of_pos ha]

/-- Closing and reducing realise what they take off. -/
theorem closeLeg_reducing {book : Book} (hb : book.Entered)
    (hside : SameSide book target) (h : |target| < |book.position|) :
    ∃ realised entry, closeLeg p book target x = .ok (realised, entry) ∧
      (target ≠ 0 → entry ≠ 0) ∧ KeepsWorth p book target x realised entry := by
  have hne : book.position ≠ 0 := by
    rintro h0
    rw [h0, abs_zero] at h
    exact absurd h (abs_nonneg _).not_gt
  unfold closeLeg
  by_cases ht : target = 0
  · rw [if_pos ⟨hne, ht⟩, divide_of_ne_zero (hb hne)]
    refine ⟨_, _, rfl, fun h => absurd ht h, ?_⟩
    simp only [KeepsWorth, worth, Option.getD_some, ht, zero_mul, add_zero]
  · rw [if_neg fun h' => ht h'.2, if_pos ⟨hne, h⟩, divide_of_ne_zero (hb hne)]
    refine ⟨_, _, rfl, fun _ => hb hne, ?_⟩
    have hsign : signOf target = signOf book.position :=
      (hside.resolve_left ht).resolve_left hne
    have htarget := sign_mul_abs (a := target)
    have hposition := sign_mul_abs (a := book.position)
    rw [hsign] at htarget
    unfold KeepsWorth worth
    rw [Option.getD_some]
    linear_combination (p.notional * (x / book.entry - 1)) *
      (hposition - htarget)

/-- Opening from flat enters at the price. -/
theorem closeLeg_opening {book : Book} (h0 : book.position = 0)
    (hx : 0 < x) (ht : target ≠ 0) :
    ∃ realised entry, closeLeg p book target x = .ok (realised, entry) ∧
      (target ≠ 0 → entry ≠ 0) ∧ KeepsWorth p book target x realised entry := by
  have habs : |target| ≠ 0 := abs_ne_zero.mpr ht
  unfold closeLeg
  rw [if_neg fun h => h.1 h0, if_neg fun h => h.1 h0, divide_of_ne_zero habs]
  have hentry : (|book.position| * book.entry + |target - book.position| * x) /
      |target| = x := by
    rw [h0, abs_zero, zero_mul, zero_add, sub_zero, mul_div_cancel_left₀ _ habs]
  refine ⟨_, _, rfl, fun _ => ?_, ?_⟩
  · rw [hentry]
    exact hx.ne'
  · unfold KeepsWorth worth
    rw [hentry, div_self hx.ne', h0]
    simp

/-- An increase keeps the worth only at the entry price. -/
theorem closeLeg_increase {book : Book} (hb : book.Entered)
    (hn : p.notional ≠ 0) (hne : book.position ≠ 0)
    (hside : SameSide book target) (h : |book.position| < |target|) :
    ∃ realised entry, closeLeg p book target x = .ok (realised, entry) ∧
      ((target ≠ 0 → entry ≠ 0) ∧ KeepsWorth p book target x realised entry ↔
        x = book.entry) := by
  have ht : target ≠ 0 := by
    rintro rfl
    rw [abs_zero] at h
    exact absurd h (abs_nonneg _).not_gt
  have habs : |target| ≠ 0 := abs_ne_zero.mpr ht
  have hsign : signOf target = signOf book.position :=
    (hside.resolve_left ht).resolve_left hne
  have hadded : |target - book.position| = |target| - |book.position| := by
    rcases (signOf_eq_iff hne).mp hsign with ⟨hpos, hpos'⟩ | ⟨hneg, hneg'⟩
    · rw [abs_of_pos hpos, abs_of_pos hpos'] at h ⊢
      exact abs_of_pos (sub_pos.mpr h)
    · rw [abs_of_neg hneg, abs_of_neg hneg'] at h ⊢
      rw [abs_of_neg (by linarith)]
      ring
  unfold closeLeg
  rw [if_neg fun h' => ht h'.2, if_neg fun h' => h'.2.not_gt h,
    divide_of_ne_zero habs]
  refine ⟨_, _, rfl, ?_⟩
  rw [hadded]
  have haverage : (|book.position| * book.entry +
      (|target| - |book.position|) * x) / |target| * |target| =
      |book.position| * book.entry + (|target| - |book.position|) * x :=
    div_mul_cancel₀ _ habs
  generalize (|book.position| * book.entry +
    (|target| - |book.position|) * x) / |target| = entry at haverage ⊢
  have he := hb hne
  have htarget := sign_mul_abs (a := target)
  have hposition := sign_mul_abs (a := book.position)
  rw [hsign] at htarget
  constructor
  · rintro ⟨hentry, hkeeps⟩
    by_contra hdiff
    have hentry := hentry ht
    unfold KeepsWorth worth at hkeeps
    rw [Option.getD_none, zero_add] at hkeeps
    have hcross : target * (x - entry) * book.entry =
        book.position * (x - book.entry) * entry := by
      have h1 : target * ((x - entry) / entry) =
          book.position * ((x - book.entry) / book.entry) := by
        refine mul_left_cancel₀ hn ?_
        rw [sub_div, sub_div, div_self hentry, div_self he]
        linear_combination hkeeps
      rwa [mul_div_assoc', mul_div_assoc', div_eq_div_iff hentry he] at h1
    -- what is gained on the target is gained on the position it was
    have hgain : target * (x - entry) =
        book.position * (x - book.entry) := by
      linear_combination (-(x - entry)) * htarget +
        (x - book.entry) * hposition -
        (signOf book.position : Decimal) * haverage
    rw [hgain] at hcross
    have hsame : book.entry = entry :=
      mul_left_cancel₀ (mul_ne_zero hne (sub_ne_zero.mpr hdiff)) hcross
    have hflat : (|target| - |book.position|) * (x - book.entry) = 0 := by
      rw [← hsame] at haverage
      linear_combination -haverage
    rcases mul_eq_zero.mp hflat with h0 | h0
    · linarith
    · exact hdiff (sub_eq_zero.mp h0)
  · intro hsame
    have hentry : entry = book.entry := by
      refine mul_right_cancel₀ habs ?_
      rw [haverage, hsame]
      ring
    refine ⟨fun _ => hentry ▸ he, ?_⟩
    unfold KeepsWorth worth
    rw [hentry, hsame, div_self he]
    simp

/-! ## The trades of a run -/

/-- A trade of a run at a price and without costs leaves the equity at that
price as it was if it opens, reduces or closes the position, and if it adds
to it exactly when the price is the entry. -/
theorem tradeTo_keeps_equity (h : Passes p bars σ s) (hx : 0 < x)
    (hside : SameSide s.book target) (ts : DateTime) (kind : LedgerKind)
    (note : String) :
    (∃ s', tradeTo (free p) target (some x) 0 ts kind note s = (.ok (), s') ∧
        equityAt s'.book p.notional (some x) =
          equityAt s.book p.notional (some x)) ↔
      s.book.position = 0 ∨ |target| ≤ |s.book.position| ∨
        x = s.book.entry := by
  obtain ⟨hentered, hnotional⟩ := h.solvent
  by_cases hdelta : target - s.book.position = 0
  · -- no trade
    have hsame : target = s.book.position := sub_eq_zero.mp hdelta
    refine iff_of_true ⟨s, ?_, rfl⟩ (.inr (.inl (by rw [hsame])))
    unfold tradeTo
    rw [Prog.bind_of_ok (show (Prog.get : M S _) s = (.ok s, s) from rfl)]
    dsimp only
    rw [Prog.ite_apply, if_pos hdelta]
    rfl
  by_cases h0 : s.book.position = 0
  · have ht : target ≠ 0 := by
      rintro rfl
      exact hdelta (by rw [h0, sub_zero])
    obtain ⟨realised, entry, hclose, hkeeps⟩ :=
      closeLeg_opening (p := p) h0 hx ht
    exact iff_of_true ((tradeTo_free_iff hentered hx hdelta hclose).mpr hkeeps)
      (.inl h0)
  rcases lt_or_ge |s.book.position| |target| with hlt | hle
  · obtain ⟨realised, entry, hclose, hkeeps⟩ :=
      closeLeg_increase hentered (hnotional h0) h0 hside hlt
    rw [tradeTo_free_iff hentered hx hdelta hclose, hkeeps]
    exact ⟨fun he => .inr (.inr he), fun he =>
      (he.resolve_left h0).resolve_left hlt.not_ge⟩
  · have hlt : |target| < |s.book.position| := by
      refine lt_of_le_of_ne hle fun habs => hdelta ?_
      have ht : target ≠ 0 := by
        rintro rfl
        rw [abs_zero] at habs
        exact h0 (abs_eq_zero.mp habs.symm)
      have hsign : signOf target = signOf s.book.position :=
        (hside.resolve_left ht).resolve_left h0
      rw [← sign_mul_abs (a := target), hsign, habs, sign_mul_abs, sub_self]
    obtain ⟨realised, entry, hclose, hkeeps⟩ :=
      closeLeg_reducing (p := p) (x := x) hentered hside hlt
    exact iff_of_true ((tradeTo_free_iff hentered hx hdelta hclose).mpr hkeeps)
      (.inr (.inl hle))

/-! ## A half position -/

/-- A strategy that is always half long. -/
def halfLong : Strategy Unit where
  warmup := 0
  target := fun s _ => (1 / 2, s)
  onFlatten := none
  onRecover := none

def halfParams : BacktestParams Unit :=
  { paramsWith [(hour, 100)] with strategy := halfLong }

/-- After an hour: half the notional, entered at 100. -/
def halfHeld : BacktestState Unit :=
  (iterations halfParams longBars 1 (initial ())).2

theorem halfHeld_passes : Passes halfParams longBars () halfHeld :=
  .start (n := 1) (Prod.ext (Prog.ok_of_toBool (by decide +kernel)) rfl)

/-- Half of it is closed at twice its entry. -/
theorem tradeTo_keeps_equity_half :
    ∃ s', tradeTo (free halfParams) (1 / 4) (some 200) 0 0 .fill "" halfHeld =
        (.ok (), s') ∧
      equityAt s'.book halfParams.notional (some 200) =
        equityAt halfHeld.book halfParams.notional (some 200) :=
  (tradeTo_keeps_equity halfHeld_passes (by norm_num)
    (.inr (.inr (by decide +kernel))) 0 .fill "").mpr
    (.inr (.inl (by decide +kernel)))

/-- As much again at twice its entry: the entry is averaged to 150, and of
the 50 it had gained a third is gone. -/
theorem tradeTo_changes_equity :
    ¬ ∀ (p : BacktestParams Unit) (bars : List Bar) (s : BacktestState Unit)
        (target x : Decimal) (ts : DateTime) (kind : LedgerKind)
        (note : String), Passes p bars () s → 0 < x → |target| ≤ 1 →
        SameSide s.book target →
        ∃ s', tradeTo (free p) target (some x) 0 ts kind note s =
            (.ok (), s') ∧
          equityAt s'.book p.notional (some x) =
            equityAt s.book p.notional (some x) := by
  intro h
  obtain ⟨s', hrun, heq⟩ := h halfParams longBars halfHeld 1 200 0 .fill ""
    halfHeld_passes (by norm_num) (by norm_num)
    (.inr (.inr (by decide +kernel)))
  have hs' : s' = (tradeTo (free halfParams) 1 (some 200) 0 0 .fill ""
    halfHeld).2 := by rw [hrun]
  rw [hs'] at heq
  exact absurd (congrArg Except.toOption heq) (by decide +kernel)

end Backtest

end Polyperps
