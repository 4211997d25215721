import Polyperps.Lib.EverSince
import Polyperps.Proofs.HeldBars

/-!
# Strategies that hold until a signal

Three of the hypotheses take a side when a value is stretched one way and keep
it until the value comes back. The side is kept in the strategy, so what it
answers depends on every call before; but it can be read off the calls: a side
is held since the last history that opened it, with none after it that closed
it and no flattening.
-/

namespace Polyperps

open Temporal

/-- What a call has to say for a side to be opened, or to be kept. -/
def StrategyCall.tells (p : List Bar → Prop) : StrategyCall → Prop
  | .target history => p history
  | .onFlatten => False

/-- A strategy that is on a side since it was opened, where no call since has
closed it. -/
def HeldSince (strategy : Strategy Stance)
    (opens keeps : Decimal → List Bar → Prop) : Prop :=
  ∀ side : Decimal, side = 1 ∨ side = -1 → ∀ (s : Stance)
    (calls : List StrategyCall),
    (strategy.after s calls).position = side ↔
      EverSince (StrategyCall.tells (opens side))
          (StrategyCall.tells (keeps side)) calls ∨
        (s.position = side ∧ ∀ call ∈ calls, call.tells (keeps side))

variable {warmup : ℕ} {next : Stance → List Bar → Stance}
  {opens keeps : Decimal → List Bar → Prop}

/-- One turn is enough. -/
theorem heldSince_of_turn
    (hturn : ∀ side : Decimal, side = 1 ∨ side = -1 → ∀ s history,
      (next s history).position = side ↔
        opens side history ∨ (s.position = side ∧ keeps side history)) :
    HeldSince (Stance.strategy warmup next Stance.release) opens keeps := by
  intro side hside s calls
  refine foldl_iff_everSince (fun s call => ?_) s calls
  cases call with
  | target history => exact hturn side hside s history
  | onFlatten =>
      -- a flattened strategy is on no side
      refine iff_of_false (fun h => ?_) (by simp [StrategyCall.tells])
      have hzero : (0 : Decimal) = side := h
      rcases hside with rfl | rfl
      · exact absurd hzero (by norm_num)
      · exact absurd hzero (by norm_num)

/-! ## Fading a score -/

/-- The score is stretched beyond the entry, against the side. -/
def Stretched (z : Option Decimal) (entryZ side : Decimal) : Prop :=
  ∃ x ∈ z, entryZ ≤ -side * x

/-- There is no score, or it is neither stretched the other way nor back inside
the exit. -/
def NotBack (z : Option Decimal) (entryZ exitZ side : Decimal) : Prop :=
  ∀ x ∈ z, -entryZ < -side * x ∧ exitZ ≤ |x|

/-- A rule with two entries and a way out: opened by the entry of the side,
kept by neither the other entry nor the way out. -/
theorem entered_position {x entry side : Decimal} {out : Prop} [Decidable out]
    (hentry : 0 < entry) (hside : side = 1 ∨ side = -1) (s : Stance) :
    (if entry ≤ x then { s with position := -1 }
      else if x ≤ -entry then { s with position := 1 }
      else if out then { s with position := 0 }
      else s).position = side ↔
      entry ≤ -side * x ∨
        (s.position = side ∧ -entry < -side * x ∧ ¬out) := by
  have hne : (0 : Decimal) ≠ side := by
    rcases hside with rfl | rfl <;> norm_num
  by_cases hshort : entry ≤ x
  · rw [if_pos hshort]
    rcases hside with rfl | rfl
    · refine iff_of_false (by norm_num) ?_
      rintro (h | ⟨_, h, _⟩) <;> linarith
    · exact iff_of_true rfl (Or.inl (by linarith))
  rw [if_neg hshort]
  by_cases hlong : x ≤ -entry
  · rw [if_pos hlong]
    rcases hside with rfl | rfl
    · exact iff_of_true rfl (Or.inl (by linarith))
    · refine iff_of_false (by norm_num) ?_
      rintro (h | ⟨_, h, _⟩) <;> linarith
  rw [if_neg hlong]
  -- between the entries neither side is entered
  have hbetween : ¬entry ≤ -side * x ∧ -entry < -side * x := by
    rcases hside with rfl | rfl <;> constructor <;> linarith
  by_cases hout : out
  · rw [if_pos hout]
    refine iff_of_false hne ?_
    rintro (h | ⟨_, _, h⟩)
    · exact hbetween.1 h
    · exact h hout
  · rw [if_neg hout]
    constructor
    · exact fun h => Or.inr ⟨h, hbetween.2, hout⟩
    · rintro (h | ⟨h, _⟩)
      · exact absurd h hbetween.1
      · exact h

theorem fade_position {z : Option Decimal} {entryZ exitZ side : Decimal}
    (hentry : 0 < entryZ) (hside : side = 1 ∨ side = -1) (s : Stance) :
    (s.fade z entryZ exitZ).position = side ↔
      Stretched z entryZ side ∨
        (s.position = side ∧ NotBack z entryZ exitZ side) := by
  unfold Stretched NotBack
  cases z with
  | none => simp [Stance.fade]
  | some x =>
      unfold Stance.fade
      dsimp only
      rw [entered_position hentry hside, not_lt]
      simp only [Option.mem_some_iff, exists_eq_left', forall_eq']

/-- The score H1 fades. -/
def FundingReversion.score (score : List Decimal → Decimal)
    (params : FundingReversion) (history : List Bar) : Option Decimal :=
  zscore score ((Slices.keepLast params.lookback history).filterMap
    (·.fundingRate))

/-- H1 can always be asked. -/
theorem FundingReversion.heldSince (score : List Decimal → Decimal)
    (params : FundingReversion) (hentry : 0 < params.entryZ) :
    HeldSince (Stance.strategy params.lookback (params.next score)
        Stance.release)
      (fun side history =>
        Stretched (params.score score history) params.entryZ side)
      (fun side history => NotBack (params.score score history)
        params.entryZ params.exitZ side) :=
  heldSince_of_turn fun _ hside s _ => fade_position hentry hside s

/-- The window of H2: its pairs, where the current hour is one and there are
enough. -/
def Basis.window (proxy : List (DateTime × Decimal)) (params : Basis)
    (history : List Bar) : Option (List Decimal) :=
  let pairs := Slices.keepLast params.lookback
    (history.filterMap (Basis.pair proxy))
  if (history.getLast?.bind (Basis.pair proxy)).isSome ∧
      params.lookback ≤ pairs.length then some pairs
  else none

/-- H2 is flat without a window. -/
theorem Basis.heldSince (score : List Decimal → Decimal)
    (proxy : List (DateTime × Decimal)) (params : Basis)
    (hentry : 0 < params.entryZ) :
    HeldSince (Stance.strategy params.lookback (params.next score proxy)
        Stance.release)
      (fun side history => ∃ pairs ∈ params.window proxy history,
        Stretched (zscore score pairs) params.entryZ side)
      (fun side history => ∃ pairs ∈ params.window proxy history,
        NotBack (zscore score pairs) params.entryZ (1 / 2) side) := by
  refine heldSince_of_turn fun side hside s history => ?_
  have hflat : s.release.position ≠ side := by
    show (0 : Decimal) ≠ side
    rcases hside with rfl | rfl <;> norm_num
  unfold Basis.next Basis.window
  by_cases hpair : (history.getLast?.bind (Basis.pair proxy)).isSome
  · have hsome : (history.getLast?.bind (Basis.pair proxy)).isNone = false := by
      rw [Option.isNone_eq_false_iff]
      exact hpair
    simp only [hsome, Bool.false_eq_true, if_false, hpair, true_and]
    split
    · next hshort =>
      rw [if_neg (not_le.mpr hshort)]
      simpa using hflat
    · next hlong =>
      rw [if_pos (not_lt.mp hlong)]
      simpa using fade_position hentry hside s
  · have hnone : (history.getLast?.bind (Basis.pair proxy)).isNone = true := by
      simpa using hpair
    simp only [hnone, if_true, hpair]
    simpa using hflat

/-- The mean rate of H6 in basis points, where there are enough rates. -/
def FundingCarry.meanRate (params : FundingCarry) (history : List Bar) :
    Option Decimal :=
  let rates := Slices.keepLast params.smoothHours
    (history.filterMap (·.fundingRate))
  if params.smoothHours ≤ rates.length then
    some (rates.sum / rates.length * bps)
  else none

/-- H6 is kept while the rate that pays it is at least half the entry. -/
theorem FundingCarry.heldSince (params : FundingCarry)
    (hentry : 0 < params.entryBpsH) :
    HeldSince (Stance.strategy params.smoothHours params.next Stance.release)
      (fun side history =>
        Stretched (params.meanRate history) params.entryBpsH side)
      (fun side history => ∀ f ∈ params.meanRate history,
        params.entryBpsH / 2 ≤ -side * f) := by
  refine heldSince_of_turn fun side hside s history => ?_
  unfold FundingCarry.next FundingCarry.meanRate Stretched
  dsimp only
  split
  · next hshort =>
    rw [if_neg (not_le.mpr hshort)]
    simp
  · next henough =>
    rw [if_pos (not_lt.mp henough)]
    simp only [Option.mem_some_iff, exists_eq_left', forall_eq']
    rw [entered_position hentry hside]
    refine or_congr_right (and_congr_right fun hpos => ?_)
    rw [hpos]
    rcases hside with rfl | rfl
    · constructor
      · rintro ⟨_, hout⟩
        have := not_or.mp hout
        norm_num at this
        linarith
      · exact fun h => ⟨by linarith, by norm_num; linarith⟩
    · constructor
      · rintro ⟨_, hout⟩
        have := not_or.mp hout
        norm_num at this
        linarith
      · exact fun h => ⟨by linarith, by norm_num; linarith⟩

/-- The strategies that hold until a signal, each with the histories that open
a side and those that keep it. -/
inductive SignalHold : Strategy Stance → (Decimal → List Bar → Prop) →
    (Decimal → List Bar → Prop) → Prop
  | fundingReversion (score : List Decimal → Decimal)
      (params : FundingReversion) (entryZ_pos : 0 < params.entryZ) :
      SignalHold
        (Stance.strategy params.lookback (params.next score) Stance.release)
        (fun side history =>
          Stretched (params.score score history) params.entryZ side)
        (fun side history => NotBack (params.score score history)
          params.entryZ params.exitZ side)
  | basis (score : List Decimal → Decimal) (proxy : List (DateTime × Decimal))
      (params : Basis) (entryZ_pos : 0 < params.entryZ) :
      SignalHold
        (Stance.strategy params.lookback (params.next score proxy)
          Stance.release)
        (fun side history => ∃ pairs ∈ params.window proxy history,
          Stretched (zscore score pairs) params.entryZ side)
        (fun side history => ∃ pairs ∈ params.window proxy history,
          NotBack (zscore score pairs) params.entryZ (1 / 2) side)
  | fundingCarry (params : FundingCarry)
      (entryBpsH_pos : 0 < params.entryBpsH) :
      SignalHold
        (Stance.strategy params.smoothHours params.next Stance.release)
        (fun side history =>
          Stretched (params.meanRate history) params.entryBpsH side)
        (fun side history => ∀ f ∈ params.meanRate history,
          params.entryBpsH / 2 ≤ -side * f)

/-- After any calls such a strategy is on a side exactly since a history that
opened it, with only histories that keep it since; a side it was on before
the calls lasts while all of them keep it. -/
theorem SignalHold.held_since {strategy : Strategy Stance}
    {opens keeps : Decimal → List Bar → Prop}
    (h : SignalHold strategy opens keeps) : HeldSince strategy opens keeps := by
  cases h with
  | fundingReversion score params hentry => exact params.heldSince score hentry
  | basis score proxy params hentry => exact params.heldSince score proxy hentry
  | fundingCarry params hentry => exact params.heldSince hentry

/-! ## A side kept through a lower rate -/

/-- An hour that ends with a funding rate. -/
def paidHour (rate : Decimal) : List Bar :=
  [⟨6, .polymarketRest, 0, some 100, some 100, some 100, some 100, none,
    some rate, 5, .constant, true⟩]

def carryParams : FundingCarry := ⟨1, 1, by decide⟩

/-- Two basis points open a short; 0.6 would not, but keep it. -/
theorem held_since_paid :
    ((Stance.strategy carryParams.smoothHours carryParams.next
        Stance.release).after .start
      [.target (paidHour (2 / 10000)),
        .target (paidHour (6 / 100000))]).position = -1 := by
  refine (SignalHold.held_since (.fundingCarry carryParams (by decide)) (-1)
    (Or.inr rfl) .start _).mpr (Or.inl ⟨[], _, _, rfl, ?_, ?_⟩)
  · exact ⟨2, by decide +kernel, by decide +kernel⟩
  · rw [List.forall_mem_singleton]
    have hrate : carryParams.meanRate (paidHour (6 / 100000)) =
        some (3 / 5) := by decide +kernel
    show ∀ f ∈ carryParams.meanRate _, _
    rw [hrate]
    simp [carryParams]
    norm_num

end Polyperps
