import Polyperps.Backtest.Bars
import Polyperps.Backtest.Strategy
import Polyperps.Lib.Slices

/-!
# The six hypotheses

`polyperps/strategies/`. A strategy keeps the side it is on and, where it holds
for a number of bars, how many it has held; `target` answers with the side it
is on afterwards. The z-score of a window is a floating-point value, so it is a
parameter here; that a window of fewer than three values has none is not.
-/

namespace Polyperps

open Slices

/-- `_position` and `_held`. -/
structure Stance where
  position : Decimal
  held : ℤ
deriving DecidableEq

namespace Stance

def start : Stance := ⟨0, 0⟩

/-- A strategy that answers with the side its state is on. -/
def strategy (warmup : ℕ) (next : Stance → List Bar → Stance)
    (onFlatten : Stance → Stance) : Strategy Stance where
  warmup := warmup
  target := fun s history => ((next s history).position, next s history)
  onFlatten := some onFlatten
  onRecover := some fun positionSign s => { s with position := positionSign }

/-- `on_flatten` of a strategy that keeps no count. -/
def release (s : Stance) : Stance := { s with position := 0 }

/-- `on_flatten` of a strategy that counts the bars it holds. -/
def reset (_ : Stance) : Stance := start

/-- One more bar held, and flat after `holdBars` of them. -/
def hold (holdBars : ℤ) (s : Stance) : Stance :=
  if holdBars ≤ s.held + 1 then start else { s with held := s.held + 1 }

/-- Fade a stretched value: short beyond `entryZ`, long below `-entryZ`, flat
inside `exitZ`, and no change without a z-score. -/
def fade (z : Option Decimal) (entryZ exitZ : Decimal) (s : Stance) : Stance :=
  match z with
  | none => s
  | some z =>
      if entryZ ≤ z then { s with position := -1 }
      else if z ≤ -entryZ then { s with position := 1 }
      else if |z| < exitZ then { s with position := 0 }
      else s

end Stance

def bps : Decimal := 10000

/-- A value arithmetic may divide by: `not x` is true of `None` and of 0. -/
def truthy (x : Option Decimal) : Option Decimal := x.filter (· ≠ 0)

/-- `zscore`, its floating-point part a parameter. -/
def zscore (score : List Decimal → Decimal) (values : List Decimal) :
    Option Decimal :=
  if values.length < 3 then none else some (score values)

/-- The last two bars of a history. -/
def lastTwo (history : List Bar) : Option (Bar × Bar) :=
  match history.reverse with
  | c :: p :: _ => some (p, c)
  | _ => none

/-- `_ret`: the return of two closes exactly one hour apart. -/
def ret (prev cur : Bar) : Option Decimal :=
  if cur.openTs - prev.openTs ≠ hour then none
  else
    match truthy prev.close, truthy cur.close with
    | some p, some c => some (c / p - 1)
    | _, _ => none

/-! ## H1: funding-rate mean reversion -/

structure FundingReversion where
  lookback : ℕ
  entryZ : Decimal
  exitZ : Decimal
deriving DecidableEq

def FundingReversion.next (score : List Decimal → Decimal)
    (params : FundingReversion) (s : Stance) (history : List Bar) : Stance :=
  let window := (keepLast params.lookback history).filterMap (·.fundingRate)
  s.fade (zscore score window) params.entryZ params.exitZ

/-! ## H2: cross-venue basis -/

structure Basis where
  lookback : ℕ
  entryZ : Decimal
deriving DecidableEq

/-- `_pair`: the basis of an hour that has both legs. -/
def Basis.pair (proxy : List (DateTime × Decimal)) (b : Bar) :
    Option Decimal :=
  match b.close, truthy (proxy.lookup b.openTs) with
  | some close, some hl => some (close / hl - 1)
  | _, _ => none

/-- The walk backwards collects the last `lookback` hours that have both legs;
the current hour has to be one of them. -/
def Basis.next (score : List Decimal → Decimal)
    (proxy : List (DateTime × Decimal)) (params : Basis) (s : Stance)
    (history : List Bar) : Stance :=
  if (history.getLast?.bind (pair proxy)).isNone then s.release
  else
    let window := keepLast params.lookback (history.filterMap (pair proxy))
    if window.length < params.lookback then s.release
    else s.fade (zscore score window) params.entryZ (1 / 2)

/-! ## H3: mark-versus-index lag -/

structure IndexLag where
  entryBps : Decimal
  holdBars : ℤ
deriving DecidableEq

/-- The caller's history is not empty. -/
def IndexLag.next (params : IndexLag) (s : Stance) (history : List Bar) :
    Stance :=
  match history.getLast? with
  | none => s
  | some last =>
      match truthy last.indexClose, last.close with
      | some index, some close =>
          if s.position ≠ 0 then s.hold params.holdBars
          else
            let premium := (close / index - 1) * bps
            if premium ≤ -params.entryBps then ⟨1, 0⟩
            else if params.entryBps ≤ premium then ⟨-1, 0⟩
            else { s with held := 0 }
      | _, _ => .start

/-! ## H4: lead-lag -/

structure LeadLag where
  gapBps : Decimal
  holdBars : ℤ
deriving DecidableEq

def LeadLag.next (proxy : List (DateTime × Decimal)) (params : LeadLag)
    (s : Stance) (history : List Bar) : Stance :=
  if s.position ≠ 0 then s.hold params.holdBars
  else
    match lastTwo history with
    | none => s
    | some (p, c) =>
        match ret p c, truthy (proxy.lookup p.openTs),
          truthy (proxy.lookup c.openTs) with
        | some r, some hlP, some hlC =>
            let rHl := hlC / hlP - 1
            let lag := rHl - r
            let gap := params.gapBps / bps
            if gap ≤ |rHl| ∧ 0 < lag * rHl ∧ gap ≤ |lag| then
              ⟨if 0 < rHl then 1 else -1, 0⟩
            else s
        | _, _, _ => s

/-! ## H5: overshoot -/

structure Overshoot where
  entryZ : Decimal
  holdBars : ℤ
deriving DecidableEq

/-- `_LOOKBACK`. -/
def Overshoot.lookback : ℕ := 168

/-- `_MIN_MOVE_BPS`. -/
def Overshoot.minMoveBps : Decimal := 30

/-- The valid returns of a history, in order. -/
def Overshoot.returns (history : List Bar) : List Decimal :=
  (history.zip history.tail).filterMap fun pc => ret pc.1 pc.2

def Overshoot.next (score : List Decimal → Decimal) (params : Overshoot)
    (s : Stance) (history : List Bar) : Stance :=
  if s.position ≠ 0 then s.hold params.holdBars
  else
    match (lastTwo history).bind fun pc => ret pc.1 pc.2 with
    | none => s
    | some r =>
        let window := keepLast lookback (returns history)
        if window.length < lookback then s
        else
          match zscore score window with
          | none => s
          | some z =>
              if params.entryZ ≤ |z| ∧ minMoveBps ≤ |r| * bps then
                ⟨if 0 < r then -1 else 1, 0⟩
              else s

/-! ## H6: funding carry -/

/-- The mean is over `smooth_hours` rates, so there has to be one. It is exact
here, and rounded to 28 digits in the source. -/
structure FundingCarry where
  entryBpsH : Decimal
  smoothHours : ℕ
  smoothHours_pos : 0 < smoothHours
deriving DecidableEq

def FundingCarry.next (params : FundingCarry) (s : Stance)
    (history : List Bar) : Stance :=
  let rates := keepLast params.smoothHours
    (history.filterMap (·.fundingRate))
  if rates.length < params.smoothHours then s
  else
    let f := rates.sum / rates.length * bps
    let half := params.entryBpsH / 2
    if params.entryBpsH ≤ f then { s with position := -1 }
    else if f ≤ -params.entryBpsH then { s with position := 1 }
    else if (s.position < 0 ∧ f < half) ∨ (0 < s.position ∧ -half < f) then
      { s with position := 0 }
    else s

/-! ## Building a strategy -/

inductive Hypothesis
  | h1
  | h2
  | h3
  | h4
  | h5
  | h6
deriving DecidableEq, Repr

namespace Hypothesis

/-- `args.hypothesis`, the text a message carries. -/
def value : Hypothesis → String
  | .h1 => "h1"
  | .h2 => "h2"
  | .h3 => "h3"
  | .h4 => "h4"
  | .h5 => "h5"
  | .h6 => "h6"

/-- The parameters a grid point of the hypothesis sets. -/
def Params : Hypothesis → Type
  | .h1 => FundingReversion
  | .h2 => Basis
  | .h3 => IndexLag
  | .h4 => LeadLag
  | .h5 => Overshoot
  | .h6 => FundingCarry

/-- The hypotheses that read a second venue. -/
def needsProxy : Hypothesis → Bool
  | .h2 | .h4 => true
  | _ => false

/-- The proxy closes a hypothesis cannot do without. -/
def requireProxy (h : Hypothesis)
    (proxy : Option (List (DateTime × Decimal))) :
    Except Exc (List (DateTime × Decimal)) :=
  match proxy with
  | some m => .ok m
  | none => .error ⟨.valueError,
      h.value ++ " needs proxy_close_by_hour"⟩

end Hypothesis

/-- `build_strategy`. -/
def buildStrategy (score : List Decimal → Decimal) (h : Hypothesis)
    (params : h.Params) (proxy : Option (List (DateTime × Decimal))) :
    Except Exc (Strategy Stance) :=
  match h, params with
  | .h1, (params : FundingReversion) =>
      .ok (Stance.strategy params.lookback (params.next score) Stance.release)
  | .h2, (params : Basis) => do
      let m ← Hypothesis.h2.requireProxy proxy
      return Stance.strategy params.lookback (params.next score m)
        Stance.release
  | .h3, (params : IndexLag) =>
      .ok (Stance.strategy 1 params.next Stance.reset)
  | .h4, (params : LeadLag) => do
      let m ← Hypothesis.h4.requireProxy proxy
      return Stance.strategy 2 (params.next m) Stance.reset
  | .h5, (params : Overshoot) =>
      .ok (Stance.strategy (Overshoot.lookback + 1) (params.next score)
        Stance.reset)
  | .h6, (params : FundingCarry) =>
      .ok (Stance.strategy params.smoothHours params.next Stance.release)

end Polyperps
