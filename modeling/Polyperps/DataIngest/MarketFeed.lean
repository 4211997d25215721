import Polyperps.Exchange.Types
import Polyperps.Lib.Dict

/-!
# The tick filter and the feed behind it

`check_tick` of `data_ingest/filters.py` and `MarketFeed.run` of
`data_ingest/market_feed.py`. A rejection keeps the numbers its detail text is
printed from.
-/

namespace Polyperps

open KeyedTable

structure SanityBounds where
  maxStaleness : DateTime
  maxAbsFundingRate : Decimal
  maxMarkIndexDivergence : Decimal
  maxJump : Decimal
  maxBaselineAge : DateTime
deriving DecidableEq

/-- `DEFAULT_BOUNDS`. -/
def defaultBounds : SanityBounds where
  maxStaleness := 5 * second
  maxAbsFundingRate := 1 / 100
  maxMarkIndexDivergence := 5 / 100
  maxJump := 10 / 100
  maxBaselineAge := 60 * second

inductive Rejection
  | stale (age : DateTime)
  | nonPositivePrice (name : String) (price : Decimal)
  | markIndexDivergence (divergence : Decimal)
  | fundingOutOfBounds (rate : Decimal)
  | outOfOrder (sequence previous : ℤ)
  | priceJump (jump previousMark : Decimal)
deriving DecidableEq

/-- The reason a rejection is counted under. -/
def Rejection.reason : Rejection → String
  | .stale _ => "stale"
  | .nonPositivePrice _ _ => "non_positive_price"
  | .markIndexDivergence _ => "mark_index_divergence"
  | .fundingOutOfBounds _ => "funding_out_of_bounds"
  | .outOfOrder _ _ => "out_of_order"
  | .priceJump _ _ => "price_jump"

/-- The first price of a tick that is not positive. -/
def nonPositivePrice (tick : Tick) : Option Rejection :=
  ([("mark_price", tick.markPrice), ("index_price", tick.indexPrice),
      ("last_price", tick.lastPrice)].find? fun p => p.2 ≤ 0).map fun p =>
    .nonPositivePrice p.1 p.2

/-- The sequence numbers of two ticks of one stream, where both have one. -/
def sameStream (tick previous : Tick) : Option (ℤ × ℤ) :=
  if previous.sourceType = tick.sourceType then
    match tick.sequence, previous.sequence with
    | some s, some p => some (s, p)
    | _, _ => none
  else none

/-- The checks against the last accepted tick. -/
def checkPrevious (tick previous : Tick) (bounds : SanityBounds) :
    Except Exc (Option Rejection) :=
  match (sameStream tick previous).filter fun sp => decide (sp.1 ≤ sp.2) with
  | some (s, p) => .ok (some (.outOfOrder s p))
  | none =>
      if tick.exchangeTs - previous.exchangeTs ≤ bounds.maxBaselineAge then do
        let jump ← divide |tick.markPrice - previous.markPrice|
          previous.markPrice
        return if bounds.maxJump < jump then
          some (.priceJump jump previous.markPrice) else none
      else .ok none

def checkTick (tick : Tick) (bounds : SanityBounds) (previous : Option Tick) :
    Except Exc (Option Rejection) :=
  let age := tick.receivedTs - tick.exchangeTs
  if bounds.maxStaleness < age then .ok (some (.stale age))
  else
    match nonPositivePrice tick with
    | some r => .ok (some r)
    | none => do
        let divergence ← divide |tick.markPrice - tick.indexPrice|
          tick.indexPrice
        if bounds.maxMarkIndexDivergence < divergence then
          return some (.markIndexDivergence divergence)
        if bounds.maxAbsFundingRate < |tick.fundingRate| then
          return some (.fundingOutOfBounds tick.fundingRate)
        match previous with
        | none => return none
        | some previous => checkPrevious tick previous bounds

structure FeedHealth where
  received : ℕ
  accepted : ℕ
  rejected : List (String × ℕ)
  lastAccepted : List (InstrumentId × DateTime)
  lastEventWallclock : Option DateTime
deriving DecidableEq

structure MarketFeed where
  bounds : SanityBounds
  previous : List (InstrumentId × Tick)
  health : FeedHealth

namespace MarketFeed

variable {σ : Type}

def new (bounds : SanityBounds) : MarketFeed :=
  ⟨bounds, [], ⟨0, 0, [], [], none⟩⟩

/-- The feed once a tick has come in at a wall-clock time. -/
def received (feed : MarketFeed) (now : DateTime) : MarketFeed :=
  { feed with
    health := { feed.health with
      received := feed.health.received + 1
      lastEventWallclock := some now } }

/-- An accepted tick becomes the baseline of its instrument. -/
def accept (feed : MarketFeed) (tick : Tick) : MarketFeed :=
  { feed with
    previous := put tick.instrumentId tick feed.previous
    health := { feed.health with
      accepted := feed.health.accepted + 1
      lastAccepted :=
        put tick.instrumentId tick.exchangeTs feed.health.lastAccepted } }

/-- A rejected tick is counted, and never becomes a baseline. -/
def reject (feed : MarketFeed) (r : Rejection) : MarketFeed :=
  { feed with
    health := { feed.health with
      rejected := put r.reason
        ((feed.health.rejected.lookup r.reason).getD 0 + 1)
        feed.health.rejected } }

/-- `run`, over the ticks with the wall clock at each; the callbacks work on a
state `σ`. -/
def run (onAccept : σ → Tick → σ) (onReject : σ → Tick → Rejection → σ)
    (maxEvents : Option ℕ) :
    List (DateTime × Tick) → MarketFeed → σ → Except Exc (MarketFeed × σ)
  | [], feed, s => .ok (feed, s)
  | (now, tick) :: rest, feed, s => do
      let feed := feed.received now
      let rejection ← checkTick tick feed.bounds
        (feed.previous.lookup tick.instrumentId)
      let (feed, s) := match rejection with
        | none => (feed.accept tick, onAccept s tick)
        | some r => (feed.reject r, onReject s tick r)
      if maxEvents.any fun n => n ≤ feed.health.received then .ok (feed, s)
      else run onAccept onReject maxEvents rest feed s

/-! The baselines are accepted ticks, so their marks are positive and no check
divides by zero. -/

/-- Every baseline has a positive mark. -/
def Sane (feed : MarketFeed) : Prop :=
  ∀ iid previous, feed.previous.lookup iid = some previous →
    0 < previous.markPrice

theorem Sane.accept {feed : MarketFeed} {tick : Tick} (h : feed.Sane)
    (ht : 0 < tick.markPrice) : (feed.accept tick).Sane := by
  intro iid previous hp
  rw [MarketFeed.accept, lookup_put] at hp
  split at hp
  · rw [← Option.some.inj hp]
    exact ht
  · exact h iid previous hp

end MarketFeed

/-- A tick without a non-positive price has three positive ones. -/
theorem prices_pos {tick : Tick} (h : nonPositivePrice tick = none) :
    0 < tick.markPrice ∧ 0 < tick.indexPrice ∧ 0 < tick.lastPrice := by
  simpa [nonPositivePrice] using h

theorem checkPrevious_returns (tick previous : Tick) (bounds : SanityBounds)
    (h : 0 < previous.markPrice) :
    ∃ r, checkPrevious tick previous bounds = .ok r := by
  unfold checkPrevious
  split
  · exact ⟨_, rfl⟩
  · split
    · rw [divide_of_ne_zero h.ne']
      exact ⟨_, rfl⟩
    · exact ⟨_, rfl⟩

/-- A check against a sane baseline returns, and accepts positive marks
only. -/
theorem checkTick_returns (tick : Tick) (bounds : SanityBounds)
    (previous : Option Tick) (h : ∀ p ∈ previous, 0 < p.markPrice) :
    ∃ r, checkTick tick bounds previous = .ok r ∧
      (r = none → 0 < tick.markPrice) := by
  unfold checkTick
  simp only
  split
  · exact ⟨_, rfl, nofun⟩
  cases hprices : nonPositivePrice tick with
  | some r => exact ⟨_, rfl, nofun⟩
  | none =>
      have hpos := prices_pos hprices
      simp only [divide_of_ne_zero hpos.2.1.ne', bind, Except.bind, pure,
        Except.pure]
      split
      · exact ⟨_, rfl, nofun⟩
      split
      · exact ⟨_, rfl, nofun⟩
      cases previous with
      | none => exact ⟨_, rfl, fun _ => hpos.1⟩
      | some p =>
          obtain ⟨r, hr⟩ := checkPrevious_returns tick p bounds (h p rfl)
          exact ⟨r, hr, fun _ => hpos.1⟩

end Polyperps
