import Polyperps.DataIngest.MarketFeed
import Polyperps.Proofs.LiveHistory

/-!
# A live bar is the bar of its hour when the hours come in order

The builder keeps one open hour and compares an accepted tick with it once: a
later hour closes it, anything else is added to it. A tick of an earlier hour
is therefore added to the wrong bar, and its own bar, closed before, is left
without it. Both are excluded by the order of the hours up to the first tick of
the latest one, and by nothing less: `HoursInOrder` is the condition, and
`live_bars_exact_iff` says it is exact.
-/

namespace Polyperps

open KeyedTable

/-- The hour of a tick. -/
def Tick.hour (t : Tick) : DateTime := floorHour t.exchangeTs

/-- The bar of a list of ticks: the first, largest, smallest and last mark, and
the last index and funding. -/
structure BarOf (ts : List Tick) (b : Bar) : Prop where
  openPrice : b.openPrice = (ts.map Tick.markPrice).head?
  high : b.high = (ts.map Tick.markPrice).max?
  low : b.low = (ts.map Tick.markPrice).min?
  close : b.close = (ts.map Tick.markPrice).getLast?
  indexClose : b.indexClose = (ts.map Tick.indexPrice).getLast?
  fundingRate : b.fundingRate = (ts.map Tick.fundingRate).getLast?

/-- What is seen of a builder behind a feed: the bars it closed, each with the
ticks added since the one before was closed, those added since, and every tick
accepted. -/
structure Watch where
  builder : LiveBarBuilder
  closed : List (Bar × List Tick)
  fed : List Tick
  accepted : List Tick

namespace Watch

def start (builder : LiveBarBuilder) : Watch := ⟨builder, [], [], []⟩

/-- An accepted tick goes on to `on_tick`. -/
def onAccept (s : Watch) (t : Tick) : Watch :=
  match s.builder.onTick t with
  | (builder, none) =>
      { s with
        builder, fed := s.fed ++ [t], accepted := s.accepted ++ [t] }
  | (builder, some bar) =>
      { builder, closed := s.closed ++ [(bar, s.fed)], fed := [t]
        accepted := s.accepted ++ [t] }

/-- A rejected tick goes nowhere. -/
def onReject (s : Watch) (_ : Tick) (_ : Rejection) : Watch := s

/-- Every bar is the bar of exactly the accepted ticks of its hour, and no hour
has two. -/
structure Exact (s : Watch) : Prop where
  bar : ∀ bt ∈ s.closed, BarOf bt.2 bt.1
  ticks : ∀ bt ∈ s.closed,
    bt.2 = s.accepted.filter fun t => t.hour = bt.1.openTs
  once : (s.closed.map fun bt => bt.1.openTs).Nodup

end Watch

/-- Ticks whose hours come in order until the latest one opens, and of which
none comes after that from an hour that had a tick before. -/
def HoursInOrder (ts : List Tick) : Prop :=
  ∀ before first after, ts = before ++ first :: after →
    (∀ t ∈ before, t.hour < first.hour) →
    (∀ t ∈ after, t.hour ≤ first.hour) →
    before.Pairwise (·.hour ≤ ·.hour) ∧
      ∀ t ∈ after, ∀ s ∈ before, t.hour ≠ s.hour

/-- The first tick of the latest hour is one tick. -/
theorem latest_unique {a a' b b' : List Tick} {x x' : Tick}
    (h : a ++ x :: b = a' ++ x' :: b') (ha : ∀ t ∈ a, t.hour < x.hour)
    (hb : ∀ t ∈ b, t.hour ≤ x.hour) (ha' : ∀ t ∈ a', t.hour < x'.hour)
    (hb' : ∀ t ∈ b', t.hour ≤ x'.hour) : a = a' ∧ x = x' ∧ b = b' := by
  rcases List.append_eq_append_iff.mp h with ⟨l, hl, hr⟩ | ⟨l, hl, hr⟩
  · cases l with
    | nil =>
        obtain ⟨hx, hbb⟩ := List.cons.inj hr
        exact ⟨by rw [hl, List.append_nil], hx, hbb⟩
    | cons y l =>
        obtain ⟨rfl, rfl⟩ := List.cons.inj hr
        have h1 := ha' x (by simp [hl])
        have h2 := hb x' (by simp)
        exact absurd h1 (not_lt.mpr h2)
  · cases l with
    | nil =>
        obtain ⟨hx, hbb⟩ := List.cons.inj hr
        exact ⟨by rw [hl, List.append_nil], hx.symm, hbb.symm⟩
    | cons y l =>
        obtain ⟨rfl, rfl⟩ := List.cons.inj hr
        have h1 := ha x' (by simp [hl])
        have h2 := hb' x (by simp)
        exact absurd h1 (not_lt.mpr h2)

/-! ## The accumulator -/

namespace Acc

variable {a : Acc} {ts : List Tick}

/-- Adding ticks one by one, field by field. -/
theorem foldl_add (a : Acc) (ts : List Tick) :
    (ts.foldl add a).openTs = a.openTs ∧ (ts.foldl add a).o = a.o ∧
      (ts.foldl add a).h = (ts.map Tick.markPrice).foldl max a.h ∧
      (ts.foldl add a).l = (ts.map Tick.markPrice).foldl min a.l ∧
      (ts.foldl add a).c = ((ts.map Tick.markPrice).getLast?).getD a.c ∧
      (ts.foldl add a).index = ((ts.map Tick.indexPrice).getLast?).getD a.index ∧
      (ts.foldl add a).funding =
        ((ts.map Tick.fundingRate).getLast?).getD a.funding := by
  induction ts generalizing a with
  | nil => exact ⟨rfl, rfl, rfl, rfl, rfl, rfl, rfl⟩
  | cons t rest ih =>
      obtain ⟨h1, h2, h3, h4, h5, h6, h7⟩ := ih (a.add t)
      refine ⟨h1, h2, h3, h4, ?_, ?_, ?_⟩
      · rw [List.foldl_cons, h5, List.map_cons, List.getLast?_cons]
        rfl
      · rw [List.foldl_cons, h6, List.map_cons, List.getLast?_cons]
        rfl
      · rw [List.foldl_cons, h7, List.map_cons, List.getLast?_cons]
        rfl

/-- The bar of an hour opened by `t`, with `ts` added. -/
theorem bar_of (t : Tick) (complete : Bool) (ts : List Tick)
    (iid : InstrumentId) (spread : Decimal) :
    BarOf (t :: ts) ((ts.foldl add (start t complete)).bar iid spread) := by
  obtain ⟨h1, h2, h3, h4, h5, h6, h7⟩ := foldl_add (start t complete) ts
  constructor
  · simp only [bar, h2, List.map_cons, List.head?_cons]
    rfl
  · simp only [bar, h3, List.map_cons, List.max?_cons']
    rfl
  · simp only [bar, h4, List.map_cons, List.min?_cons']
    rfl
  · simp only [bar, h5, List.map_cons, List.getLast?_cons]
    rfl
  · simp only [bar, h6, List.map_cons, List.getLast?_cons]
    rfl
  · simp only [bar, h7, List.map_cons, List.getLast?_cons]
    rfl

/-- The ticks an open hour was made of: one that opened it, and ones of no
later hour. -/
structure Feeds (a : Acc) (ts : List Tick) : Prop where
  made : ∃ t rest complete, ts = t :: rest ∧
    a = rest.foldl add (start t complete)
  within : ∀ t ∈ ts, t.hour ≤ a.openTs

theorem Feeds.opened (h : a.Feeds ts) :
    ∃ t rest, ts = t :: rest ∧ t.hour = a.openTs := by
  obtain ⟨t, rest, complete, hts, rfl⟩ := h.made
  exact ⟨t, rest, hts, (foldl_add (Acc.start t complete) rest).1.symm⟩

theorem Feeds.start (t : Tick) (complete : Bool) :
    (Acc.start t complete).Feeds [t] := by
  refine ⟨⟨t, [], complete, rfl, rfl⟩, fun s hs => ?_⟩
  rw [List.mem_singleton.mp hs]
  exact le_refl _

theorem Feeds.add (h : a.Feeds ts) {t : Tick} (ht : ¬ a.openTs < t.hour) :
    (a.add t).Feeds (ts ++ [t]) := by
  obtain ⟨s, rest, complete, rfl, ha⟩ := h.made
  refine ⟨⟨s, rest ++ [t], complete, rfl, ?_⟩, fun u hu => ?_⟩
  · rw [List.foldl_append, ← ha]
    rfl
  · rcases List.mem_append.mp hu with hu | hu
    · exact h.within u hu
    · rw [List.mem_singleton.mp hu]
      exact not_lt.mp ht

theorem Feeds.bar (h : a.Feeds ts) (iid : InstrumentId) (spread : Decimal) :
    BarOf ts (a.bar iid spread) := by
  obtain ⟨t, rest, complete, rfl, rfl⟩ := h.made
  exact bar_of t complete rest iid spread

end Acc

/-! ## The builder behind the feed -/

namespace Watch

/-- What was added since the last bar was closed, and the open hour. -/
def Opened (iid : InstrumentId) (s : Watch) : Prop :=
  match s.builder.acc.lookup iid with
  | none => s.closed = [] ∧ s.fed = []
  | some a => a.Feeds s.fed ∧ ∀ bt ∈ s.closed, bt.1.openTs < a.openTs

/-- The invariant of a builder fed one instrument: the accepted ticks are those
of the closed bars and those of the open hour, in that order. -/
structure Watched (iid : InstrumentId) (s : Watch) : Prop where
  accepted : s.accepted = s.closed.flatMap Prod.snd ++ s.fed
  opened : s.Opened iid
  closed : ∀ bt ∈ s.closed, BarOf bt.2 bt.1 ∧
    (∃ t rest, bt.2 = t :: rest ∧ t.hour = bt.1.openTs) ∧
    ∀ t ∈ bt.2, t.hour ≤ bt.1.openTs
  increasing : s.closed.Pairwise fun x y => x.1.openTs < y.1.openTs

variable {iid : InstrumentId} {s : Watch}

theorem Watched.start (builder : LiveBarBuilder)
    (h : builder.acc.lookup iid = none) : (Watch.start builder).Watched iid where
  accepted := rfl
  opened := by
    rw [Opened, Watch.start, h]
    exact ⟨rfl, rfl⟩
  closed := by simp [Watch.start]
  increasing := List.Pairwise.nil

/-- An accepted tick keeps the invariant: it opens the first hour, closes the
open one, or is added to it. -/
theorem Watched.onAccept (h : s.Watched iid) {t : Tick}
    (ht : t.instrumentId = iid) : (s.onAccept t).Watched iid := by
  subst ht
  have hopened := h.opened
  rw [Opened] at hopened
  cases hl : s.builder.acc.lookup t.instrumentId with
  | none =>
      rw [hl] at hopened
      have hon : s.onAccept t =
          { builder := { s.builder with
              acc := put t.instrumentId (Acc.start t true) s.builder.acc }
            closed := s.closed, fed := s.fed ++ [t]
            accepted := s.accepted ++ [t] } := by
        simp only [Watch.onAccept, LiveBarBuilder.onTick, hl]
      rw [hon]
      refine ⟨?_, ?_, h.closed, h.increasing⟩
      · rw [h.accepted, List.append_assoc]
      · simp only [Opened, lookup_put, if_true, hopened.1, hopened.2]
        exact ⟨.start t true, by simp⟩
  | some a =>
      rw [hl] at hopened
      obtain ⟨hfeeds, hbefore⟩ := hopened
      by_cases hlater : a.openTs < t.hour
      · have hon : s.onAccept t =
            { builder :=
                { s.builder.extend t.instrumentId
                    [a.bar t.instrumentId s.builder.spread] with
                  acc := put t.instrumentId
                    (Acc.start t (decide (floorHour t.exchangeTs =
                      a.openTs + Polyperps.hour))) s.builder.acc }
              closed := s.closed ++
                [(a.bar t.instrumentId s.builder.spread, s.fed)]
              fed := [t], accepted := s.accepted ++ [t] } := by
          have hlater' : a.openTs < floorHour t.exchangeTs := hlater
          simp only [Watch.onAccept, LiveBarBuilder.onTick, hl, if_pos hlater']
          rfl
        rw [hon]
        refine ⟨?_, ?_, fun bt hbt => ?_, ?_⟩
        · rw [h.accepted, List.flatMap_append]
          simp
        · simp only [Opened, lookup_put, if_true]
          refine ⟨.start t _, fun bt hbt => ?_⟩
          rcases List.mem_append.mp hbt with hbt | hbt
          · exact (hbefore bt hbt).trans hlater
          · rw [List.mem_singleton.mp hbt]
            exact hlater
        · rcases List.mem_append.mp hbt with hbt | hbt
          · exact h.closed bt hbt
          · rw [List.mem_singleton.mp hbt]
            exact ⟨hfeeds.bar _ _, hfeeds.opened, hfeeds.within⟩
        · rw [List.pairwise_append]
          refine ⟨h.increasing, List.pairwise_singleton _ _,
            fun x hx y hy => ?_⟩
          rw [List.mem_singleton.mp hy]
          exact hbefore x hx
      · have hon : s.onAccept t =
            { builder := { s.builder with
                acc := put t.instrumentId (a.add t) s.builder.acc }
              closed := s.closed, fed := s.fed ++ [t]
              accepted := s.accepted ++ [t] } := by
          have hlater' : ¬ a.openTs < floorHour t.exchangeTs := hlater
          simp only [Watch.onAccept, LiveBarBuilder.onTick, hl, if_neg hlater']
        rw [hon]
        refine ⟨?_, ?_, h.closed, h.increasing⟩
        · rw [h.accepted, List.append_assoc]
        · simp only [Opened, lookup_put, if_true]
          exact ⟨hfeeds.add hlater, hbefore⟩

/-- A feed of one instrument runs to its end, and keeps the invariant. -/
theorem Watched.run (maxEvents : Option ℕ) (events : List (DateTime × Tick))
    {feed : MarketFeed} (hfeed : feed.Sane)
    (hone : ∀ e ∈ events, e.2.instrumentId = iid) (h : s.Watched iid) :
    ∃ feed' s', MarketFeed.run Watch.onAccept Watch.onReject maxEvents events
      feed s = .ok (feed', s') ∧ s'.Watched iid := by
  induction events generalizing feed s with
  | nil => exact ⟨feed, s, rfl, h⟩
  | cons e rest ih =>
      obtain ⟨now, tick⟩ := e
      have htick : tick.instrumentId = iid := hone (now, tick) (by simp)
      have hrest : ∀ e ∈ rest, e.2.instrumentId = iid :=
        fun e he => hone e (List.mem_cons_of_mem _ he)
      obtain ⟨r, hr, hpos⟩ := checkTick_returns tick (feed.received now).bounds
        ((feed.received now).previous.lookup tick.instrumentId)
        (fun p hp => hfeed _ p hp)
      rw [MarketFeed.run]
      simp only [hr, bind, Except.bind]
      cases r with
      | none =>
          dsimp only
          split
          · exact ⟨_, _, rfl, h.onAccept htick⟩
          · exact ih (MarketFeed.Sane.accept (show (feed.received now).Sane from hfeed)
              (hpos rfl)) hrest (h.onAccept htick)
      | some r =>
          dsimp only
          split
          · exact ⟨_, _, rfl, h⟩
          · have hreject : ((feed.received now).reject r).Sane := hfeed
            exact ih hreject hrest h

/-! ## When the bars are exact -/

/-- The ticks of an hour are those of its bar, where every bar has ticks of its
own hour only. -/
theorem filter_closed {closed : List (Bar × List Tick)}
    (hincreasing : closed.Pairwise fun x y => x.1.openTs < y.1.openTs)
    (hown : ∀ bt ∈ closed, ∀ t ∈ bt.2, t.hour = bt.1.openTs)
    {bt : Bar × List Tick} (hbt : bt ∈ closed) :
    (closed.flatMap Prod.snd).filter (fun t => t.hour = bt.1.openTs) =
      bt.2 := by
  have hself : ∀ x ∈ closed, x.2.filter (fun t => t.hour = x.1.openTs) = x.2 := by
    intro x hx
    exact List.filter_eq_self.mpr fun t ht => by simpa using hown x hx t ht
  have hnone : ∀ l : List (Bar × List Tick), (∀ x ∈ l, x ∈ closed) →
      (∀ x ∈ l, x.1.openTs ≠ bt.1.openTs) →
      (l.flatMap Prod.snd).filter (fun t => t.hour = bt.1.openTs) = [] := by
    intro l hl hne
    refine List.filter_eq_nil_iff.mpr fun t ht => ?_
    obtain ⟨x, hx, htx⟩ := List.mem_flatMap.mp ht
    rw [hown x (hl x hx) t htx]
    simpa using hne x hx
  obtain ⟨l, r, rfl⟩ := List.append_of_mem hbt
  rw [List.pairwise_append, List.pairwise_cons] at hincreasing
  obtain ⟨-, ⟨hright, -⟩, hleft⟩ := hincreasing
  rw [List.flatMap_append, List.flatMap_cons, List.filter_append,
    List.filter_append, hnone l (by simp +contextual)
      (fun x hx => (hleft x hx bt (by simp)).ne),
    hself bt (by simp), hnone r (by simp +contextual)
      (fun x hx => (hright x hx).ne'), List.nil_append, List.append_nil]

/-- Exact bars have ticks of their own hours, and no tick of the open hour is
of theirs. -/
theorem Watched.exact_iff (h : s.Watched iid) :
    s.Exact ↔ (∀ bt ∈ s.closed, ∀ t ∈ bt.2, t.hour = bt.1.openTs) ∧
      ∀ bt ∈ s.closed, ∀ t ∈ s.fed, t.hour ≠ bt.1.openTs := by
  constructor
  · intro hexact
    have hown : ∀ bt ∈ s.closed, ∀ t ∈ bt.2, t.hour = bt.1.openTs := by
      intro bt hbt t ht
      rw [hexact.ticks bt hbt] at ht
      simpa using (List.mem_filter.mp ht).2
    refine ⟨hown, fun bt hbt t ht heq => ?_⟩
    -- the hour would have more ticks than its bar was made of
    have hall := hexact.ticks bt hbt
    rw [h.accepted, List.filter_append, filter_closed h.increasing hown hbt]
      at hall
    have hnil := List.self_eq_append_right.mp hall
    have hmem : t ∈ s.fed.filter fun t => t.hour = bt.1.openTs :=
      List.mem_filter.mpr ⟨ht, by simpa using heq⟩
    rw [hnil] at hmem
    cases hmem
  · rintro ⟨hown, hfed⟩
    refine ⟨fun bt hbt => (h.closed bt hbt).1, fun bt hbt => ?_, ?_⟩
    · rw [h.accepted, List.filter_append, filter_closed h.increasing hown hbt]
      refine (List.self_eq_append_right.mpr ?_)
      refine List.filter_eq_nil_iff.mpr fun t ht => ?_
      simpa using hfed bt hbt t ht
    · rw [List.nodup_iff_pairwise_ne, List.pairwise_map]
      exact h.increasing.imp fun hlt => hlt.ne

/-- Bars closed in order are exact if and only if the ticks came in the order
of their hours. -/
theorem Watched.exact_iff_inOrder (h : s.Watched iid) :
    s.Exact ↔ HoursInOrder s.accepted := by
  have hopened := h.opened
  rw [Opened] at hopened
  cases hl : s.builder.acc.lookup iid with
  | none =>
      rw [hl] at hopened
      rw [h.exact_iff, h.accepted, hopened.1, hopened.2]
      refine iff_of_true ⟨by simp, by simp⟩ fun before first after heq => ?_
      simp at heq
  | some a =>
  rw [hl] at hopened
  obtain ⟨hfeeds, hbefore⟩ := hopened
  obtain ⟨first, after, hfed, hfirst⟩ := hfeeds.opened
  have hpast : ∀ t ∈ s.closed.flatMap Prod.snd, t.hour < first.hour := by
    intro t ht
    obtain ⟨bt, hbt, htb⟩ := List.mem_flatMap.mp ht
    rw [hfirst]
    exact lt_of_le_of_lt ((h.closed bt hbt).2.2 t htb) (hbefore bt hbt)
  have hlast : ∀ t ∈ after, t.hour ≤ first.hour := by
    intro t ht
    rw [hfirst]
    exact hfeeds.within t (by simp [hfed, ht])
  -- there is one way to see the latest hour open, so the condition is about it
  have horder : HoursInOrder s.accepted ↔
      (s.closed.flatMap Prod.snd).Pairwise (·.hour ≤ ·.hour) ∧
        ∀ t ∈ after, ∀ u ∈ s.closed.flatMap Prod.snd, t.hour ≠ u.hour := by
    rw [h.accepted, hfed]
    constructor
    · intro ho
      exact ho _ first after rfl hpast hlast
    · intro ho before first' after' heq hb ha
      obtain ⟨rfl, rfl, rfl⟩ := latest_unique heq hpast hlast hb ha
      exact ho
  rw [h.exact_iff, horder]
  constructor
  · rintro ⟨hown, hnot⟩
    refine ⟨?_, fun t ht u hu heq => ?_⟩
    · rw [List.pairwise_flatMap]
      refine ⟨fun bt hbt => ?_, h.increasing.imp_of_mem
        fun {x y} hx hy hlt t ht u hu => ?_⟩
      · exact List.pairwise_of_forall_mem_list fun t ht u hu => by
          rw [hown bt hbt t ht, hown bt hbt u hu]
      · rw [hown x hx t ht, hown y hy u hu]
        exact hlt.le
    · obtain ⟨bt, hbt, hub⟩ := List.mem_flatMap.mp hu
      exact hnot bt hbt t (by simp [hfed, ht])
        (heq.trans (hown bt hbt u hub))
  · rintro ⟨hsorted, hnot⟩
    rw [List.pairwise_flatMap] at hsorted
    refine ⟨fun bt hbt t ht => ?_, fun bt hbt t ht heq => ?_⟩
    · obtain ⟨-, ⟨t₀, rest, heq, hhour⟩, hwithin⟩ := h.closed bt hbt
      have hp := hsorted.1 bt hbt
      rw [heq] at ht hp
      refine le_antisymm (hwithin t (by rw [heq]; exact ht)) ?_
      rcases List.mem_cons.mp ht with rfl | ht
      · exact hhour.ge
      · rw [← hhour]
        exact (List.pairwise_cons.mp hp).1 t ht
    · obtain ⟨-, ⟨t₀, rest, hbt₂, hhour⟩, -⟩ := h.closed bt hbt
      have ht₀ : t₀ ∈ s.closed.flatMap Prod.snd :=
        List.mem_flatMap.mpr ⟨bt, hbt, by simp [hbt₂]⟩
      rw [hfed] at ht
      rcases List.mem_cons.mp ht with rfl | ht
      · exact (hpast t₀ ht₀).ne (hhour.trans heq.symm)
      · exact hnot t ht t₀ ht₀ (heq.trans hhour.symm)

end Watch

/-- A feed of one instrument in front of a builder runs to its end, and every
bar it closed is the bar of exactly the accepted ticks of its hour if and only
if the accepted ticks came in the order of their hours. -/
theorem live_bars_exact_iff (bounds : SanityBounds) (iid : InstrumentId)
    (events : List (DateTime × Tick))
    (hone : ∀ e ∈ events, e.2.instrumentId = iid) (maxEvents : Option ℕ)
    (spread : Decimal) (maxHistory : ℕ) (seeds : List Bar) :
    ∃ feed s, MarketFeed.run Watch.onAccept Watch.onReject maxEvents events
        (.new bounds)
        (.start ((LiveBarBuilder.new spread maxHistory).seed iid seeds)) =
          .ok (feed, s) ∧
      (s.Exact ↔ HoursInOrder s.accepted) := by
  have hsane : (MarketFeed.new bounds).Sane := fun _ _ hp => by cases hp
  obtain ⟨feed, s, hrun, hs⟩ := Watch.Watched.run maxEvents
    events hsane hone (.start
      ((LiveBarBuilder.new spread maxHistory).seed iid seeds) rfl)
  exact ⟨feed, s, hrun, hs.exact_iff_inOrder⟩

/-! ### A late tick -/

/-- Ticks of one instrument in hours 3 and 4, one of hour 3 that comes after
hour 4 has opened, and one of hour 5, each received when it was sent. -/
def lateTicks : List (DateTime × Tick) :=
  [4 * hour - 2 * second, 4 * hour + second, 4 * hour - second,
    5 * hour + second].map fun t => (t, LiveBarBuilder.tickAt t)

/-- The bar of hour 3 was made of one of its two ticks, that of hour 4 of its
own and the late one. -/
theorem late_tick_misplaced :
    ¬ ∀ (bounds : SanityBounds) (iid : InstrumentId)
      (events : List (DateTime × Tick)),
      (∀ e ∈ events, e.2.instrumentId = iid) →
      ∀ feed s, MarketFeed.run Watch.onAccept Watch.onReject none events
        (.new bounds) (.start (.new 5 500)) = .ok (feed, s) → s.Exact := by
  intro h
  have hcounts : (match MarketFeed.run Watch.onAccept Watch.onReject none
        lateTicks (.new defaultBounds) (.start (.new 5 500)) with
      | .ok (_, s) => s.closed.map fun bt =>
          (bt.2.length,
            (s.accepted.filter fun t => t.hour = bt.1.openTs).length)
      | .error _ => []) = [(1, 2), (2, 1)] := by
    decide +kernel
  have hexact := h defaultBounds 6 lateTicks (by decide +kernel)
  cases hrun : MarketFeed.run Watch.onAccept Watch.onReject none lateTicks
      (.new defaultBounds) (.start (.new 5 500)) with
  | error e =>
      rw [hrun] at hcounts
      cases hcounts
  | ok r =>
      obtain ⟨feed, s⟩ := r
      rw [hrun] at hcounts
      obtain ⟨bt, rest, heq, hbt, -⟩ := List.map_eq_cons_iff.mp hcounts
      have hticks := (hexact feed s hrun).ticks bt (by simp [heq])
      rw [Prod.mk.injEq, ← hticks] at hbt
      omega

theorem live_bars_exact_iff_lateTicks :
    ∃ feed s, MarketFeed.run Watch.onAccept Watch.onReject none lateTicks
        (.new defaultBounds) (.start ((LiveBarBuilder.new 5 500).seed 6 [])) =
          .ok (feed, s) ∧
      (s.Exact ↔ HoursInOrder s.accepted) :=
  live_bars_exact_iff defaultBounds 6 lateTicks (by decide +kernel) none 5 500 []

end Polyperps
