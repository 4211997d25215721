import Polyperps.DataIngest.MarketFeed

/-!
# The order of accepted ticks

The feed keeps one baseline for an instrument, the last tick it accepted, and
the filter compares sequence numbers with that one only, and only within a
source. So the numbers grow along any stretch of accepted ticks that come from
one source and carry one. Across a tick of another source, or one without a
number, nothing is compared.
-/

namespace Polyperps

open KeyedTable

/-! ## One check -/

/-- A tick comes after another of the same stream by its number. -/
def InOrder (previous tick : Tick) : Prop :=
  ∀ sp ∈ sameStream tick previous, sp.2 < sp.1

theorem checkPrevious_inOrder {tick previous : Tick} {bounds : SanityBounds}
    (h : checkPrevious tick previous bounds = .ok none) :
    InOrder previous tick := by
  intro sp hsp
  rw [Option.mem_def] at hsp
  by_contra hle
  unfold checkPrevious at h
  rw [hsp, Option.filter_some, if_pos (decide_eq_true (not_lt.mp hle))] at h
  cases h

/-- An accepted tick is in order with the baseline it was checked against. -/
theorem checkTick_inOrder {tick previous : Tick} {bounds : SanityBounds}
    (h : checkTick tick bounds (some previous) = .ok none) :
    InOrder previous tick := by
  unfold checkTick at h
  dsimp only at h
  split at h
  · cases h
  cases hprices : nonPositivePrice tick with
  | some r =>
      rw [hprices] at h
      cases h
  | none =>
      have hpos := prices_pos hprices
      rw [hprices] at h
      simp only [divide_of_ne_zero hpos.2.1.ne', bind, Except.bind, pure,
        Except.pure] at h
      split at h
      · cases h
      split at h
      · cases h
      exact checkPrevious_inOrder h

/-! ## A run -/

/-- The ticks of an instrument among some. -/
def ofInstrument (iid : InstrumentId) (ticks : List Tick) : List Tick :=
  ticks.filter fun t => t.instrumentId = iid

theorem ofInstrument_append_self {ticks : List Tick} {tick : Tick} :
    ofInstrument tick.instrumentId (ticks ++ [tick]) =
      ofInstrument tick.instrumentId ticks ++ [tick] := by
  simp [ofInstrument, List.filter_append]

theorem ofInstrument_append_ne {iid : InstrumentId} {ticks : List Tick}
    {tick : Tick} (h : tick.instrumentId ≠ iid) :
    ofInstrument iid (ticks ++ [tick]) = ofInstrument iid ticks := by
  simp [ofInstrument, List.filter_append, h]

namespace MarketFeed

variable {feed : MarketFeed} {accepted : List Tick}

/-- Hand an accepted tick on. -/
def collect (accepted : List Tick) (tick : Tick) : List Tick :=
  accepted ++ [tick]

/-- The baselines are the last accepted ticks, and the accepted ticks of an
instrument are in order one after the other. -/
structure Ordered (feed : MarketFeed) (accepted : List Tick) : Prop where
  sane : feed.Sane
  baseline : ∀ iid, feed.previous.lookup iid =
    (ofInstrument iid accepted).getLast?
  chain : ∀ iid, (ofInstrument iid accepted).IsChain InOrder

theorem Ordered.accept {tick : Tick} (h : Ordered feed accepted)
    (hpos : 0 < tick.markPrice)
    (hcheck : checkTick tick feed.bounds
      (feed.previous.lookup tick.instrumentId) = .ok none) :
    Ordered (feed.accept tick) (accepted ++ [tick]) := by
  refine ⟨h.sane.accept hpos, fun iid => ?_, fun iid => ?_⟩
  · rw [MarketFeed.accept, lookup_put]
    split
    · next heq =>
      obtain rfl := heq
      rw [ofInstrument_append_self, List.getLast?_concat]
    · next hne =>
      rw [ofInstrument_append_ne (Ne.symm hne)]
      exact h.baseline iid
  · by_cases hi : tick.instrumentId = iid
    · subst hi
      rw [ofInstrument_append_self]
      refine (h.chain _).append (List.isChain_singleton _) ?_
      intro previous hprevious t ht
      rw [List.head?_cons, Option.mem_some_iff] at ht
      subst ht
      rw [h.baseline, Option.mem_def.mp hprevious] at hcheck
      exact checkTick_inOrder hcheck
    · rw [ofInstrument_append_ne hi]
      exact h.chain iid

theorem Ordered.run (maxEvents : Option ℕ) (events : List (DateTime × Tick))
    (h : Ordered feed accepted) :
    ∃ feed' accepted', MarketFeed.run collect (fun s _ _ => s) maxEvents events
      feed accepted = .ok (feed', accepted') ∧ Ordered feed' accepted' := by
  induction events generalizing feed accepted with
  | nil => exact ⟨feed, accepted, rfl, h⟩
  | cons e rest ih =>
      obtain ⟨now, tick⟩ := e
      have hreceived : Ordered (feed.received now) accepted :=
        ⟨h.sane, h.baseline, h.chain⟩
      obtain ⟨r, hr, hpos⟩ := checkTick_returns tick (feed.received now).bounds
        ((feed.received now).previous.lookup tick.instrumentId)
        (fun p hp => hreceived.sane _ p hp)
      rw [MarketFeed.run]
      simp only [hr, bind, Except.bind]
      cases r with
      | none =>
          have haccept := hreceived.accept (hpos rfl) hr
          dsimp only
          split
          · exact ⟨_, _, rfl, haccept⟩
          · exact ih haccept
      | some r =>
          have hreject : Ordered ((feed.received now).reject r) accepted :=
            ⟨hreceived.sane, hreceived.baseline, hreceived.chain⟩
          dsimp only
          split
          · exact ⟨_, _, rfl, hreject⟩
          · exact ih hreject

/-! ## Stretches of one stream -/

/-- Ticks of one source that carry a number. -/
def OneStream (source : SourceType) (ticks : List Tick) : Prop :=
  ∀ t ∈ ticks, t.sourceType = source ∧ t.sequence.isSome

theorem OneStream.increasing {source : SourceType} {ticks : List Tick}
    (h : OneStream source ticks) (hchain : ticks.IsChain InOrder) :
    (ticks.filterMap (·.sequence)).IsChain (· < ·) := by
  induction ticks with
  | nil => exact List.isChain_nil
  | cons a rest ih =>
      obtain ⟨s, hs⟩ := Option.isSome_iff_exists.mp (h a (by simp)).2
      rw [List.filterMap_cons_some hs]
      have hrest := ih (fun t ht => h t (List.mem_cons_of_mem a ht))
        hchain.tail
      cases rest with
      | nil => exact List.isChain_singleton _
      | cons b rest =>
          obtain ⟨s', hs'⟩ := Option.isSome_iff_exists.mp (h b (by simp)).2
          rw [List.filterMap_cons_some hs'] at hrest ⊢
          refine List.isChain_cons_cons.mpr ⟨?_, hrest⟩
          have hsource : a.sourceType = b.sourceType :=
            (h a (by simp)).1.trans (h b (by simp)).1.symm
          have hsame : sameStream b a = some (s', s) := by
            simp [sameStream, hsource, hs, hs']
          exact hchain.rel (s', s) hsame

/-- Whatever the stream, the feed runs through it, and along every stretch of
the accepted ticks of an instrument that come from one source and carry a
number the numbers increase. -/
theorem accepted_increasing (bounds : SanityBounds) (maxEvents : Option ℕ)
    (events : List (DateTime × Tick)) :
    ∃ feed accepted, MarketFeed.run collect (fun s _ _ => s) maxEvents events
        (new bounds) [] = .ok (feed, accepted) ∧
      ∀ (iid : InstrumentId) (source : SourceType) (stretch : List Tick),
        stretch <:+: ofInstrument iid accepted → OneStream source stretch →
        (stretch.filterMap (·.sequence)).Pairwise (· < ·) := by
  have hnew : Ordered (new bounds) [] :=
    ⟨fun _ _ hp => (nomatch hp), fun _ => rfl, fun _ => List.isChain_nil⟩
  obtain ⟨feed, accepted, hrun, hordered⟩ := hnew.run maxEvents events
  refine ⟨feed, accepted, hrun, fun iid source stretch hin hone => ?_⟩
  obtain ⟨before, after, heq⟩ := hin
  have hchain := hordered.chain iid
  rw [← heq] at hchain
  exact List.isChain_iff_pairwise.mp
    (hone.increasing hchain.left_of_append.right_of_append)

/-! ## A tick of another source in between -/

/-- A tick of an instrument at a price of a hundred. -/
def tickOf (source : SourceType) (sequence : Option ℤ) (at' : DateTime) :
    Tick :=
  ⟨6, 100, 100, 100, 0, 0, at', at', source, sequence⟩

/-- Number five, a quote without a number, and number three. -/
def crossed : List (DateTime × Tick) :=
  [(0, tickOf .polymarketWs (some 5) 0),
    (second, tickOf .polymarketRest none second),
    (2 * second, tickOf .polymarketWs (some 3) (2 * second))]

/-- All three are accepted: the numbers of one source go down. -/
theorem accepted_crossed :
    ¬ ∀ (bounds : SanityBounds) (events : List (DateTime × Tick))
        (feed : MarketFeed) (accepted : List Tick),
        MarketFeed.run collect (fun s _ _ => s) none events (new bounds) [] =
          .ok (feed, accepted) →
        ∀ (iid : InstrumentId) (source : SourceType),
          (((ofInstrument iid accepted).filter fun t =>
            t.sourceType = source).filterMap (·.sequence)).Pairwise
              (· < ·) := by
  intro h
  have hall : (MarketFeed.run collect (fun s _ _ => s) none crossed
      (new defaultBounds) []).toOption.map Prod.snd =
        some (crossed.map Prod.snd) := by decide +kernel
  cases hrun : MarketFeed.run collect (fun s _ _ => s) none crossed
    (new defaultBounds) [] with
  | error e =>
      rw [hrun] at hall
      cases hall
  | ok r =>
      obtain ⟨feed, accepted⟩ := r
      rw [hrun] at hall
      obtain rfl := Option.some.inj hall
      have hdown := h defaultBounds crossed feed _ hrun 6 .polymarketWs
      exact absurd hdown (by decide +kernel)

end MarketFeed

end Polyperps
