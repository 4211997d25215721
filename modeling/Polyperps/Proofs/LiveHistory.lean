import Polyperps.Execution.LiveBars

/-!
# The hourly history has no hole between live bars

The history is a tail of the seeded bars followed by the live ones. The
seeded bars are complete ones with hours missing between them where the
stored rows have none, as `seed_history` means it; of the live ones each is
an hour after the one before or says that it is not. The open hour carries
the invariant: it is later than every bar of the history, and either an hour
after the last live bar or incomplete.
-/

namespace Polyperps

open KeyedTable Slices

/-- A pair of consecutive bars the router may trade through: an hour apart,
or the later one incomplete. -/
def Hourly (a b : Bar) : Prop :=
  b.openTs = a.openTs + hour ∨ b.complete = false

/-! ## The seeded bars -/

/-- The seeded bars are complete, in order and before the current hour. -/
theorem seedBars_sorted (rows : HourlyRows) (iid : InstrumentId)
    (source : SourceType) (n : ℕ) (now : DateTime) :
    (seedBars rows iid source n now).Pairwise (·.openTs < ·.openTs) ∧
      ∀ b ∈ seedBars rows iid source n now,
        b.openTs < floorHour now ∧ b.complete = true := by
  unfold seedBars
  simp only
  split
  · exact ⟨List.Pairwise.nil, by simp⟩
  · obtain ⟨hsorted, hbefore⟩ := rows.buildBars_sorted iid source proxySpreadBps
      (floorHour now - n * seedWindowFactor * hour) (floorHour now)
    refine ⟨?_, fun b hb => ?_⟩
    · refine List.Pairwise.sublist keepLast_suffix.sublist ?_
      rw [List.pairwise_map]
      exact hsorted.filter _
    · obtain ⟨a, ha, rfl⟩ := List.mem_map.mp (keepLast_suffix.subset hb)
      obtain ⟨hmem, hcomplete⟩ := List.mem_filter.mp ha
      exact ⟨hbefore a hmem, hcomplete⟩

/-! ## The history -/

namespace LiveBarBuilder

variable {b : LiveBarBuilder} {iid : InstrumentId} {now : DateTime}
  {seeds : List Bar}

/-- A history: a tail of the seeded bars, then live bars that follow each
other without a silent hole. -/
structure Unbroken (now : DateTime) (seeds history old live : List Bar) :
    Prop where
  split : history = old ++ live
  seeded : old <:+ seeds
  past : ∀ x ∈ old, x.openTs < floorHour now ∧ x.complete = true
  present : ∀ x ∈ live, floorHour now ≤ x.openTs
  increasing : history.Pairwise (·.openTs < ·.openTs)
  hourly : live.IsChain Hourly

/-- What the open hour promises about the live bars: it comes after them all,
and right after the last or as an incomplete bar. -/
structure Follows (now : DateTime) (live : List Bar) (a : Acc) : Prop where
  present : floorHour now ≤ a.openTs
  later : ∀ x ∈ live, x.openTs < a.openTs
  next : ∀ x ∈ live.getLast?,
    a.openTs = x.openTs + hour ∨ a.complete = false

/-- The invariant of a builder whose instrument was seeded once. -/
def Tracks (now : DateTime) (seeds : List Bar) (iid : InstrumentId)
    (b : LiveBarBuilder) : Prop :=
  ∃ old live, Unbroken now seeds (b.history iid) old live ∧
    match b.acc.lookup iid with
    | none => live = []
    | some a => Follows now live a

theorem history_extend (b : LiveBarBuilder) (iid other : InstrumentId)
    (bars : List Bar) :
    (b.extend iid bars).history other =
      if other = iid then keepLast b.maxHistory (b.history iid ++ bars)
      else b.history other := by
  unfold extend history
  simp only [lookup_put]
  split <;> rfl

/-- A cut history is unbroken again, on tails of its two parts. -/
theorem Unbroken.keepLast {history old live : List Bar}
    (h : Unbroken now seeds history old live) (n : ℕ) :
    ∃ old' live', Unbroken now seeds (keepLast n history) old' live' ∧
      live' <:+ live := by
  obtain ⟨old', live', hsplit, hold, hlive⟩ :=
    keepLast_append n old live
  rw [← h.split] at hsplit
  refine ⟨old', live', ?_, hlive⟩
  exact
    { split := hsplit
      seeded := hold.trans h.seeded
      past := fun x hx => h.past x (hold.subset hx)
      present := fun x hx => h.present x (hlive.subset hx)
      increasing := h.increasing.sublist keepLast_suffix.sublist
      hourly := h.hourly.suffix hlive }

theorem Follows.suffix {live live' : List Bar} {a : Acc}
    (h : Follows now live a) (hs : live' <:+ live) : Follows now live' a := by
  refine ⟨h.present, fun x hx => h.later x (hs.subset hx), fun x hx => ?_⟩
  obtain ⟨r, rfl⟩ := hs
  apply h.next x
  rw [List.getLast?_append, hx]
  rfl

/-- Closing the open hour: its bar follows the live ones. -/
theorem Unbroken.close {history old live : List Bar} {a : Acc}
    (h : Unbroken now seeds history old live) (ha : Follows now live a)
    (iid : InstrumentId) (s : Decimal) :
    Unbroken now seeds (history ++ [a.bar iid s]) old
      (live ++ [a.bar iid s]) := by
  refine
    { split := by rw [h.split, List.append_assoc]
      seeded := h.seeded
      past := h.past
      present := ?_
      increasing := ?_
      hourly := ?_ }
  · intro x hx
    rcases List.mem_append.mp hx with hx | hx
    · exact h.present x hx
    · rw [List.mem_singleton.mp hx]
      exact ha.present
  · rw [List.pairwise_append]
    refine ⟨h.increasing, List.pairwise_singleton _ _, fun x hx y hy => ?_⟩
    rw [List.mem_singleton.mp hy]
    rw [h.split] at hx
    rcases List.mem_append.mp hx with hx | hx
    · exact lt_of_lt_of_le (h.past x hx).1 ha.present
    · exact ha.later x hx
  · rw [List.isChain_append]
    refine ⟨h.hourly, List.isChain_singleton _, fun x hx y hy => ?_⟩
    obtain rfl : a.bar iid s = y := by simpa using hy
    exact ha.next x hx

/-- The hour a later tick opens follows the bar the tick closed. -/
theorem Follows.start {live : List Bar} {a : Acc} {s : Decimal} {t : Tick}
    (ha : Follows now live a) (ht : a.openTs < floorHour t.exchangeTs) :
    Follows now (live ++ [a.bar iid s])
      (Acc.start t (decide (floorHour t.exchangeTs = a.openTs + hour))) := by
  refine ⟨ha.present.trans ht.le, fun x hx => ?_, fun x hx => ?_⟩
  · rcases List.mem_append.mp hx with hx | hx
    · exact (ha.later x hx).trans ht
    · rw [List.mem_singleton.mp hx]
      exact ht
  · obtain rfl : a.bar iid s = x := by simpa using hx
    by_cases hnext : floorHour t.exchangeTs = a.openTs + hour
    · exact .inl hnext
    · exact .inr (decide_eq_false hnext)

/-! What a tick does to the builder: it opens the first hour, opens a later
one, or is added to the open one. -/

theorem onTick_first {t : Tick} (hl : b.acc.lookup t.instrumentId = none) :
    (b.onTick t).1 =
      { b with acc := put t.instrumentId (Acc.start t true) b.acc } := by
  unfold onTick
  simp only [hl]

theorem onTick_later {t : Tick} {a : Acc}
    (hl : b.acc.lookup t.instrumentId = some a)
    (ht : a.openTs < floorHour t.exchangeTs) :
    (b.onTick t).1 =
      { b.extend t.instrumentId [a.bar t.instrumentId b.spread] with
        acc := put t.instrumentId (Acc.start t
          (decide (floorHour t.exchangeTs = a.openTs + hour))) b.acc } := by
  unfold onTick
  simp only [hl, if_pos ht]
  rfl

theorem onTick_add {t : Tick} {a : Acc}
    (hl : b.acc.lookup t.instrumentId = some a)
    (ht : ¬a.openTs < floorHour t.exchangeTs) :
    (b.onTick t).1 =
      { b with acc := put t.instrumentId (a.add t) b.acc } := by
  unfold onTick
  simp only [hl, if_neg ht]

/-- A tick of another instrument changes nothing of this one. -/
theorem onTick_other {t : Tick} (h : t.instrumentId ≠ iid) :
    (b.onTick t).1.history iid = b.history iid ∧
      (b.onTick t).1.acc.lookup iid = b.acc.lookup iid := by
  have hne : ¬iid = t.instrumentId := fun he => h he.symm
  cases hl : b.acc.lookup t.instrumentId with
  | none =>
      rw [onTick_first hl]
      exact ⟨rfl, by rw [lookup_put, if_neg hne]⟩
  | some a =>
      by_cases ht : a.openTs < floorHour t.exchangeTs
      · rw [onTick_later hl ht]
        exact ⟨(history_extend b _ _ _).trans (if_neg hne),
          by rw [lookup_put, if_neg hne]⟩
      · rw [onTick_add hl ht]
        exact ⟨rfl, by rw [lookup_put, if_neg hne]⟩

/-- A tick keeps the invariant. -/
theorem Tracks.onTick {t : Tick} (h : Tracks now seeds iid b)
    (ht : t.instrumentId = iid → floorHour now ≤ t.exchangeTs) :
    Tracks now seeds iid (b.onTick t).1 := by
  by_cases hiid : t.instrumentId = iid
  swap
  · obtain ⟨hhist, hacc⟩ := onTick_other (b := b) hiid
    unfold Tracks
    rw [hhist, hacc]
    exact h
  obtain ⟨old, live, hu, hacc⟩ := h
  have hnow : floorHour now ≤ floorHour t.exchangeTs := by
    simpa using floorHour_mono (ht hiid)
  subst hiid
  cases hl : b.acc.lookup t.instrumentId with
  | none =>
      rw [hl] at hacc
      obtain rfl : live = [] := hacc
      rw [onTick_first hl]
      refine ⟨old, [], hu, ?_⟩
      simp only [lookup_put, if_true]
      exact ⟨hnow, by simp, by simp⟩
  | some a =>
      rw [hl] at hacc
      have ha : Follows now live a := hacc
      by_cases hlater : a.openTs < floorHour t.exchangeTs
      · rw [onTick_later hl hlater]
        obtain ⟨old', live', hu', hsuffix⟩ :=
          (hu.close ha t.instrumentId b.spread).keepLast b.maxHistory
        refine ⟨old', live', ?_, ?_⟩
        · have hh := history_extend b t.instrumentId t.instrumentId
            [a.bar t.instrumentId b.spread]
          rw [if_pos rfl] at hh
          rw [← hh] at hu'
          exact hu'
        · simp only [lookup_put, if_true]
          exact (ha.start hlater).suffix hsuffix
      · rw [onTick_add hl hlater]
        refine ⟨old, live, hu, ?_⟩
        simp only [lookup_put, if_true]
        exact ⟨ha.present, ha.later, ha.next⟩

theorem Tracks.onTicks {ticks : List Tick} (h : Tracks now seeds iid b)
    (ht : ∀ t ∈ ticks, t.instrumentId = iid → floorHour now ≤ t.exchangeTs) :
    Tracks now seeds iid (b.onTicks ticks) := by
  unfold LiveBarBuilder.onTicks
  induction ticks generalizing b with
  | nil => exact h
  | cons t rest ih =>
      exact ih (h.onTick (ht t (by simp)))
        fun t' ht' => ht t' (List.mem_cons_of_mem t ht')

section

variable (rows : HourlyRows) (iid : InstrumentId) (source : SourceType)
  (n : ℕ) (now : DateTime) (spread : Decimal) (maxHistory : ℕ)

theorem Tracks.seeded :
    Tracks now (seedBars rows iid source n now) iid
      (seeded rows iid source n now spread maxHistory) := by
  obtain ⟨hsorted, hpast⟩ := seedBars_sorted rows iid source n now
  have hall : Unbroken now (seedBars rows iid source n now)
      (seedBars rows iid source n now) (seedBars rows iid source n now) [] :=
    { split := (List.append_nil _).symm
      seeded := List.suffix_rfl
      past := hpast
      present := by simp
      increasing := hsorted
      hourly := List.isChain_nil }
  obtain ⟨old, live, hu, hlive⟩ := hall.keepLast maxHistory
  obtain rfl := List.suffix_nil.mp hlive
  refine ⟨old, [], ?_, rfl⟩
  have hh := history_extend (LiveBarBuilder.new spread maxHistory) iid iid
    (seedBars rows iid source n now)
  rw [if_pos rfl] at hh
  exact hh ▸ hu

/-- Whatever is stored and whatever ticks come from the current hour on, the
history is always a tail of the seeded bars followed by the live ones; its
hours increase strictly, and a live bar that is not an hour after the live
bar before it is incomplete. -/
theorem history_unbroken (ticks : List Tick)
    (ht : ∀ t ∈ ticks, t.instrumentId = iid →
      floorHour now ≤ t.exchangeTs) :
    ∃ old live, Unbroken now (seedBars rows iid source n now)
      (((seeded rows iid source n now spread maxHistory).onTicks
        ticks).history iid) old live := by
  have h := (Tracks.seeded rows iid source n now spread maxHistory).onTicks ht
  obtain ⟨old, live, hu, -⟩ := h
  exact ⟨old, live, hu⟩

end

/-! ## A stored hour without funding -/

/-- Candles of hours 0, 1 and 2; the settlement at the end of hour 1 is not
stored, so hour 1 is not complete. -/
def holedRows : HourlyRows where
  candles := [0, 1, 2].map fun i => (i * hour, candleAt (i * hour))
  funding := [(1 * hour, 0), (3 * hour, 0)]
  indexByHour := []
  spreadsByHour := []
where
  candleAt (t : DateTime) : Candle :=
    ⟨6, "1h", t, 100, 100, 100, 100, 1, 1, t, .polymarketRest⟩

def tickAt (t : DateTime) : Tick :=
  ⟨6, 100, 100, 100, 0, t + hour, t, t, .polymarketWs, none⟩

/-- Ticks in hours 3, 5 and 6; the bar of hour 5 says that hour 4 is
missing. -/
theorem history_unbroken_holedRows :
    ∃ old live, Unbroken (3 * hour + minute)
      (seedBars holedRows 6 .polymarketRest 2 (3 * hour + minute))
      (((seeded holedRows 6 .polymarketRest 2 (3 * hour + minute) 5 500).onTicks
        [tickAt (3 * hour + minute), tickAt (5 * hour),
          tickAt (6 * hour)]).history 6) old live :=
  history_unbroken holedRows 6 .polymarketRest 2 (3 * hour + minute) 5 500 _
    (by decide +kernel)

/-- Over the whole history the law does not hold: among the seeded bars the
hours 0 and 2 stand next to each other, both complete. -/
theorem seeded_hole :
    ¬∀ (rows : HourlyRows) (iid : InstrumentId) (source : SourceType) (n : ℕ)
      (now : DateTime) (spread : Decimal) (maxHistory : ℕ)
      (ticks : List Tick),
      ticks.Pairwise (·.exchangeTs ≤ ·.exchangeTs) →
      (∀ t ∈ ticks, t.instrumentId = iid ∧ floorHour now ≤ t.exchangeTs) →
      (((seeded rows iid source n now spread maxHistory).onTicks
        ticks).history iid).IsChain
          fun a b => a.openTs < b.openTs ∧ Hourly a b := by
  intro h
  have hchain := h holedRows 6 .polymarketRest 2 (3 * hour + minute) 5 500 []
    List.Pairwise.nil (by simp)
  have hhist : ((((seeded holedRows 6 .polymarketRest 2 (3 * hour + minute) 5
      500).onTicks []).history 6).map fun b => (b.openTs, b.complete)) =
        [(0, true), (2 * hour, true)] := by
    decide +kernel
  revert hchain hhist
  generalize ((seeded holedRows 6 .polymarketRest 2 (3 * hour + minute) 5
    500).onTicks []).history 6 = history
  intro hchain hhist
  obtain ⟨a, rest, rfl, ha, hrest⟩ := List.map_eq_cons_iff.mp hhist
  obtain ⟨b, rest, rfl, hb, -⟩ := List.map_eq_cons_iff.mp hrest
  simp only [Prod.mk.injEq] at ha hb
  rcases (List.isChain_cons_cons.mp hchain).1.2 with hnext | hincomplete
  · rw [ha.1, hb.1] at hnext
    exact absurd hnext (by decide +kernel)
  · simp [hb.2] at hincomplete

end LiveBarBuilder

end Polyperps
