import Polyperps.Proofs.HourlyReaders

/-!
# Pruning is invisible to the hourly readers

Two copies of the market tables take the same inserts; one is pruned, the
other never. `Mirror` is what holds between them after every write: the pruned
copy has the raw rows from a cutoff on, and for every hour that was closed at
the last prune run either a rollup row with the hour's values in the unpruned
copy, or no value to hold. A late row cannot reach a closed hour because the
grace is as long as a row may be late, and the cutoff is a day behind, so
everything deleted lies in closed hours.
-/

namespace Polyperps

namespace MarketDb

variable {d e : MarketDb} {iid : InstrumentId} {h now now' ran cut : DateTime}

/-- The hour is over at `now`, and the grace after it. -/
def Closed (now h : DateTime) : Prop := h + hour + rollupGrace ≤ now

structure Mirror (ran cut now : DateTime) (d e : MarketDb) : Prop where
  ran_le : ran ≤ now
  cut_le : cut ≤ ran - day
  ticks : d.ticks = e.ticks.filter fun t => cut ≤ t.exchangeTs
  books : d.books = e.books.filter fun b => cut ≤ b.exchangeTs
  plain : e.rollups = []
  rows : ∀ r ∈ d.rollups, r.hourTs % hour = 0 ∧ Closed ran r.hourTs ∧
    r.indexClose = e.hourIndex r.instrumentId r.hourTs ∧
    r.spreadBps = e.hourMedian r.instrumentId r.hourTs
  complete : ∀ iid h, h % hour = 0 → Closed ran h →
    e.hourIndex iid h ≠ none ∨ e.hourMedian iid h ≠ none → d.HasRow iid h

theorem Mirror.empty (now : DateTime) :
    Mirror now (now - day) now MarketDb.empty MarketDb.empty where
  ran_le := le_rfl
  cut_le := le_rfl
  ticks := rfl
  books := rfl
  plain := rfl
  rows := by simp [MarketDb.empty]
  complete := by
    intro iid h _ _ hdata
    rcases hdata with hdata | hdata
    · exact absurd rfl hdata
    · exact absurd rfl hdata

/-! ## The pruned copy answers for the other -/

theorem Mirror.hourTicks_eq (hm : Mirror ran cut now d e) (hcut : cut ≤ h) :
    d.hourTicks iid h = e.hourTicks iid h := by
  unfold hourTicks nativeTicks
  rw [hm.ticks, List.filter_filter]
  refine List.filter_congr fun t _ => ?_
  rw [Bool.eq_iff_iff]
  simp only [Bool.and_eq_true, decide_eq_true_eq]
  exact ⟨fun hx => hx.1, fun hx => ⟨hx, hcut.trans hx.2.1⟩⟩

theorem Mirror.hourBooks_eq (hm : Mirror ran cut now d e) (hcut : cut ≤ h) :
    d.hourBooks iid h = e.hourBooks iid h := by
  unfold hourBooks
  rw [hm.books, List.filter_filter]
  refine List.filter_congr fun t _ => ?_
  rw [Bool.eq_iff_iff]
  simp only [Bool.and_eq_true, decide_eq_true_eq]
  exact ⟨fun hx => hx.1, fun hx => ⟨hx, hcut.trans hx.2.1⟩⟩

/-- What is before the cutoff lies in closed hours. -/
theorem Mirror.closed_of_lt (hm : Mirror ran cut now d e) (hlt : h < cut) :
    Closed ran h := by
  have hcut := hm.cut_le
  unfold Closed rollupGrace
  unfold day hour minute second at *
  unfold DateTime at *
  omega

theorem Mirror.covers (hm : Mirror ran cut now d e) : Covers d e where
  rows := fun r hr => ⟨(hm.rows r hr).1, (hm.rows r hr).2.2⟩
  ticks := by
    intro iid h hh
    by_cases hcut : cut ≤ h
    · exact .inl (hm.hourTicks_eq hcut)
    by_cases hv : e.hourIndex iid h = none
    · have hnil := hourIndex_eq_none.mp hv
      have hsub : (d.hourTicks iid h).Sublist (e.hourTicks iid h) := by
        unfold hourTicks nativeTicks
        rw [hm.ticks]
        exact List.filter_sublist.filter _
      rw [hnil] at hsub ⊢
      exact .inl (List.sublist_nil.mp hsub)
    · exact .inr ⟨hv, hm.complete iid h hh
        (hm.closed_of_lt (not_le.mp hcut)) (.inl hv)⟩
  spreads := by
    intro iid h hh
    by_cases hcut : cut ≤ h
    · left
      unfold hourSpreads
      rw [hm.hourBooks_eq hcut]
    by_cases hv : e.hourMedian iid h = none
    · have hnil := hourMedian_eq_none.mp hv
      have hsub : (d.hourSpreads iid h).Sublist (e.hourSpreads iid h) := by
        unfold hourSpreads hourBooks
        rw [hm.books]
        exact (List.filter_sublist.filter _).filterMap _
      rw [hnil] at hsub ⊢
      exact .inl (List.sublist_nil.mp hsub)
    · exact .inr ⟨hv, hm.complete iid h hh
        (hm.closed_of_lt (not_le.mp hcut)) (.inr hv)⟩

/-! ## An insert -/

section Insert

variable {ρ κ : Type} [DecidableEq κ] {key : ρ → κ} {r : ρ} {t : List ρ}
  {p : ρ → Bool}

/-- A filter that looks at the key only, and keeps the new row, commutes with
the insert. -/
theorem filter_insertOrIgnore (hkey : ∀ x y, key x = key y → p x = p y)
    (hr : p r = true) :
    (insertOrIgnore key r t).filter p = insertOrIgnore key r (t.filter p) := by
  have hmem : key r ∈ t.map key ↔ key r ∈ (t.filter p).map key := by
    simp only [List.mem_map, List.mem_filter]
    constructor
    · rintro ⟨x, hx, he⟩
      exact ⟨x, ⟨hx, (hkey x r he).trans hr⟩, he⟩
    · rintro ⟨x, ⟨hx, -⟩, he⟩
      exact ⟨x, hx, he⟩
  unfold insertOrIgnore
  by_cases hin : key r ∈ t.map key
  · rw [if_pos hin, if_pos (hmem.mp hin)]
  · rw [if_neg hin, if_neg fun hx => hin (hmem.mpr hx), List.filter_append]
    simp [hr]

/-- A row the filter leaves out makes no difference to it. -/
theorem filter_insertOrIgnore_out (hr : p r = false) :
    (insertOrIgnore key r t).filter p = t.filter p := by
  unfold insertOrIgnore
  split
  · rfl
  · simp [hr]

theorem mem_insertOrIgnore {x : ρ} :
    x ∈ insertOrIgnore key r t → x ∈ t ∨ x = r := by
  unfold insertOrIgnore
  split
  · exact .inl
  · simp

theorem subset_insertOrIgnore : t ⊆ insertOrIgnore key r t := by
  unfold insertOrIgnore
  split
  · exact fun _ hx => hx
  · exact List.subset_append_left t [r]

theorem key_insertOrIgnore : key r ∈ (insertOrIgnore key r t).map key := by
  unfold insertOrIgnore
  split
  · assumption
  · simp

/-- Many inserts add nothing but the new rows. -/
theorem mem_insertAll {rows : List ρ} {x : ρ}
    (hx : x ∈ rows.foldl (fun t r => insertOrIgnore key r t) t) :
    x ∈ t ∨ x ∈ rows := by
  induction rows generalizing t with
  | nil => exact .inl hx
  | cons y rest ih =>
      rcases ih hx with hmem | hmem
      · rcases mem_insertOrIgnore hmem with hold | rfl
        · exact .inl hold
        · exact .inr (by simp)
      · exact .inr (List.mem_cons_of_mem y hmem)

theorem subset_insertAll {rows : List ρ} :
    t ⊆ rows.foldl (fun t r => insertOrIgnore key r t) t := by
  induction rows generalizing t with
  | nil => exact fun _ hx => hx
  | cons y rest ih => exact List.Subset.trans subset_insertOrIgnore ih

/-- Every new row's key is there afterwards. -/
theorem key_insertAll (key : ρ → κ) (t : List ρ) {rows : List ρ} {x : ρ}
    (hx : x ∈ rows) :
    key x ∈ (rows.foldl (fun t r => insertOrIgnore key r t) t).map key := by
  induction rows generalizing t with
  | nil => cases hx
  | cons y rest ih =>
      rcases List.mem_cons.mp hx with rfl | hmem
      · rw [List.foldl_cons]
        have hnew : key x ∈ (insertOrIgnore key x t).map key :=
          key_insertOrIgnore
        exact List.map_subset key subset_insertAll hnew
      · exact ih (insertOrIgnore key y t) hmem

end Insert

/-- A row that is five minutes late at most is not in a closed hour. -/
theorem late_not_closed {t : DateTime} (hlate : now - 5 * minute ≤ t)
    (hran : ran ≤ now) (hclosed : Closed ran h) : ¬t ≤ h + hour - 1 := by
  unfold Closed rollupGrace at hclosed
  unfold hour minute second at *
  unfold DateTime at *
  omega

theorem cut_le_late {t : DateTime} (hlate : now - 5 * minute ≤ t)
    (hran : ran ≤ now) (hcut : cut ≤ ran - day) : cut ≤ t := by
  unfold day hour minute second at *
  unfold DateTime at *
  omega

theorem Mirror.insertTick {t : Tick} (hm : Mirror ran cut now d e)
    (hnow : now ≤ now') (hlate : now' - 5 * minute ≤ t.exchangeTs) :
    Mirror ran cut now' (d.insertTick t) (e.insertTick t) := by
  have hran := hm.ran_le.trans hnow
  have hindex : ∀ iid h, Closed ran h →
      (e.insertTick t).hourIndex iid h = e.hourIndex iid h := by
    intro iid h hclosed
    have hticks : (e.insertTick t).hourTicks iid h = e.hourTicks iid h :=
      filter_insertOrIgnore_out (decide_eq_false fun hx =>
        late_not_closed hlate hran hclosed hx.2.2.1)
    unfold hourIndex
    rw [hticks]
  exact
    { ran_le := hran
      cut_le := hm.cut_le
      ticks := by
        show insertOrIgnore Tick.key t d.ticks = _
        rw [hm.ticks]
        refine (filter_insertOrIgnore ?_ ?_).symm
        · intro x y hxy
          simp only [Tick.key, Prod.mk.injEq] at hxy
          rw [hxy.2.2]
        · exact decide_eq_true (cut_le_late hlate hran hm.cut_le)
      books := hm.books
      plain := hm.plain
      rows := fun r hr => by
        obtain ⟨hh, hclosed, hidx, hspread⟩ := hm.rows r hr
        exact ⟨hh, hclosed, hidx.trans (hindex _ _ hclosed).symm, hspread⟩
      complete := fun iid h hh hclosed hdata => by
        rw [hindex iid h hclosed] at hdata
        exact hm.complete iid h hh hclosed hdata }

theorem Mirror.insertBook {b : BookSnapshot} (hm : Mirror ran cut now d e)
    (hnow : now ≤ now') (hlate : now' - 5 * minute ≤ b.exchangeTs) :
    Mirror ran cut now' (d.insertBook b) (e.insertBook b) := by
  have hran := hm.ran_le.trans hnow
  have hmedian : ∀ iid h, Closed ran h →
      (e.insertBook b).hourMedian iid h = e.hourMedian iid h := by
    intro iid h hclosed
    have hbooks : (e.insertBook b).hourBooks iid h = e.hourBooks iid h :=
      filter_insertOrIgnore_out (decide_eq_false fun hx =>
        late_not_closed hlate hran hclosed hx.2.2)
    unfold hourMedian hourSpreads
    rw [hbooks]
  exact
    { ran_le := hran
      cut_le := hm.cut_le
      ticks := hm.ticks
      books := by
        show insertOrIgnore BookSnapshot.key (b.levels 10) d.books = _
        rw [hm.books]
        refine (filter_insertOrIgnore ?_ ?_).symm
        · intro x y hxy
          simp only [BookSnapshot.key, Prod.mk.injEq] at hxy
          rw [hxy.2.2]
        · exact decide_eq_true (cut_le_late hlate hran hm.cut_le)
      plain := hm.plain
      rows := fun r hr => by
        obtain ⟨hh, hclosed, hidx, hspread⟩ := hm.rows r hr
        exact ⟨hh, hclosed, hidx, hspread.trans (hmedian _ _ hclosed).symm⟩
      complete := fun iid h hh hclosed hdata => by
        rw [hmedian iid h hclosed] at hdata
        exact hm.complete iid h hh hclosed hdata }

/-! ## A prune run -/

/-- The row of an hour holds the hour's values, and is written where there is
one. -/
theorem rollupRow_eq (hc : Covers d e) (hh : h % hour = 0)
    (iid : InstrumentId) :
    let mark := (d.newestTick iid (h - hour) (h + fillLatency)).map
      (·.markPrice)
    d.rollupRow iid h =
      if (e.hourIndex iid h).isSome ∨ (e.hourMedian iid h).isSome ∨
        mark.isSome then
        some ⟨iid, h, e.hourIndex iid h, e.hourMedian iid h, mark⟩
      else none := by
  have hend : (h + hour) % hour = 0 := by
    rw [Int.add_emod_right]
    exact hh
  have hin : h % hour = 0 ∧ h ≤ h ∧ h < h + hour :=
    ⟨hh, le_rfl, lt_add_of_pos_right h hour_pos⟩
  have hidx := queryLastIndexByHour_lookup hc hh hend iid h
  obtain ⟨l, hl, hmedian⟩ :=
    queryBookSpreadBpsByHour_lookup hc hh hend iid h
  rw [if_pos hin] at hidx hmedian
  have hgetD : ((d.queryBookSpreadBpsByHour iid h (h + hour - 1)).lookup
      h).getD [] = l := by
    rw [hl]
    split
    · next hnil => rw [hnil]; rfl
    · rfl
  unfold rollupRow
  simp only [hidx, hgetD, hmedian]

theorem lastRollup_mem {last : DateTime}
    (hl : d.lastRollup iid = some last) : d.HasRow iid last := by
  obtain ⟨r, hr, he⟩ := List.mem_map.mp (List.max?_mem hl)
  obtain ⟨hmem, hiid⟩ := List.mem_filter.mp hr
  exact ⟨r, hmem, of_decide_eq_true hiid, he⟩

theorem startHour_aligned {first : DateTime} (hc : Covers d e) :
    d.startHour iid first % hour = 0 := by
  unfold startHour
  split
  · next last hl =>
      obtain ⟨r, hr, -, rfl⟩ := lastRollup_mem hl
      rcases max_choice (floorHour first) (r.hourTs + hour) with hm | hm
      · rw [hm]
        exact floorHour_aligned first
      · rw [hm, Int.add_emod_right]
        exact (hc.rows r hr).1
  · exact floorHour_aligned first

/-- The rows of a run hold the values of closed hours. -/
theorem rollupRowsOf_values {r : RollupRow} (hc : Covers d e)
    (hr : r ∈ d.rollupRowsOf now iid) :
    r.hourTs % hour = 0 ∧ Closed now r.hourTs ∧
      r.indexClose = e.hourIndex r.instrumentId r.hourTs ∧
      r.spreadBps = e.hourMedian r.instrumentId r.hourTs := by
  unfold rollupRowsOf at hr
  simp only at hr
  split at hr
  · cases hr
  · obtain ⟨h, hmem, hrow⟩ := List.mem_filterMap.mp hr
    obtain ⟨hh, -, hend⟩ := (mem_hoursFrom (startHour_aligned hc)).mp hmem
    have hclosed : Closed now h := by
      unfold Closed
      unfold DateTime at *
      omega
    rw [rollupRow_eq hc hh iid] at hrow
    split at hrow
    · cases hrow
      exact ⟨hh, hclosed, rfl, rfl⟩
    · cases hrow

/-- The oldest raw row is not after a row's hour. -/
theorem firsts_min {t : DateTime}
    (hraw : (∃ x ∈ d.ticksOf iid, x.exchangeTs = t) ∨
      ∃ x ∈ d.booksOf iid, x.exchangeTs = t) :
    ∃ first, ((firstOf (·.exchangeTs) (d.ticksOf iid)).toList ++
      (firstOf (·.exchangeTs) (d.booksOf iid)).toList).min? = some first ∧
        first ≤ t := by
  have hle : ∃ x ∈ (firstOf (·.exchangeTs) (d.ticksOf iid)).toList ++
      (firstOf (·.exchangeTs) (d.booksOf iid)).toList, x ≤ t := by
    rcases hraw with ⟨x, hx, rfl⟩ | ⟨x, hx, rfl⟩
    · cases hf : firstOf (·.exchangeTs) (d.ticksOf iid) with
      | none =>
          have hnil := List.min?_eq_none_iff.mp hf
          rw [List.map_eq_nil_iff.mp hnil] at hx
          cases hx
      | some f => exact ⟨f, by simp, firstOf_le hf hx⟩
    · cases hf : firstOf (·.exchangeTs) (d.booksOf iid) with
      | none =>
          have hnil := List.min?_eq_none_iff.mp hf
          rw [List.map_eq_nil_iff.mp hnil] at hx
          cases hx
      | some f => exact ⟨f, by simp, firstOf_le hf hx⟩
  obtain ⟨x, hx, hxt⟩ := hle
  cases hmin : ((firstOf (·.exchangeTs) (d.ticksOf iid)).toList ++
      (firstOf (·.exchangeTs) (d.booksOf iid)).toList).min? with
  | none =>
      rw [List.min?_eq_none_iff.mp hmin] at hx
      cases hx
  | some first =>
      exact ⟨first, rfl, ((List.min?_eq_some_iff.mp hmin).2 x hx).trans hxt⟩

/-- A closed hour after the newest row, with a raw row and a value, gets a
row. -/
theorem rollupRowsOf_complete {t : DateTime} (hc : Covers d e)
    (hh : h % hour = 0) (hclosed : Closed now h)
    (hlast : ∀ r ∈ d.rollups, r.instrumentId = iid → r.hourTs < h)
    (hdata : e.hourIndex iid h ≠ none ∨ e.hourMedian iid h ≠ none)
    (ht : h ≤ t ∧ t ≤ h + hour - 1)
    (hraw : (∃ x ∈ d.ticksOf iid, x.exchangeTs = t) ∨
      ∃ x ∈ d.booksOf iid, x.exchangeTs = t) :
    ∃ r ∈ d.rollupRowsOf now iid, r.instrumentId = iid ∧ r.hourTs = h := by
  obtain ⟨first, hmin, hfirst⟩ := firsts_min hraw
  have hfloor : floorHour first ≤ h := by
    rw [← (floorHour_eq_iff hh).mpr ht]
    exact floorHour_mono hfirst
  have hstart : d.startHour iid first ≤ h := by
    unfold startHour
    split
    · next last hl =>
        obtain ⟨r, hr, hiid, rfl⟩ := lastRollup_mem hl
        refine max_le hfloor ?_
        have hlt := hlast r hr hiid
        have hal := (hc.rows r hr).1
        unfold hour minute second at *
        unfold DateTime at *
        omega
    · exact hfloor
  have hmem : h ∈ hoursFrom (d.startHour iid first)
      (now - rollupGrace - hour) := by
    refine (mem_hoursFrom (startHour_aligned hc)).mpr ⟨hh, hstart, ?_⟩
    unfold Closed at hclosed
    unfold DateTime at *
    omega
  have hrow := rollupRow_eq hc hh iid
  have hsome : (e.hourIndex iid h).isSome ∨ (e.hourMedian iid h).isSome ∨
      ((d.newestTick iid (h - hour) (h + fillLatency)).map
        (·.markPrice)).isSome := by
    rcases hdata with hv | hv
    · exact .inl (Option.isSome_iff_ne_none.mpr hv)
    · exact .inr (.inl (Option.isSome_iff_ne_none.mpr hv))
  simp only [if_pos hsome] at hrow
  unfold rollupRowsOf
  simp only [hmin]
  exact ⟨_, List.mem_filterMap.mpr ⟨h, hmem, hrow⟩, rfl, rfl⟩

theorem mem_ids (hraw : (∃ x, x ∈ d.ticksOf iid) ∨ ∃ x, x ∈ d.booksOf iid) :
    iid ∈ (d.ticks.map (·.instrumentId)
      ++ d.books.map (·.instrumentId)).dedup.insertionSort (· ≤ ·) := by
  rw [List.mem_insertionSort, List.mem_dedup, List.mem_append]
  rcases hraw with ⟨x, hx⟩ | ⟨x, hx⟩
  · obtain ⟨hmem, hiid⟩ := List.mem_filter.mp hx
    exact .inl (List.mem_map.mpr ⟨x, hmem, of_decide_eq_true hiid⟩)
  · obtain ⟨hmem, hiid⟩ := List.mem_filter.mp hx
    exact .inr (List.mem_map.mpr ⟨x, hmem, of_decide_eq_true hiid⟩)

/-- An hour with a value has a raw row in it. -/
theorem raw_of_value (hdata : d.hourIndex iid h ≠ none ∨
      d.hourMedian iid h ≠ none) :
    ∃ t, (h ≤ t ∧ t ≤ h + hour - 1) ∧
      ((∃ x ∈ d.ticksOf iid, x.exchangeTs = t) ∨
        ∃ x ∈ d.booksOf iid, x.exchangeTs = t) := by
  rcases hdata with hv | hv
  · have hne : d.hourTicks iid h ≠ [] := fun hn => hv (hourIndex_eq_none.mpr hn)
    obtain ⟨x, hx⟩ := List.exists_mem_of_ne_nil _ hne
    obtain ⟨hmem, hcond⟩ := List.mem_filter.mp hx
    obtain ⟨hiid, hlo, hhi, -⟩ := of_decide_eq_true hcond
    exact ⟨x.exchangeTs, ⟨hlo, hhi⟩, .inl ⟨x,
      List.mem_filter.mpr ⟨hmem, decide_eq_true hiid⟩, rfl⟩⟩
  · have hne : d.hourBooks iid h ≠ [] := by
      intro hn
      refine hv (hourMedian_eq_none.mpr ?_)
      rw [hourSpreads, hn]
      rfl
    obtain ⟨x, hx⟩ := List.exists_mem_of_ne_nil _ hne
    obtain ⟨hmem, hcond⟩ := List.mem_filter.mp hx
    obtain ⟨hiid, hlo, hhi⟩ := of_decide_eq_true hcond
    exact ⟨x.exchangeTs, ⟨hlo, hhi⟩, .inr ⟨x,
      List.mem_filter.mpr ⟨hmem, decide_eq_true hiid⟩, rfl⟩⟩

/-- Deleting before two cutoffs is deleting before the later one. -/
theorem filter_later {ρ : Type} (ts : ρ → DateTime) (rows : List ρ)
    (c c' : DateTime) :
    (rows.filter fun x => c ≤ ts x).filter (fun x => c' ≤ ts x) =
      rows.filter fun x => max c c' ≤ ts x := by
  rw [List.filter_filter]
  refine List.filter_congr fun x _ => ?_
  rw [Bool.eq_iff_iff]
  simp only [Bool.and_eq_true, decide_eq_true_eq, max_le_iff]
  exact and_comm

/-- A prune run keeps the mirror: every hour closed by now has its row before
anything is deleted. -/
theorem Mirror.pruneRun {days : ℕ} (hm : Mirror ran cut now d e)
    (hnow : now ≤ now') (hdays : 1 ≤ days) :
    Mirror now' (max cut (now' - days * day)) now' (d.pruneRun now' days)
      e := by
  have hc := hm.covers
  have hran := hm.ran_le.trans hnow
  exact
    { ran_le := le_rfl
      cut_le := by
        have hcut := hm.cut_le
        refine max_le ?_ ?_
        · unfold DateTime at *
          omega
        · unfold day hour minute second
          unfold DateTime at *
          omega
      ticks := by
        show d.ticks.filter _ = _
        rw [hm.ticks, filter_later Tick.exchangeTs]
      books := by
        show d.books.filter _ = _
        rw [hm.books, filter_later BookSnapshot.exchangeTs]
      plain := hm.plain
      rows := fun r hr => by
        rcases mem_insertAll hr with hold | hnew
        · obtain ⟨hh, hclosed, hvalues⟩ := hm.rows r hold
          exact ⟨hh, hclosed.trans hran, hvalues⟩
        · obtain ⟨iid, -, hrow⟩ := List.mem_flatMap.mp hnew
          exact rollupRowsOf_values hc hrow
      complete := fun iid h hh hclosed hdata => by
        by_cases hold : Closed ran h
        · obtain ⟨r, hr, hiid, hts⟩ := hm.complete iid h hh hold hdata
          exact ⟨r, subset_insertAll hr, hiid, hts⟩
        -- an hour closed since the last run is after the rows and the cutoff
        have hafter : cut ≤ h := by
          by_contra hlt
          exact hold (hm.closed_of_lt (not_le.mp hlt))
        have hlast : ∀ r ∈ d.rollups, r.instrumentId = iid → r.hourTs < h := by
          intro r hr _
          have hrow := (hm.rows r hr).2.1
          unfold Closed at hold hrow
          unfold DateTime at *
          omega
        have hraw : d.hourIndex iid h ≠ none ∨ d.hourMedian iid h ≠ none := by
          unfold hourIndex hourMedian hourSpreads at hdata ⊢
          rw [hm.hourTicks_eq hafter, hm.hourBooks_eq hafter]
          exact hdata
        obtain ⟨t, ht, hmem⟩ := raw_of_value hraw
        obtain ⟨r, hr, hiid, hts⟩ :=
          rollupRowsOf_complete hc hh hclosed hlast hdata ht hmem
        have hids : iid ∈ (d.ticks.map (·.instrumentId)
            ++ d.books.map (·.instrumentId)).dedup.insertionSort (· ≤ ·) :=
          mem_ids (hmem.imp (fun ⟨x, hx, _⟩ => ⟨x, hx⟩) fun ⟨x, hx, _⟩ => ⟨x, hx⟩)
        obtain ⟨r', hr', hkey⟩ := List.mem_map.mp
          (key_insertAll RollupRow.key d.rollups
            (List.mem_flatMap.mpr ⟨iid, hids, hr⟩))
        simp only [RollupRow.key, Prod.mk.injEq] at hkey
        exact ⟨r', hr', hkey.1.trans hiid, hkey.2.trans hts⟩ }

/-! ## Any sequence of writes -/

theorem Mirror.apply {op : MarketOp} (hm : Mirror ran cut now d e)
    (hnow : now ≤ now') (hop : op.Admissible now') :
    ∃ ran' cut', Mirror ran' cut' now' (op.apply now' d)
      (op.applyUnpruned now' e) := by
  cases op with
  | insertTick t => exact ⟨ran, cut, hm.insertTick hnow hop.1⟩
  | insertBook b => exact ⟨ran, cut, hm.insertBook hnow hop.1⟩
  | prune days => exact ⟨_, _, hm.pruneRun hnow hop⟩

theorem Mirror.applyAll {ops : List (DateTime × MarketOp)}
    (hm : Mirror ran cut now d e) (hnow : ∀ op ∈ ops, now ≤ op.1)
    (hordered : ops.Pairwise (·.1 ≤ ·.1))
    (heach : ∀ op ∈ ops, op.2.Admissible op.1) :
    ∃ ran' cut' now', Mirror ran' cut' now' (applyAll ops d)
      (applyAllUnpruned ops e) := by
  induction ops generalizing ran cut now d e with
  | nil => exact ⟨ran, cut, now, hm⟩
  | cons op rest ih =>
      obtain ⟨ran', cut', hm'⟩ :=
        hm.apply (hnow op (by simp)) (heach op (by simp))
      rw [List.pairwise_cons] at hordered
      exact ih hm' hordered.1 hordered.2
        fun op' hop' => heach op' (List.mem_cons_of_mem op hop')

/-- Pruning is invisible to the hourly readers: after any admissible writes
to two empty copies, one of which skips the prune runs, an hour-aligned window
of any instrument reads the same index prices and the same median spreads. -/
theorem prune_invisible {ops : List (DateTime × MarketOp)}
    (hops : AdmissibleWrites ops) {a b : DateTime} (iid : InstrumentId)
    (ha : a % hour = 0) (hb : b % hour = 0) (h : DateTime) :
    ((applyAll ops empty).queryLastIndexByHour iid a (b - 1)).lookup h =
        ((applyAllUnpruned ops empty).queryLastIndexByHour iid a
          (b - 1)).lookup h ∧
      (((applyAll ops empty).queryBookSpreadBpsByHour iid a
          (b - 1)).lookup h).map median =
        (((applyAllUnpruned ops empty).queryBookSpreadBpsByHour iid a
          (b - 1)).lookup h).map median := by
  have hstart : ∃ now, ∀ op ∈ ops, now ≤ op.1 := by
    cases ops with
    | nil => exact ⟨0, by simp⟩
    | cons op rest =>
        refine ⟨op.1, fun op' hop' => ?_⟩
        rcases List.mem_cons.mp hop' with rfl | hmem
        · exact le_rfl
        · exact (List.pairwise_cons.mp hops.ordered).1 op' hmem
  obtain ⟨now, hnow⟩ := hstart
  obtain ⟨ran, cut, now', hm⟩ :=
    (Mirror.empty now).applyAll hnow hops.ordered hops.each
  have hself := Covers.self hm.plain
  refine ⟨?_, ?_⟩
  · rw [queryLastIndexByHour_lookup hm.covers ha hb,
      queryLastIndexByHour_lookup hself ha hb]
  · obtain ⟨l, hl, hmedian⟩ :=
      queryBookSpreadBpsByHour_lookup hm.covers ha hb iid h
    obtain ⟨l', hl', hmedian'⟩ :=
      queryBookSpreadBpsByHour_lookup hself ha hb iid h
    have hmap : ∀ l : List Decimal,
        (if l = [] then none else some l).map median = medianOpt l := by
      intro l
      unfold medianOpt
      split <;> rfl
    rw [hl, hl', hmap, hmap, hmedian, hmedian']

/-! ## Two days of writes -/

/-- A tick and a book of hour 0, a prune run two days later, and a tick after
it. -/
def twoDays : List (DateTime × MarketOp) :=
  [(30 * minute, .insertTick (tick (30 * minute) 100)),
    (40 * minute, .insertBook ⟨6, [⟨99, 1⟩], [⟨101, 1⟩], 40 * minute,
      40 * minute, .polymarketWs, none⟩),
    (2 * day, .prune 1),
    (2 * day + minute, .insertTick (tick (2 * day) 120))]
where
  tick (t : DateTime) (price : Decimal) : Tick :=
    ⟨6, price, price, price, 0, t, t, t, .polymarketWs, none⟩

/-- The raw rows of hour 0 are gone, and both readers still answer for it. -/
theorem prune_invisible_twoDays :
    (applyAll twoDays empty).books = [] ∧
    ((applyAll twoDays empty).queryLastIndexByHour 6 0
        (3 * day - 1)).lookup 0 =
        ((applyAllUnpruned twoDays empty).queryLastIndexByHour 6 0
          (3 * day - 1)).lookup 0 ∧
      (((applyAll twoDays empty).queryBookSpreadBpsByHour 6 0
          (3 * day - 1)).lookup 0).map median =
        (((applyAllUnpruned twoDays empty).queryBookSpreadBpsByHour 6 0
          (3 * day - 1)).lookup 0).map median := by
  have hops : AdmissibleWrites twoDays :=
    ⟨by decide +kernel, by decide +kernel, by decide +kernel⟩
  exact ⟨by decide +kernel,
    prune_invisible hops 6 (by decide) (by decide) 0⟩

end MarketDb

end Polyperps
