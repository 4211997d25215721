import Polyperps.Storage.Market

/-!
# What the hourly readers read

An hour's value is defined by its raw rows: the index price of its newest
native tick, and the median spread of its books. `Covers d e` says that the
database `d` can answer for the raw rows of `e`: every rollup row holds its
hour's values, and for an hour whose raw rows differ there is a row. The
readers of `d` over an hour-aligned window then return the values of `e`, hour
by hour.
-/

namespace Polyperps

open KeyedTable

/-! ## Hours -/

theorem hour_pos : 0 < hour := by decide

/-- The instants of an hour. -/
theorem floorHour_eq_iff {h t : DateTime} (hh : h % hour = 0) :
    floorHour t = h ↔ h ≤ t ∧ t ≤ h + hour - 1 := by
  unfold floorHour hour minute second at *
  unfold DateTime at *
  omega

theorem floorHour_aligned (t : DateTime) : floorHour t % hour = 0 := by
  unfold floorHour hour minute second
  unfold DateTime at *
  omega

theorem floorHour_of_aligned {h : DateTime} (hh : h % hour = 0) :
    floorHour h = h := by
  unfold floorHour
  rw [hh, sub_zero]

theorem mem_hoursFrom {first last h : DateTime} (hf : first % hour = 0) :
    h ∈ hoursFrom first last ↔ h % hour = 0 ∧ first ≤ h ∧ h ≤ last := by
  unfold hoursFrom
  simp only [List.mem_map, List.mem_range]
  unfold hour minute second at *
  unfold DateTime at *
  constructor
  · rintro ⟨i, hi, rfl⟩
    omega
  · rintro ⟨ha, hle, hlast⟩
    exact ⟨((h - first) / 3600000000).toNat, by omega, by omega⟩

theorem hoursFrom_nodup (first last : DateTime) :
    (hoursFrom first last).Nodup := by
  unfold hoursFrom
  refine List.nodup_range.map fun i j hij => ?_
  simp only [hour, minute, second] at hij
  unfold DateTime at hij
  omega

/-- An hour of an aligned window ends inside it. -/
theorem hour_in_window {b h : DateTime} (hb : b % hour = 0)
    (hh : h % hour = 0) : h + hour - 1 ≤ b - 1 ↔ h < b := by
  unfold hour minute second at *
  unfold DateTime at *
  omega

/-! ## Medians -/

theorem median_perm {xs ys : List Decimal} (h : xs.Perm ys) :
    median xs = median ys := by
  have hsorted : xs.insertionSort (· ≤ ·) = ys.insertionSort (· ≤ ·) :=
    List.Perm.eq_of_pairwise'
      (List.pairwise_insertionSort (· ≤ ·) xs)
      (List.pairwise_insertionSort (· ≤ ·) ys)
      (((List.perm_insertionSort _ xs).trans h).trans
        (List.perm_insertionSort _ ys).symm)
  unfold median
  rw [hsorted]

theorem medianOpt_perm {xs ys : List Decimal} (h : xs.Perm ys) :
    medianOpt xs = medianOpt ys := by
  unfold medianOpt
  rw [median_perm h]
  have hnil : xs = [] ↔ ys = [] := by
    rw [← List.length_eq_zero_iff, h.length_eq, List.length_eq_zero_iff]
  simp only [hnil]

@[simp] theorem median_singleton (x : Decimal) : median [x] = x := by
  simp [median]

theorem medianOpt_singleton (x : Decimal) : medianOpt [x] = some x := by
  simp [medianOpt]

theorem medianOpt_eq_none {xs : List Decimal} :
    medianOpt xs = none ↔ xs = [] := by
  unfold medianOpt
  split <;> simp_all

namespace MarketDb

theorem newestOf_eq_none {ts : List Tick} : newestOf ts = none ↔ ts = [] := by
  cases ts with
  | nil => simp [newestOf]
  | cons t rest =>
      simp only [newestOf, reduceCtorEq, iff_false]
      split
      · split <;> simp
      · simp

/-! ## The values of an hour -/

def hourTicks (db : MarketDb) (iid : InstrumentId) (h : DateTime) :
    List Tick := db.nativeTicks iid h (h + hour - 1)

def hourBooks (db : MarketDb) (iid : InstrumentId) (h : DateTime) :
    List BookSnapshot :=
  db.books.filter fun b =>
    b.instrumentId = iid ∧ h ≤ b.exchangeTs ∧ b.exchangeTs ≤ h + hour - 1

def hourSpreads (db : MarketDb) (iid : InstrumentId) (h : DateTime) :
    List Decimal := (db.hourBooks iid h).filterMap (·.spreadBps)

/-- The hour's last native index price. -/
def hourIndex (db : MarketDb) (iid : InstrumentId) (h : DateTime) :
    Option Decimal := (newestOf (db.hourTicks iid h)).map (·.indexPrice)

/-- The hour's median spread. -/
def hourMedian (db : MarketDb) (iid : InstrumentId) (h : DateTime) :
    Option Decimal := medianOpt (db.hourSpreads iid h)

theorem hourIndex_eq_none {db : MarketDb} {iid : InstrumentId} {h : DateTime} :
    db.hourIndex iid h = none ↔ db.hourTicks iid h = [] := by
  unfold hourIndex
  rw [Option.map_eq_none_iff, newestOf_eq_none]

theorem hourMedian_eq_none {db : MarketDb} {iid : InstrumentId}
    {h : DateTime} :
    db.hourMedian iid h = none ↔ db.hourSpreads iid h = [] :=
  medianOpt_eq_none

/-- A rollup row of an hour. -/
def HasRow (d : MarketDb) (iid : InstrumentId) (h : DateTime) : Prop :=
  ∃ r ∈ d.rollups, r.instrumentId = iid ∧ r.hourTs = h

/-- `d` answers for the raw rows of `e`. -/
structure Covers (d e : MarketDb) : Prop where
  rows : ∀ r ∈ d.rollups, r.hourTs % hour = 0 ∧
    r.indexClose = e.hourIndex r.instrumentId r.hourTs ∧
    r.spreadBps = e.hourMedian r.instrumentId r.hourTs
  ticks : ∀ iid h, h % hour = 0 →
    d.hourTicks iid h = e.hourTicks iid h ∨
      (e.hourIndex iid h ≠ none ∧ d.HasRow iid h)
  spreads : ∀ iid h, h % hour = 0 →
    d.hourSpreads iid h = e.hourSpreads iid h ∨
      (e.hourMedian iid h ≠ none ∧ d.HasRow iid h)

/-- Without rollup rows a database answers for its own raw rows. -/
theorem Covers.self {e : MarketDb} (h : e.rollups = []) : Covers e e where
  rows := by simp [h]
  ticks := fun _ _ _ => .inl rfl
  spreads := fun _ _ _ => .inl rfl

variable {d e : MarketDb} {iid : InstrumentId} {a b h : DateTime}

/-! ## The rollup part -/

/-- In a table that lists values of a function, a key that is there finds the
function's value. -/
theorem lookup_of_values {β : Type} {t : List (DateTime × β)}
    {f : DateTime → Option β} (ht : ∀ kv ∈ t, f kv.1 = some kv.2) :
    t.lookup h = if h ∈ t.map Prod.fst then f h else none := by
  induction t with
  | nil => rfl
  | cons x xs ih =>
      obtain ⟨k, v⟩ := x
      have ih := ih fun kv hkv => ht kv (List.mem_cons_of_mem _ hkv)
      rw [List.lookup_cons, List.map_cons]
      by_cases hk : h = k
      · subst hk
        simp [ht (h, v) (by simp)]
      · simp only [beq_eq_false_iff_ne.mpr hk, ih, List.mem_cons, hk,
          false_or]

/-- The hours of the window with a row are found with their values. -/
theorem rollupHours_lookup {column : RollupRow → Option Decimal}
    {f : DateTime → Option Decimal}
    (hc : ∀ r ∈ d.rollups, r.instrumentId = iid → column r = f r.hourTs)
    [Decidable (d.HasRow iid h)] :
    (d.rollupHours iid column a b).lookup h =
      if d.HasRow iid h ∧ a ≤ h ∧ h + hour - 1 ≤ b then f h else none := by
  have hvalues : ∀ kv ∈ d.rollupHours iid column a b,
      f kv.1 = some kv.2 := by
    intro kv hkv
    obtain ⟨r, hr, hsome⟩ := List.mem_filterMap.mp hkv
    split at hsome
    · next hcond =>
        obtain ⟨v, hv, rfl⟩ := Option.map_eq_some_iff.mp hsome
        exact (hc r hr hcond.1).symm.trans hv
    · cases hsome
  rw [lookup_of_values hvalues]
  by_cases hmem : h ∈ (d.rollupHours iid column a b).map Prod.fst
  · rw [if_pos hmem]
    obtain ⟨kv, hkv, rfl⟩ := List.mem_map.mp hmem
    obtain ⟨r, hr, hsome⟩ := List.mem_filterMap.mp hkv
    split at hsome
    · next hcond =>
        obtain ⟨v, hv, rfl⟩ := Option.map_eq_some_iff.mp hsome
        rw [if_pos ⟨⟨r, hr, hcond.1, rfl⟩, hcond.2⟩]
    · cases hsome
  · rw [if_neg hmem]
    split
    · next hcond =>
        obtain ⟨⟨r, hr, hiid, rfl⟩, ha, hb⟩ := hcond
        -- a row that is left out has no value
        cases hv : f r.hourTs with
        | none => rfl
        | some v =>
            refine absurd (List.mem_map.mpr ⟨(r.hourTs, v), ?_, rfl⟩) hmem
            refine List.mem_filterMap.mpr ⟨r, hr, ?_⟩
            rw [if_pos ⟨hiid, ha, hb⟩, hc r hr hiid, hv]
            rfl
    · rfl

/-! ## The index reader -/

/-- A loop over hours fills the ones still missing. -/
theorem fillHour_lookup {ρ β : Type} (row : DateTime → Option ρ)
    (value : ρ → β) (hours : List DateTime) (out : List (DateTime × β)) :
    (hours.foldl (fillHour row value) out).lookup h =
      (out.lookup h).or (if h ∈ hours then (row h).map value else none) := by
  induction hours generalizing out with
  | nil => simp
  | cons x rest ih =>
      rw [List.foldl_cons, ih]
      by_cases hx : h = x
      · subst hx
        unfold fillHour
        cases hl : out.lookup h with
        | some v => simp [hl]
        | none =>
            cases hr : row h with
            | none => simp [hl]
            | some t => simp [lookup_put]
      · have hout : (fillHour row value out x).lookup h = out.lookup h := by
          unfold fillHour
          split
          · rfl
          · split
            · rw [lookup_put, if_neg hx]
            · rfl
        rw [hout]
        simp [hx]

/-- The index reader over an aligned window returns the hours' values. -/
theorem queryLastIndexByHour_lookup (hc : Covers d e) (ha : a % hour = 0)
    (hb : b % hour = 0) (iid : InstrumentId) (h : DateTime) :
    (d.queryLastIndexByHour iid a (b - 1)).lookup h =
      if h % hour = 0 ∧ a ≤ h ∧ h < b then e.hourIndex iid h else none := by
  classical
  unfold queryLastIndexByHour
  rw [fillHour_lookup, rollupHours_lookup (f := e.hourIndex iid)
      fun r hr hiid => hiid ▸ (hc.rows r hr).2.1,
    floorHour_of_aligned ha]
  have hrow : d.HasRow iid h → h % hour = 0 := by
    rintro ⟨r, hr, -, rfl⟩
    exact (hc.rows r hr).1
  by_cases hin : h % hour = 0 ∧ a ≤ h ∧ h < b
  · have hend := (hour_in_window hb hin.1).mpr hin.2.2
    have hmem : h ∈ hoursFrom a (b - 1) :=
      (mem_hoursFrom ha).mpr ⟨hin.1, hin.2.1, Int.le_sub_one_of_lt hin.2.2⟩
    rw [if_pos hin, if_pos hmem, max_eq_left hin.2.1, min_eq_left hend]
    have hraw : (d.newestTick iid h (h + hour - 1)).map (·.indexPrice) =
        d.hourIndex iid h := rfl
    rw [hraw]
    by_cases hhas : d.HasRow iid h
    · have hinside : d.HasRow iid h ∧ a ≤ h ∧ h + hour - 1 ≤ b - 1 :=
        ⟨hhas, hin.2.1, hend⟩
      rw [if_pos hinside]
      cases hv : e.hourIndex iid h with
      | some v => rfl
      | none =>
          -- a row without an index: there was no native tick
          rcases hc.ticks iid h hin.1 with heq | ⟨hne, -⟩
          · rw [Option.none_or, hourIndex_eq_none, heq]
            exact hourIndex_eq_none.mp hv
          · exact absurd hv hne
    · have hout : ¬(d.HasRow iid h ∧ a ≤ h ∧ h + hour - 1 ≤ b - 1) :=
        fun hx => hhas hx.1
      rw [if_neg hout, Option.none_or]
      rcases hc.ticks iid h hin.1 with heq | ⟨-, hx⟩
      · unfold hourIndex
        rw [heq]
      · exact absurd hx hhas
  · have hmem : h ∉ hoursFrom a (b - 1) := by
      intro hmem
      obtain ⟨hh, hah, hhb⟩ := (mem_hoursFrom ha).mp hmem
      exact hin ⟨hh, hah, Int.lt_of_le_sub_one hhb⟩
    have hout : ¬(d.HasRow iid h ∧ a ≤ h ∧ h + hour - 1 ≤ b - 1) := by
      rintro ⟨hhas, hah, hend⟩
      exact hin ⟨hrow hhas, hah, (hour_in_window hb (hrow hhas)).mp hend⟩
    rw [if_neg hin, if_neg hmem, if_neg hout, Option.none_or]

/-! ## The runs of hours to read -/

/-- A run contains an hour. -/
def InRun (run : DateTime × DateTime) (h : DateTime) : Prop :=
  run.1 ≤ h ∧ h < run.2

instance {run : DateTime × DateTime} : Decidable (InRun run h) :=
  inferInstanceAs (Decidable (_ ∧ _))

/-- A run of hours inside a window. -/
structure RunIn (a b : DateTime) (run : DateTime × DateTime) : Prop where
  first : run.1 % hour = 0
  stop : run.2 % hour = 0
  nonempty : run.1 < run.2
  above : a ≤ run.1
  below : run.2 ≤ b

/-- A run that takes in one more hour contains that hour besides. -/
theorem inRun_extend {first x : DateTime} (hx : x % hour = 0)
    (hh : h % hour = 0) (hle : first ≤ x) :
    InRun (first, x + hour) h ↔ InRun (first, x) h ∨ h = x := by
  unfold InRun
  unfold hour minute second at *
  unfold DateTime at *
  omega

theorem RunIn.extend {first x : DateTime} (hf : first % hour = 0)
    (hx : x % hour = 0) (hle : first ≤ x) (ha : a ≤ first)
    (hb : b % hour = 0) (hxb : x < b) : RunIn a b (first, x + hour) := by
  refine ⟨hf, ?_, ?_, ha, ?_⟩
  all_goals
    simp only
    unfold hour minute second at *
    unfold DateTime at *
    omega

/-- The hours of a list are each in one run, and no other hour is. -/
theorem addRun_covers {hours : List DateTime} (hnodup : hours.Nodup)
    (hb : b % hour = 0)
    (hin : ∀ x ∈ hours, x % hour = 0 ∧ a ≤ x ∧ x < b) :
    (∀ run ∈ hours.foldl addRun [], RunIn a b run) ∧
      ∀ h, h % hour = 0 →
        (hours.foldl addRun []).countP (fun run => InRun run h) =
          if h ∈ hours then 1 else 0 := by
  induction hours using List.reverseRecOn with
  | nil => exact ⟨by simp, by simp⟩
  | append_singleton hs x ih =>
      rw [List.nodup_append] at hnodup
      obtain ⟨hruns, hcount⟩ := ih hnodup.1 fun y hy => hin y (by simp [hy])
      obtain ⟨hx, hax, hxb⟩ := hin x (by simp)
      have hfresh : x ∉ hs := fun hmem => hnodup.2.2 x hmem x (by simp) rfl
      rw [List.foldl_append]
      simp only [List.foldl_cons, List.foldl_nil]
      generalize hs.foldl addRun [] = runs at hruns hcount
      have hnew : ∀ h, h % hour = 0 → (InRun (x, x + hour) h ↔ h = x) := by
        intro h hh
        rw [inRun_extend hx hh le_rfl]
        exact or_iff_right fun hr => absurd hr.2 (not_lt.mpr hr.1)
      -- a new run of one hour
      have happend : (∀ run ∈ runs ++ [(x, x + hour)], RunIn a b run) ∧
          ∀ h, h % hour = 0 →
            (runs ++ [(x, x + hour)]).countP (fun run => InRun run h) =
              if h ∈ hs ++ [x] then 1 else 0 := by
        refine ⟨fun run hrun => ?_, fun h hh => ?_⟩
        · rcases List.mem_append.mp hrun with hrun | hrun
          · exact hruns run hrun
          · rw [List.mem_singleton.mp hrun]
            exact RunIn.extend hx hx le_rfl hax hb hxb
        · rw [List.countP_append, hcount h hh]
          by_cases hhx : h = x
          · subst hhx
            simp [hfresh, hnew h hh]
          · simp [hnew h hh, hhx]
      unfold addRun
      cases hlast : runs.getLast? with
      | none =>
          obtain rfl := List.getLast?_eq_none_iff.mp hlast
          exact happend
      | some last =>
          obtain ⟨first, stop⟩ := last
          simp only
          split
          · next hstop =>
              -- the last run ends at this hour
              subst hstop
              obtain ⟨ys, rfl⟩ := List.getLast?_eq_some_iff.mp hlast
              rw [List.dropLast_concat]
              have hrun := hruns (first, stop) (by simp)
              refine ⟨fun run hmem => ?_, fun h hh => ?_⟩
              · rcases List.mem_append.mp hmem with hmem | hmem
                · exact hruns run (by simp [hmem])
                · rw [List.mem_singleton.mp hmem]
                  exact RunIn.extend hrun.first hx hrun.nonempty.le hrun.above
                    hb hxb
              · have hold := hcount h hh
                have hext := inRun_extend hx hh hrun.nonempty.le
                simp only [List.countP_append, List.countP_singleton,
                  decide_eq_true_eq] at hold ⊢
                by_cases hhx : h = stop
                · subst hhx
                  rw [if_neg hfresh] at hold
                  rw [if_pos (hext.mpr (.inr rfl)), if_pos (by simp)]
                  omega
                · have hsame := hext.trans (or_iff_left hhx)
                  simp only [hsame, List.mem_append, List.mem_singleton, hhx,
                    or_false]
                  exact hold
          · exact happend

/-! ## The spread reader -/

/-- What a book adds to the spreads of its hour. -/
theorem addSpread_lookup (out : List (DateTime × List Decimal))
    (bs : List BookSnapshot) :
    ((bs.foldl addSpread out).lookup h).getD [] =
        (out.lookup h).getD [] ++
          (bs.filter fun x => floorHour x.exchangeTs = h).filterMap
            (·.spreadBps) ∧
      (out.lookup h ≠ some [] →
        (bs.foldl addSpread out).lookup h ≠ some []) := by
  induction bs generalizing out with
  | nil => simp
  | cons x rest ih =>
      rw [List.foldl_cons]
      obtain ⟨hval, hne⟩ := ih (addSpread out x)
      rw [hval]
      unfold addSpread at hne ⊢
      cases hs : x.spreadBps with
      | none =>
          rw [hs] at hne
          refine ⟨?_, hne⟩
          by_cases hx : floorHour x.exchangeTs = h
          · simp [hx, hs]
          · simp [hx]
      | some v =>
          rw [hs] at hne
          by_cases hx : floorHour x.exchangeTs = h
          · subst hx
            refine ⟨?_, fun _ => hne ?_⟩
            · simp [lookup_put, hs]
            · simp [lookup_put]
          · have hput : (put (floorHour x.exchangeTs)
                ((out.lookup (floorHour x.exchangeTs)).getD [] ++ [v])
                out).lookup h = out.lookup h := by
              rw [lookup_put, if_neg fun he => hx he.symm]
            refine ⟨?_, fun hout => hne ?_⟩
            · simp only [hput]
              simp [hx]
            · simp only [hput]
              exact hout

/-- The books a run reads, seen from one hour: all of the hour's, if the run
contains it. -/
theorem run_books {run : DateTime × DateTime} (hrun : RunIn a b run)
    (hh : h % hour = 0) :
    ((d.booksBetween iid (max run.1 a) (min (run.2 - 1) (b - 1))).filter
      fun x => floorHour x.exchangeTs = h).Perm
        (if InRun run h then d.hourBooks iid h else []) := by
  unfold booksBetween
  rw [max_eq_left hrun.above, min_eq_left (Int.sub_le_sub_right hrun.below 1)]
  refine ((List.perm_insertionSort _ _).filter _).trans ?_
  rw [List.filter_filter]
  split
  · next hr =>
      refine List.Perm.of_eq ?_
      unfold hourBooks
      refine List.filter_congr fun x _ => ?_
      rw [Bool.eq_iff_iff]
      simp only [Bool.and_eq_true, decide_eq_true_eq, floorHour_eq_iff hh]
      unfold InRun at hr
      have hend := (hour_in_window hrun.stop hh).mpr hr.2
      constructor
      · rintro ⟨hx, hiid, -, -⟩
        exact ⟨hiid, hx.1, hx.2⟩
      · rintro ⟨hiid, hlo, hhi⟩
        exact ⟨⟨hlo, hhi⟩, hiid, hr.1.trans hlo, hhi.trans hend⟩
  · next hr =>
      refine List.Perm.of_eq (List.filter_eq_nil_iff.mpr fun x _ => ?_)
      simp only [Bool.and_eq_true, decide_eq_true_eq, floorHour_eq_iff hh]
      rintro ⟨⟨hlo, hhi⟩, -, hfirst, hstop⟩
      apply hr
      have hfirst' := hrun.first
      unfold InRun
      unfold hour minute second at *
      unfold DateTime at *
      omega

theorem runs_books {runs : List (DateTime × DateTime)}
    (hruns : ∀ run ∈ runs, RunIn a b run) (hh : h % hour = 0) :
    ((runs.flatMap fun run =>
        d.booksBetween iid (max run.1 a) (min (run.2 - 1) (b - 1))).filter
      fun x => floorHour x.exchangeTs = h).Perm
        (List.replicate (runs.countP fun run => InRun run h)
          (d.hourBooks iid h)).flatten := by
  induction runs with
  | nil => exact List.Perm.refl _
  | cons run rest ih =>
      have hrest := ih fun r hr => hruns r (List.mem_cons_of_mem run hr)
      rw [List.flatMap_cons, List.filter_append]
      refine ((run_books (hruns run (by simp)) hh).append hrest).trans ?_
      refine List.Perm.of_eq ?_
      by_cases hr : InRun run h
      · simp [hr, List.replicate_succ]
      · simp [hr]

theorem lookup_map_snd {β γ : Type} (f : β → γ) (t : List (DateTime × β)) :
    (t.map fun kv => (kv.1, f kv.2)).lookup h = (t.lookup h).map f := by
  induction t with
  | nil => rfl
  | cons x rest ih =>
      obtain ⟨k, v⟩ := x
      simp only [List.map_cons, List.lookup_cons, ih]
      split <;> rfl

theorem firstOf_le {ρ : Type} {ts : ρ → DateTime} {rows : List ρ}
    {t : DateTime} (hfirst : firstOf ts rows = some t) {x : ρ}
    (hx : x ∈ rows) : t ≤ ts x :=
  (List.min?_eq_some_iff.mp hfirst).2 _ (List.mem_map_of_mem hx)

/-- An hour before that of the oldest book has no book, and without books no
hour has. -/
theorem hourBooks_before {stop : DateTime} (hh : h % hour = 0)
    (hlt : ¬d.firstBookHour iid stop ≤ h) : d.hourBooks iid h = [] := by
  unfold hourBooks
  refine List.filter_eq_nil_iff.mpr fun x hx => ?_
  simp only [decide_eq_true_eq]
  rintro ⟨hiid, hlo, hhi⟩
  have hmem : x ∈ d.booksOf iid :=
    List.mem_filter.mpr ⟨hx, decide_eq_true hiid⟩
  unfold firstBookHour at hlt
  cases hfirst : firstOf (·.exchangeTs) (d.booksOf iid) with
  | none =>
      have hnil := List.min?_eq_none_iff.mp hfirst
      rw [List.map_eq_nil_iff.mp hnil] at hmem
      cases hmem
  | some t =>
      rw [hfirst] at hlt
      apply hlt
      rw [← (floorHour_eq_iff hh).mpr ⟨hlo, hhi⟩]
      exact floorHour_mono (firstOf_le hfirst hmem)

/-- The spreads the runs add to an hour: those of its books, if it is one of
the hours to read. -/
theorem runs_spreads (d : MarketDb) (iid : InstrumentId) (h : DateTime)
    {hours : List DateTime} (hnodup : hours.Nodup) (hb : b % hour = 0)
    (hin : ∀ x ∈ hours, x % hour = 0 ∧ a ≤ x ∧ x < b) :
    ((((hours.foldl addRun []).flatMap fun run =>
        d.booksBetween iid (max run.1 a) (min (run.2 - 1) (b - 1))).filter
      fun x => floorHour x.exchangeTs = h).filterMap (·.spreadBps)).Perm
        (if h ∈ hours then d.hourSpreads iid h else []) := by
  obtain ⟨hruns, hcount⟩ := addRun_covers hnodup hb hin
  by_cases hh : h % hour = 0
  · refine ((runs_books hruns hh).filterMap _).trans ?_
    rw [hcount h hh]
    refine List.Perm.of_eq ?_
    split
    · simp [hourSpreads]
    · simp
  · -- books belong to full hours
    have hnil : ((hours.foldl addRun []).flatMap fun run =>
        d.booksBetween iid (max run.1 a) (min (run.2 - 1) (b - 1))).filter
          (fun x => floorHour x.exchangeTs = h) = [] := by
      refine List.filter_eq_nil_iff.mpr fun x _ => ?_
      simp only [decide_eq_true_eq]
      exact fun he => hh (he ▸ floorHour_aligned x.exchangeTs)
    rw [hnil, if_neg fun hmem => hh (hin h hmem).1]
    exact List.Perm.refl _

/-- The spread reader over an aligned window returns lists whose medians are
the hours' values, and no empty list. -/
theorem queryBookSpreadBpsByHour_lookup (hc : Covers d e)
    (ha : a % hour = 0) (hb : b % hour = 0) (iid : InstrumentId)
    (h : DateTime) :
    ∃ l, (d.queryBookSpreadBpsByHour iid a (b - 1)).lookup h =
        (if l = [] then none else some l) ∧
      medianOpt l =
        if h % hour = 0 ∧ a ≤ h ∧ h < b then e.hourMedian iid h else none := by
  classical
  unfold queryBookSpreadBpsByHour
  simp only [floorHour_of_aligned ha]
  -- the part from the rollup
  have hout : ∀ k, (((d.rollupHours iid (·.spreadBps) a (b - 1)).map fun hv =>
      (hv.1, [hv.2])).lookup k) =
        (if d.HasRow iid k ∧ a ≤ k ∧ k + hour - 1 ≤ b - 1 then
          e.hourMedian iid k else none).map fun v => [v] := by
    intro k
    rw [lookup_map_snd fun v => [v], rollupHours_lookup (f := e.hourMedian iid)
      fun r hr hiid => hiid ▸ (hc.rows r hr).2.2]
  generalize (d.rollupHours iid (·.spreadBps) a (b - 1)).map (fun hv =>
    (hv.1, [hv.2])) = out at hout
  -- the hours read from the books
  generalize hhours : (hoursFrom a (b - 1)).filter (fun k =>
    (out.lookup k).isNone ∧ d.firstBookHour iid (b - 1) ≤ k) = hours
  have hmem : ∀ k, k ∈ hours ↔ (k % hour = 0 ∧ a ≤ k ∧ k < b) ∧
      (out.lookup k).isNone ∧ d.firstBookHour iid (b - 1) ≤ k := by
    intro k
    rw [← hhours, List.mem_filter, mem_hoursFrom ha, Int.le_sub_one_iff]
    simp
  have hnodup : hours.Nodup := hhours ▸ (hoursFrom_nodup a (b - 1)).filter _
  have hspreads := runs_spreads d iid h hnodup hb
    fun x hx => ((hmem x).mp hx).1
  rw [← List.foldl_flatMap]
  obtain ⟨hval, hne⟩ := addSpread_lookup (h := h) out
    ((hours.foldl addRun []).flatMap fun run =>
      d.booksBetween iid (max run.1 a) (min (run.2 - 1) (b - 1)))
  have hnonempty : out.lookup h ≠ some [] := by
    rw [hout h]
    simp
  refine ⟨_, ?_, (congrArg medianOpt hval).trans ?_⟩
  · have hfinal := hne hnonempty
    split
    · next hnil =>
        generalize List.lookup h _ = x at hnil hfinal
        cases x with
        | none => rfl
        | some l => exact absurd (congrArg some hnil) hfinal
    · next hnil =>
        generalize List.lookup h _ = x at hnil hfinal
        cases x with
        | none => exact absurd rfl hnil
        | some l => rfl
  rw [medianOpt_perm (hspreads.append_left _)]
  have hrow : d.HasRow iid h → h % hour = 0 := by
    rintro ⟨r, hr, -, rfl⟩
    exact (hc.rows r hr).1
  by_cases hin : h % hour = 0 ∧ a ≤ h ∧ h < b
  · rw [if_pos hin]
    have hend := (hour_in_window hb hin.1).mpr hin.2.2
    -- an hour the rollup does not answer for is read from the books
    have hread : out.lookup h = none →
        d.hourSpreads iid h = e.hourSpreads iid h →
        medianOpt ((out.lookup h).getD [] ++
          if h ∈ hours then d.hourSpreads iid h else []) =
            e.hourMedian iid h := by
      intro hnone heq
      rw [hnone, Option.getD_none, List.nil_append]
      split
      · rw [heq]
        rfl
      · next hnot =>
          have hbefore : ¬d.firstBookHour iid (b - 1) ≤ h := fun hfirst =>
            hnot ((hmem h).mpr ⟨hin, by simp [hnone], hfirst⟩)
          have hnil : e.hourSpreads iid h = [] := by
            rw [← heq, hourSpreads, hourBooks_before hin.1 hbefore]
            rfl
          rw [hourMedian_eq_none.mpr hnil]
          rfl
    by_cases hhas : d.HasRow iid h
    · have hlook := hout h
      rw [if_pos ⟨hhas, hin.2.1, hend⟩] at hlook
      cases hv : e.hourMedian iid h with
      | some v =>
          rw [hv] at hlook
          have hnot : h ∉ hours := by
            intro hx
            have hisNone := ((hmem h).mp hx).2.1
            rw [hlook] at hisNone
            cases hisNone
          rw [hlook, if_neg hnot]
          exact medianOpt_singleton v
      | none =>
          rw [hv] at hlook
          rw [← hv]
          refine hread hlook ?_
          rcases hc.spreads iid h hin.1 with heq | ⟨hne', -⟩
          · exact heq
          · exact absurd hv hne'
    · have hlook := hout h
      rw [if_neg fun hx => hhas hx.1] at hlook
      refine hread hlook ?_
      rcases hc.spreads iid h hin.1 with heq | ⟨-, hx⟩
      · exact heq
      · exact absurd hx hhas
  · have hlook := hout h
    have hoff : ¬(d.HasRow iid h ∧ a ≤ h ∧ h + hour - 1 ≤ b - 1) := by
      rintro ⟨hhas, hah, hend⟩
      exact hin ⟨hrow hhas, hah, (hour_in_window hb (hrow hhas)).mp hend⟩
    rw [if_neg hoff] at hlook
    rw [hlook, if_neg fun hx => hin ((hmem h).mp hx).1, if_neg hin]
    rfl

end MarketDb

end Polyperps
