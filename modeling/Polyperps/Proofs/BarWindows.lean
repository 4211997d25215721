import Polyperps.Proofs.HourlyReaders
import Polyperps.Storage.BarTables

/-!
# Bars do not depend on the window

Over hour-aligned windows each of the four dictionaries has, at an hour of the
window, an entry that is a function of the stored rows and the hour alone. So
the bar of the hour is too (`barOf`), and the bars of a window are those of
its hours. Only the books need more than unfolding: the runs they are read in
depend on the window, what an hour gets from them does not.
-/

namespace Polyperps

open KeyedTable StableSort

namespace MarketDb

variable {d : MarketDb} {iid : InstrumentId} {a b h : DateTime}

/-! ## The rollup -/

/-- What the rollup holds for an hour. -/
def rolled (d : MarketDb) (iid : InstrumentId)
    (column : RollupRow → Option Decimal) (h : DateTime) : Option Decimal :=
  (d.rollups.filter fun r => r.instrumentId = iid ∧ r.hourTs = h).findSome?
    column

theorem rollupHours_at {column : RollupRow → Option Decimal} :
    (d.rollupHours iid column a b).lookup h =
      if a ≤ h ∧ h + hour - 1 ≤ b then d.rolled iid column h else none := by
  unfold rollupHours rolled
  generalize d.rollups = rows
  induction rows with
  | nil => simp
  | cons r rest ih =>
      rw [List.filterMap_cons, List.filter_cons]
      by_cases hr : r.instrumentId = iid ∧ r.hourTs = h
      · obtain ⟨hiid, rfl⟩ := hr
        by_cases hin : a ≤ r.hourTs ∧ r.hourTs + hour - 1 ≤ b
        · cases hv : column r with
          | none => simpa [hiid, hin, hv] using ih
          | some v => simp [hiid, hin, hv]
        · simp only [hin, and_false, if_false] at ih ⊢
          exact ih
      · rw [decide_eq_false hr, if_neg Bool.false_ne_true, ← ih]
        by_cases hcond : r.instrumentId = iid ∧ a ≤ r.hourTs ∧
            r.hourTs + hour - 1 ≤ b
        · rw [if_pos hcond]
          have hne : (h == r.hourTs) = false :=
            beq_eq_false_iff_ne.mpr fun heq => hr ⟨hcond.1, heq.symm⟩
          cases column r with
          | none => rfl
          | some v =>
              show List.lookup h ((r.hourTs, v) :: _) = _
              rw [List.lookup_cons, hne]
        · rw [if_neg hcond]

/-! ## The index -/

/-- An hour's index is the rollup's, or else that of its newest tick. -/
theorem indexByHour_at (ha : a % hour = 0) (hb : b % hour = 0)
    (hh : h % hour = 0) (hlo : a ≤ h) (hhi : h < b) :
    (d.queryLastIndexByHour iid a (b - 1)).lookup h =
      (d.rolled iid (·.indexClose) h).or (d.hourIndex iid h) := by
  have hend := (hour_in_window hb hh).mpr hhi
  have hmem : h ∈ hoursFrom a (b - 1) :=
    (mem_hoursFrom ha).mpr ⟨hh, hlo, Int.le_sub_one_of_lt hhi⟩
  unfold queryLastIndexByHour
  rw [fillHour_lookup, rollupHours_at, floorHour_of_aligned ha, if_pos hmem,
    if_pos ⟨hlo, hend⟩, max_eq_left hlo, min_eq_left hend]
  rfl

/-! ## The spreads -/

/-- An hour's spreads: the rollup's median, or else those of its books. -/
def spreadsOf (d : MarketDb) (iid : InstrumentId) (h : DateTime) :
    List Decimal :=
  match d.rolled iid (·.spreadBps) h with
  | some v => [v]
  | none => d.hourSpreads iid h

/-- The hours of a window that are read from the books. -/
def bookHours (d : MarketDb) (iid : InstrumentId) (a b : DateTime) :
    List DateTime :=
  (hoursFrom a (b - 1)).filter fun k =>
    d.rolled iid (·.spreadBps) k = none ∧ d.firstBookHour iid (b - 1) ≤ k

theorem mem_bookHours (ha : a % hour = 0) :
    h ∈ d.bookHours iid a b ↔ (h % hour = 0 ∧ a ≤ h ∧ h < b) ∧
      d.rolled iid (·.spreadBps) h = none ∧ d.firstBookHour iid (b - 1) ≤ h := by
  unfold bookHours
  rw [List.mem_filter, mem_hoursFrom ha, Int.le_sub_one_iff]
  simp

theorem bookHours_nodup : (d.bookHours iid a b).Nodup :=
  (hoursFrom_nodup a (b - 1)).filter _

/-- An hour of the window has the rollup's median, if there is one, before the
books are read. -/
theorem rollupSpreads_at (hb : b % hour = 0) (hh : h % hour = 0) (hlo : a ≤ h)
    (hhi : h < b) :
    ((d.rollupHours iid (·.spreadBps) a (b - 1)).map fun hv =>
      (hv.1, [hv.2])).lookup h =
        (d.rolled iid (·.spreadBps) h).map fun v => [v] := by
  rw [lookup_map_snd fun v => [v], rollupHours_at,
    if_pos ⟨hlo, (hour_in_window hb hh).mpr hhi⟩]

theorem bookRuns_eq (ha : a % hour = 0) (hb : b % hour = 0) :
    d.bookRuns iid a (b - 1) = (d.bookHours iid a b).foldl addRun [] := by
  unfold bookRuns bookHours
  dsimp only
  rw [floorHour_of_aligned ha]
  congr 1
  refine List.filter_congr fun k hk => ?_
  obtain ⟨hk, hlo, hhi⟩ := (mem_hoursFrom ha).mp hk
  rw [rollupSpreads_at hb hk hlo (Int.lt_of_le_sub_one hhi)]
  simp

/-- The books that are read. -/
def booksRead (d : MarketDb) (iid : InstrumentId) (a b : DateTime) :
    List BookSnapshot :=
  (d.bookRuns iid a (b - 1)).flatMap fun run =>
    d.booksBetween iid (max run.1 a) (min (run.2 - 1) (b - 1))

/-- An hour's spreads are those of its books unless the rollup has them,
whichever runs the books were read in. -/
theorem spreadsByHour_at (ha : a % hour = 0) (hb : b % hour = 0)
    (hh : h % hour = 0) (hlo : a ≤ h) (hhi : h < b) :
    ∃ l, (d.queryBookSpreadBpsByHour iid a (b - 1)).lookup h =
        (if l = [] then none else some l) ∧ l.Perm (d.spreadsOf iid h) := by
  have hrun : d.queryBookSpreadBpsByHour iid a (b - 1) =
      (d.booksRead iid a b).foldl addSpread
        ((d.rollupHours iid (·.spreadBps) a (b - 1)).map fun hv =>
          (hv.1, [hv.2])) := by
    unfold booksRead
    rw [List.foldl_flatMap]
    rfl
  have hout := @rollupSpreads_at d iid a b h hb hh hlo hhi
  generalize (d.rollupHours iid (·.spreadBps) a (b - 1)).map (fun hv =>
    (hv.1, [hv.2])) = out at hrun hout
  obtain ⟨hval, hne⟩ := addSpread_lookup (h := h) out (d.booksRead iid a b)
  have hread := runs_spreads d iid h (@bookHours_nodup d iid a b) hb
    fun x hx => ((mem_bookHours ha).mp hx).1
  rw [← bookRuns_eq ha hb] at hread
  have hperm := hread.append_left ((out.lookup h).getD [])
  rw [hrun]
  have hnonempty : out.lookup h ≠ some [] := by
    rw [hout]
    simp
  have hfinal := hne hnonempty
  have hsome : ∀ o : Option (List Decimal), o ≠ some [] →
      o = if o.getD [] = [] then none else some (o.getD []) := by
    intro o ho
    cases o with
    | none => rfl
    | some l =>
        have hl : l ≠ [] := fun heq => ho (congrArg some heq)
        exact (if_neg hl).symm
  refine ⟨_, hsome _ hfinal, ?_⟩
  rw [hval]
  refine hperm.trans (List.Perm.of_eq ?_)
  rw [hout]
  unfold spreadsOf
  cases hrolled : d.rolled iid (·.spreadBps) h with
  | some v =>
      have hnot : h ∉ d.bookHours iid a b := by
        intro hmem
        have hnone := ((mem_bookHours ha).mp hmem).2.1
        rw [hrolled] at hnone
        cases hnone
      rw [if_neg hnot]
      rfl
  | none =>
      show (if h ∈ d.bookHours iid a b then _ else []) = _
      split
      · rfl
      · next hnot =>
        have hbefore : ¬d.firstBookHour iid (b - 1) ≤ h := fun hfirst =>
          hnot ((mem_bookHours ha).mpr ⟨⟨hh, hlo, hhi⟩, hrolled, hfirst⟩)
        unfold hourSpreads
        rw [hourBooks_before hh hbefore]
        rfl

theorem mem_booksRead (ha : a % hour = 0) (hb : b % hour = 0)
    {x : BookSnapshot} :
    x ∈ d.booksRead iid a b ↔ floorHour x.exchangeTs ∈ d.bookHours iid a b ∧
      x ∈ d.hourBooks iid (floorHour x.exchangeTs) := by
  obtain ⟨hruns, hcount⟩ := addRun_covers (@bookHours_nodup d iid a b) hb
    fun y hy => ((mem_bookHours ha).mp hy).1
  rw [← bookRuns_eq ha hb] at hruns hcount
  have hperm := @runs_books d iid a b _ _ hruns
    (floorHour_aligned x.exchangeTs)
  have hmem := hperm.mem_iff (a := x)
  rw [List.mem_filter, hcount _ (floorHour_aligned x.exchangeTs)] at hmem
  simp only [decide_true, and_true] at hmem
  refine hmem.trans ?_
  split
  · next hin => simp [hin]
  · next hout => simp [hout]

/-- The reader raises for a book of an hour the rollup has no median of. -/
theorem spreadsFault_eq_none (ha : a % hour = 0) (hb : b % hour = 0) :
    d.spreadsFault iid a (b - 1) = none ↔
      ∀ h, h % hour = 0 → a ≤ h → h < b →
        d.rolled iid (·.spreadBps) h = none →
          ∀ x ∈ d.hourBooks iid h, x.spreadFault = none := by
  have hread : d.spreadsFault iid a (b - 1) =
      (d.booksRead iid a b).findSome? (·.spreadFault) := rfl
  rw [hread, List.findSome?_eq_none_iff]
  constructor
  · intro hall h hh hlo hhi hrolled x hx
    have hin : h ≤ x.exchangeTs ∧ x.exchangeTs ≤ h + hour - 1 := by
      have hbook := (List.mem_filter.mp hx).2
      simp only [decide_eq_true_eq] at hbook
      exact hbook.2
    have hfloor := (floorHour_eq_iff hh).mpr hin
    refine hall x ((mem_booksRead ha hb).mpr ?_)
    rw [hfloor]
    refine ⟨(mem_bookHours ha).mpr ⟨⟨hh, hlo, hhi⟩, hrolled, ?_⟩, hx⟩
    -- the oldest book is not after this one
    by_contra hbefore
    rw [hourBooks_before hh hbefore] at hx
    cases hx
  · intro hall x hx
    obtain ⟨hhour, hbook⟩ := (mem_booksRead ha hb).mp hx
    obtain ⟨⟨hh, hlo, hhi⟩, hrolled, -⟩ := (mem_bookHours ha).mp hhour
    exact hall _ hh hlo hhi hrolled x hbook

end MarketDb

namespace BarTables

variable {db : BarTables} {iid : InstrumentId} {source : SourceType}
  {proxySpread : Decimal} {a b c h : DateTime}

/-! ## Candles and funding -/

/-- The 1h candles of a source that open at an hour. -/
def candlesAt (db : BarTables) (iid : InstrumentId) (source : SourceType)
    (h : DateTime) : List Candle :=
  db.candles.filter fun c => c.instrumentId = iid ∧ c.interval = "1h" ∧
    c.sourceType = source ∧ c.openTs = h

/-- The funding rows of a source stamped within an hour. -/
def fundingAt (db : BarTables) (iid : InstrumentId) (source : SourceType)
    (h : DateTime) : List FundingObservation :=
  db.fundingRates.filter fun f => f.instrumentId = iid ∧
    f.sourceType = source ∧ h ≤ f.exchangeTs ∧ f.exchangeTs < h + hour

def candleOf (db : BarTables) (iid : InstrumentId) (source : SourceType)
    (h : DateTime) : Option Candle :=
  ((db.candlesAt iid source h).insertionSort fun x y =>
    x.openTs ≤ y.openTs).getLast?

def fundingOf (db : BarTables) (iid : InstrumentId) (source : SourceType)
    (h : DateTime) : Option Decimal :=
  (((db.fundingAt iid source h).insertionSort fun x y =>
    x.exchangeTs ≤ y.exchangeTs).getLast?).map (·.fundingRate)

instance : IsTrans Candle fun x y => x.openTs ≤ y.openTs :=
  ⟨fun _ _ _ => le_trans⟩

instance : Std.Total fun x y : Candle => x.openTs ≤ y.openTs :=
  ⟨fun x y => le_total x.openTs y.openTs⟩

instance : IsTrans FundingObservation fun x y => x.exchangeTs ≤ y.exchangeTs :=
  ⟨fun _ _ _ => le_trans⟩

instance : Std.Total fun x y : FundingObservation =>
    x.exchangeTs ≤ y.exchangeTs :=
  ⟨fun x y => le_total x.exchangeTs y.exchangeTs⟩

theorem candles_at (hlo : a ≤ h) (hhi : h ≤ b) :
    (dictOf Candle.openTs id (db.queryCandles iid "1h" source a b)).lookup h =
      db.candleOf iid source h := by
  unfold queryCandles candleOf candlesAt
  rw [lookup_dictOf, filter_insertionSort, List.filter_filter, Option.map_id]
  congr 3
  refine List.filter_congr fun c _ => ?_
  rw [Bool.eq_iff_iff]
  simp only [Bool.and_eq_true, decide_eq_true_eq]
  constructor
  · rintro ⟨rfl, hiid, hint, hsource, -, -⟩
    exact ⟨hiid, hint, hsource, rfl⟩
  · rintro ⟨hiid, hint, hsource, rfl⟩
    exact ⟨rfl, hiid, hint, hsource, hlo, hhi⟩

theorem funding_at (hh : h % hour = 0) (hlo : a ≤ h) (hhi : h + hour - 1 ≤ b) :
    (dictOf (fun f : FundingObservation => floorHour f.exchangeTs)
      FundingObservation.fundingRate
      (db.queryFunding iid a b (some source))).lookup h =
        db.fundingOf iid source h := by
  unfold queryFunding fundingOf fundingAt
  rw [lookup_dictOf, filter_insertionSort, List.filter_filter]
  congr 3
  refine List.filter_congr fun f _ => ?_
  rw [Bool.eq_iff_iff]
  simp only [Bool.and_eq_true, decide_eq_true_eq, floorHour_eq_iff hh,
    Option.mem_def, Option.some.injEq, forall_eq']
  constructor
  · rintro ⟨⟨hstart, hend⟩, hiid, -, -, hsource⟩
    exact ⟨hiid, hsource, hstart, Int.lt_of_le_sub_one hend⟩
  · rintro ⟨hiid, hsource, hstart, hend⟩
    have hend := Int.le_sub_one_of_lt hend
    exact ⟨⟨hstart, hend⟩, hiid, hlo.trans hstart, hend.trans hhi, hsource⟩

/-! ## The bar of an hour -/

/-- The bar of an hour, from the stored rows. -/
def barOf (db : BarTables) (iid : InstrumentId) (source : SourceType)
    (proxySpread : Decimal) (h : DateTime) : Bar :=
  let c := db.candleOf iid source h
  let rate := db.fundingOf iid source (h + hour)
  let spreads := if source.native then db.market.spreadsOf iid h else []
  { instrumentId := iid
    sourceType := source
    openTs := h
    openPrice := c.map (·.openPrice)
    high := c.map (·.high)
    low := c.map (·.low)
    close := c.map (·.close)
    indexClose :=
      if source.native then
        (db.market.rolled iid (·.indexClose) h).or (db.market.hourIndex iid h)
      else none
    fundingRate := rate
    spreadBps := if spreads = [] then proxySpread else median spreads
    spreadSource := if spreads = [] then .constant else .book
    complete := c.isSome && rate.isSome }

/-- Whichever aligned window it was read in. -/
theorem barAt_eq {rows : HourlyRows} (ha : a % hour = 0) (hb : b % hour = 0)
    (hrows : db.hourlyRows iid source a b = .ok rows) (hh : h % hour = 0)
    (hlo : a ≤ h) (hhi : h < b) :
    rows.barAt iid source proxySpread h =
      db.barOf iid source proxySpread h := by
  have hlast : floorHour (b - 1) = b - hour := by
    unfold floorHour hour minute second at *
    unfold DateTime at *
    omega
  have hend : b - hour + hour - 1 = b - 1 := by rw [sub_add_cancel]
  have hopen : h ≤ b - hour := by
    unfold hour minute second at *
    unfold DateTime at *
    omega
  have hnext : (h + hour) % hour = 0 := by
    rw [Int.add_emod_right, hh]
  have hpaid : h + hour + hour - 1 ≤ b - hour + 2 * hour - 1 := by
    unfold DateTime at *
    omega
  have hcandle := @candles_at db iid source _ _ _ hlo hopen
  have hfunding := @funding_at db iid source _ _ _ hnext
    (Int.add_le_add_right hlo hour) hpaid
  unfold hourlyRows at hrows
  simp only [floorHour_of_aligned ha, hlast, hend] at hrows
  have hmarket : rows.candles.lookup h = db.candleOf iid source h ∧
      rows.funding.lookup (h + hour) = db.fundingOf iid source (h + hour) ∧
      (source.native = true →
        rows.indexByHour = db.market.queryLastIndexByHour iid a (b - 1) ∧
        rows.spreadsByHour =
          db.market.queryBookSpreadBpsByHour iid a (b - 1)) := by
    split at hrows
    · split at hrows
      · cases hrows
      · cases hrows
        exact ⟨hcandle, hfunding, fun _ => ⟨rfl, rfl⟩⟩
    · next hproxy =>
      cases hrows
      exact ⟨hcandle, hfunding, fun hnative => absurd hnative hproxy⟩
  obtain ⟨hc, hf, hnative⟩ := hmarket
  unfold HourlyRows.barAt barOf HourlyRows.spreadAt
  simp only [hc, hf]
  cases hsource : source.native with
  | false => simp
  | true =>
      obtain ⟨hindex, hspreads⟩ := hnative hsource
      obtain ⟨l, hlookup, hperm⟩ :=
        @MarketDb.spreadsByHour_at db.market iid a b h ha hb hh hlo hhi
      rw [hindex, hspreads, MarketDb.indexByHour_at ha hb hh hlo hhi, hlookup]
      simp only [if_true, median_perm hperm.symm]
      have hnil : db.market.spreadsOf iid h = [] ↔ l = [] := by
        rw [← List.length_eq_zero_iff, ← hperm.length_eq,
          List.length_eq_zero_iff]
      cases l with
      | nil => simp [hnil]
      | cons x xs => simp [hnil]

/-! ## The bars of a window -/

/-- The hours from `a` on, before `b`. -/
def windowHours (a b : DateTime) : List DateTime :=
  (List.range ((b - a) / hour).toNat).map fun i : ℕ => a + i * hour

theorem mem_windowHours (ha : a % hour = 0) :
    h ∈ windowHours a b → h % hour = 0 ∧ a ≤ h ∧ h < b := by
  intro hmem
  obtain ⟨i, hi, rfl⟩ := List.mem_map.mp hmem
  have hi := List.mem_range.mp hi
  unfold hour minute second at *
  unfold DateTime at *
  omega

theorem windowHours_append (ha : a % hour = 0) (hb : b % hour = 0)
    (hab : a ≤ b) (hbc : b ≤ c) :
    windowHours a c = windowHours a b ++ windowHours b c := by
  have hlength : ((c - a) / hour).toNat =
      ((b - a) / hour).toNat + ((c - b) / hour).toNat := by
    unfold hour minute second at *
    unfold DateTime at *
    omega
  have hstart : a + ((b - a) / hour).toNat * hour = b := by
    unfold hour minute second at *
    unfold DateTime at *
    omega
  unfold windowHours
  rw [hlength, List.range_add, List.map_append, List.map_map]
  congr 1
  refine List.map_congr_left fun i _ => ?_
  show a + ((((b - a) / hour).toNat + i : ℕ) : ℤ) * hour = b + i * hour
  rw [Nat.cast_add, add_mul, ← add_assoc, hstart]

theorem rows_buildBars {rows : HourlyRows} (ha : a % hour = 0)
    (hb : b % hour = 0) (hlt : a < b) :
    rows.buildBars iid source proxySpread a b =
      (windowHours a b).map (rows.barAt iid source proxySpread) := by
  have hlength : (floorHour (b - 1) - a) / hour + 1 = (b - a) / hour := by
    unfold floorHour hour minute second at *
    unfold DateTime at *
    omega
  unfold HourlyRows.buildBars windowHours
  simp only [floorHour_of_aligned ha]
  rw [if_neg (not_le.mpr hlt), hlength, List.map_map]
  rfl

/-- No book that the window is read from makes the spread reader raise. -/
def Readable (db : BarTables) (iid : InstrumentId) (source : SourceType)
    (a b : DateTime) : Prop :=
  source.native = true → ∀ h, h % hour = 0 → a ≤ h → h < b →
    db.market.rolled iid (·.spreadBps) h = none →
      ∀ x ∈ db.market.hourBooks iid h, x.spreadFault = none

theorem Readable.append_iff (hab : a ≤ b) (hbc : b ≤ c) :
    db.Readable iid source a c ↔
      db.Readable iid source a b ∧ db.Readable iid source b c := by
  constructor
  · intro hall
    refine ⟨fun hn h hh hlo hhi => ?_, fun hn h hh hlo hhi => ?_⟩
    · exact hall hn h hh hlo (hhi.trans_le hbc)
    · exact hall hn h hh (hab.trans hlo) hhi
  · rintro ⟨hleft, hright⟩ hn h hh hlo hhi
    rcases lt_or_ge h b with hlt | hge
    · exact hleft hn h hh hlo hlt
    · exact hright hn h hh hge hhi

/-- The bars of an aligned window are those of its hours. -/
theorem buildBars_ok_iff (ha : a % hour = 0) (hb : b % hour = 0)
    (hab : a ≤ b) {bars : List Bar} :
    db.buildBars iid source proxySpread a b = .ok bars ↔
      db.Readable iid source a b ∧
        bars = (windowHours a b).map (db.barOf iid source proxySpread) := by
  unfold buildBars
  rw [floorHour_of_aligned ha]
  split
  · next hle =>
    obtain rfl : a = b := le_antisymm hab hle
    have hnone : windowHours a a = [] := by
      unfold windowHours
      rw [sub_self]
      rfl
    have hread : db.Readable iid source a a := fun _ h _ hlo hhi =>
      absurd hhi (not_lt.mpr hlo)
    rw [hnone]
    constructor
    · intro heq
      cases heq
      exact ⟨hread, rfl⟩
    · rintro ⟨-, rfl⟩
      rfl
  · next hlt =>
    have hlast : floorHour (b - 1) + hour - 1 = b - 1 := by
      unfold floorHour hour minute second at *
      unfold DateTime at *
      omega
    have hbars : ∀ rows, db.hourlyRows iid source a b = .ok rows →
        rows.buildBars iid source proxySpread a b =
          (windowHours a b).map (db.barOf iid source proxySpread) := by
      intro rows hrows
      rw [rows_buildBars ha hb (not_le.mp hlt)]
      refine List.map_congr_left fun h hmem => ?_
      obtain ⟨hh, hlo, hhi⟩ := mem_windowHours ha hmem
      exact barAt_eq ha hb hrows hh hlo hhi
    have hread : (∃ rows, db.hourlyRows iid source a b = .ok rows) ↔
        db.Readable iid source a b := by
      unfold hourlyRows Readable
      simp only [floorHour_of_aligned ha, hlast,
        ← MarketDb.spreadsFault_eq_none ha hb]
      split
      · next hnative =>
        cases hfault : db.market.spreadsFault iid a (b - 1) with
        | some e => simp [hnative]
        | none => simp
      · next hproxy => simp [hproxy]
    rw [← hread]
    constructor
    · intro heq
      cases hrows : db.hourlyRows iid source a b with
      | error e =>
          rw [hrows] at heq
          cases heq
      | ok rows =>
          rw [hrows] at heq
          exact ⟨⟨rows, rfl⟩, (Except.ok.inj heq).symm.trans (hbars rows hrows)⟩
    · rintro ⟨⟨rows, hrows⟩, rfl⟩
      rw [hrows, ← hbars rows hrows]
      rfl

theorem sorted_isSome {ρ : Type} {r : ρ → ρ → Prop} [DecidableRel r]
    {rows : List ρ} {p : ρ → Prop} [DecidablePred p] :
    ((rows.filter p).insertionSort r).getLast?.isSome = true ↔
      ∃ x ∈ rows, p x := by
  rw [Option.isSome_iff_ne_none, ne_eq, List.getLast?_eq_none_iff,
    ← List.length_eq_zero_iff, List.length_insertionSort,
    List.length_eq_zero_iff, List.filter_eq_nil_iff]
  simp

theorem barOf_complete :
    (db.barOf iid source proxySpread h).complete = true ↔
      (∃ c ∈ db.candles, c.instrumentId = iid ∧ c.interval = "1h" ∧
        c.sourceType = source ∧ c.openTs = h) ∧
      ∃ f ∈ db.fundingRates, f.instrumentId = iid ∧ f.sourceType = source ∧
        h + hour ≤ f.exchangeTs ∧ f.exchangeTs < h + 2 * hour := by
  have hnext : h + hour + hour = h + 2 * hour := by
    unfold DateTime at *
    omega
  unfold barOf candleOf fundingOf candlesAt fundingAt
  simp only [Bool.and_eq_true, Option.isSome_map]
  rw [sorted_isSome, sorted_isSome, hnext]

/-- Over hour-aligned times the bars of a window are those of its first part
followed by those of the rest, one for each hour in order, and a bar is
complete when its candle and its funding row are stored. A book can make the
reader raise, and then a window raises if and only if one of its parts does.
Of native ticks with the same timestamp the one stored first is read, so that
no assumption on them is needed. -/
theorem buildBars_windows (db : BarTables) (iid : InstrumentId)
    (source : SourceType) (proxySpread : Decimal) {a b c : DateTime}
    (ha : a % hour = 0) (hb : b % hour = 0) (hc : c % hour = 0)
    (hab : a ≤ b) (hbc : b ≤ c) :
    (∀ bars, db.buildBars iid source proxySpread a c = .ok bars ↔
      ∃ xs ys, db.buildBars iid source proxySpread a b = .ok xs ∧
        db.buildBars iid source proxySpread b c = .ok ys ∧ bars = xs ++ ys) ∧
    ∀ bars, db.buildBars iid source proxySpread a c = .ok bars →
      bars.map (·.openTs) = windowHours a c ∧
      ∀ bar ∈ bars, (bar.complete = true ↔
        (∃ c ∈ db.candles, c.instrumentId = iid ∧ c.interval = "1h" ∧
          c.sourceType = source ∧ c.openTs = bar.openTs) ∧
        ∃ f ∈ db.fundingRates, f.instrumentId = iid ∧
          f.sourceType = source ∧ bar.openTs + hour ≤ f.exchangeTs ∧
          f.exchangeTs < bar.openTs + 2 * hour) := by
  refine ⟨fun bars => ?_, fun bars hbars => ?_⟩
  · rw [buildBars_ok_iff ha hc (hab.trans hbc), Readable.append_iff hab hbc,
      windowHours_append ha hb hab hbc, List.map_append]
    simp only [buildBars_ok_iff ha hb hab, buildBars_ok_iff hb hc hbc]
    constructor
    · rintro ⟨⟨hleft, hright⟩, rfl⟩
      exact ⟨_, _, ⟨hleft, rfl⟩, ⟨hright, rfl⟩, rfl⟩
    · rintro ⟨xs, ys, ⟨hleft, rfl⟩, ⟨hright, rfl⟩, rfl⟩
      exact ⟨⟨hleft, hright⟩, rfl⟩
  · obtain ⟨-, rfl⟩ := (buildBars_ok_iff ha hc (hab.trans hbc)).mp hbars
    refine ⟨?_, fun bar hbar => ?_⟩
    · rw [List.map_map]
      exact List.map_id _
    · obtain ⟨h, -, rfl⟩ := List.mem_map.mp hbar
      exact barOf_complete

/-- A candle and its funding for the first hour, which the rollup knows, and a
tick and a book in the second. -/
def twoHours : BarTables where
  market :=
    { ticks := [⟨1, 101, 102, 101, 0, 2 * hour, hour + 30 * minute,
        hour + 30 * minute, .polymarketWs, none⟩]
      books := [⟨1, [⟨99, 1⟩], [⟨101, 1⟩], hour + 45 * minute,
        hour + 45 * minute, .polymarketRest, none⟩]
      rollups := [⟨1, 0, some 100, some 7, none⟩] }
  candles := [⟨1, "1h", 0, 99, 103, 98, 100, 10, 4, hour, .polymarketWs⟩]
  fundingRates := [⟨1, 1 / 10000, hour, hour, .polymarketWs⟩]

def firstBar : Bar where
  instrumentId := 1
  sourceType := .polymarketWs
  openTs := 0
  openPrice := some 99
  high := some 103
  low := some 98
  close := some 100
  indexClose := some 100
  fundingRate := some (1 / 10000)
  spreadBps := 7
  spreadSource := .book
  complete := true

def secondBar : Bar where
  instrumentId := 1
  sourceType := .polymarketWs
  openTs := hour
  openPrice := none
  high := none
  low := none
  close := none
  indexClose := some 102
  fundingRate := none
  spreadBps := 200
  spreadSource := .book
  complete := false

theorem buildBars_windows_twoHours :
    twoHours.buildBars 1 .polymarketWs 5 0 (2 * hour) =
      .ok [firstBar, secondBar] := by
  have h := buildBars_windows twoHours 1 .polymarketWs 5
    (show (0 : DateTime) % hour = 0 by decide)
    (show hour % hour = 0 by decide) (show 2 * hour % hour = 0 by decide)
    (by decide) (by decide)
  exact (h.1 _).mpr ⟨[firstBar], [secondBar], by decide +kernel,
    by decide +kernel, rfl⟩

end BarTables

end Polyperps
