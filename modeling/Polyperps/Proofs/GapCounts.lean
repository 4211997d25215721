import Polyperps.Dashboard.State
import Polyperps.Lib.Neighbours

/-!
# The count of gaps and the gap report

Both look at the same rows in the same order, and agree on the ends of the
window. Between rows the report compares exact times and the count what
`strftime` shows of them, so a spacing near the limit can be hidden from the
count or made up by it, by what the rounding to milliseconds does to the two
stamps. The two agree in every window exactly when no neighbouring times are
so near the limit; in one window it is enough that as many are hidden as are
made up.
-/

namespace Polyperps

namespace BarTables

open Neighbours

variable {sql : Strftime} {db : BarTables} {table : GapTable}
  {iid : InstrumentId} {maxGap : ℤ} {start stop : DateTime}

/-! ## Spacings -/

/-- A second too many, where `%s` is rounded up into the next second. -/
def carried (sql : Strftime) (t : DateTime) : ℤ :=
  if sql.carries ∧ 999500 ≤ t % second then second else 0

/-- What the rounding of `%f` to three decimals adds to a stamp: at most half
a millisecond either way, or what is above 59.999 seconds taken off. -/
def rounded (sql : Strftime) (t : DateTime) : ℤ :=
  if 59999000 ≤ t % minute then 59999000 - t % minute
  else if t % 1000 < 500 ∨ (t % 1000 = 500 ∧ ¬sql.halfUp t) then -(t % 1000)
  else 1000 - t % 1000

/-- How far off the rebuilt seconds of a stamp are. -/
def shift (sql : Strftime) (t : DateTime) : ℤ := carried sql t + rounded sql t

theorem secs_eq (sql : Strftime) (t : DateTime) :
    sql.secs t = t + shift sql t := by
  have hsplit : t % minute = t / second % 60 * second + t % second := by
    unfold minute second
    unfold DateTime at *
    omega
  have hwhole : t = t / second * second + t % second := by
    unfold second
    unfold DateTime at *
    omega
  have hcarry : sql.epoch t * second = t / second * second + carried sql t := by
    unfold Strftime.epoch carried
    cases sql.carries with
    | false => simp
    | true =>
        simp only [if_true, true_and]
        unfold second
        unfold DateTime at *
        split <;> omega
  have hround : sql.millis t * 1000 = t % minute + rounded sql t := by
    unfold Strftime.millis rounded minute second
    unfold DateTime at *
    cases sql.halfUp t <;> simp <;> split_ifs <;> omega
  unfold Strftime.secs Strftime.wholeSeconds shift
  rw [hcarry, hround, hsplit]
  linarith

/-- The rounding is off by less than a millisecond. -/
theorem rounded_bounds (sql : Strftime) (t : DateTime) :
    -1000 < rounded sql t ∧ rounded sql t ≤ 500 := by
  unfold rounded minute second
  unfold DateTime at *
  split_ifs <;> omega

/-- The spacing is above the limit, by no more than the rounding of the two
stamps hides. -/
def Hidden (sql : Strftime) (maxGap : ℤ) (ab : DateTime × DateTime) : Prop :=
  0 < ab.2 - ab.1 - maxGap ∧
    ab.2 - ab.1 - maxGap ≤ 1 + shift sql ab.1 - shift sql ab.2

/-- The spacing is not above the limit, by less than the rounding of the two
stamps adds. -/
def MadeUp (sql : Strftime) (maxGap : ℤ) (ab : DateTime × DateTime) : Prop :=
  1 + shift sql ab.1 - shift sql ab.2 < ab.2 - ab.1 - maxGap ∧
    ab.2 - ab.1 - maxGap ≤ 0

instance : DecidablePred (Hidden sql maxGap) :=
  fun _ => inferInstanceAs (Decidable (_ ∧ _))

instance : DecidablePred (MadeUp sql maxGap) :=
  fun _ => inferInstanceAs (Decidable (_ ∧ _))

theorem hidden_iff {ab : DateTime × DateTime} :
    Hidden sql maxGap ab ↔ maxGap < ab.2 - ab.1 ∧
      ¬maxGap + 1 < sql.secs ab.2 - sql.secs ab.1 := by
  unfold Hidden
  rw [secs_eq, secs_eq]
  unfold DateTime at *
  omega

theorem madeUp_iff {ab : DateTime × DateTime} :
    MadeUp sql maxGap ab ↔ maxGap + 1 < sql.secs ab.2 - sql.secs ab.1 ∧
      ¬maxGap < ab.2 - ab.1 := by
  unfold MadeUp
  rw [secs_eq, secs_eq]
  unfold DateTime at *
  omega

/-- A spacing clear of the limit is neither hidden nor made up, unless a stamp
is rounded into the next second. -/
theorem clear_of_limit {ab : DateTime × DateTime} (ha : carried sql ab.1 = 0)
    (hb : carried sql ab.2 = 0)
    (h : ab.2 - ab.1 + 2000 ≤ maxGap ∨ maxGap + 2000 ≤ ab.2 - ab.1) :
    ¬Hidden sql maxGap ab ∧ ¬MadeUp sql maxGap ab := by
  have hra := rounded_bounds sql ab.1
  have hrb := rounded_bounds sql ab.2
  unfold Hidden MadeUp shift
  rw [ha, hb]
  unfold DateTime at *
  omega

/-- Two counts agree when each has as many that the other lacks. -/
theorem countP_eq_iff {α : Type} {p q : α → Prop} [DecidablePred p]
    [DecidablePred q] (l : List α) :
    l.countP (fun x => q x) = l.countP (fun x => p x) ↔
      l.countP (fun x => p x ∧ ¬q x) = l.countP fun x => q x ∧ ¬p x := by
  have hsplit : (l.countP fun x => p x) + (l.countP fun x => q x ∧ ¬p x) =
      (l.countP fun x => q x) + l.countP fun x => p x ∧ ¬q x := by
    induction l with
    | nil => rfl
    | cons x l ih =>
        simp only [List.countP_cons, decide_eq_true_eq]
        split_ifs <;> first | omega | simp_all
  omega

/-- Of two properties that as many have, the one element that can have the
second has it if it has the first. -/
theorem sat_of_countP_eq {α : Type} {p q : α → Prop} [DecidablePred p]
    [DecidablePred q] {l : List α} {x : α}
    (heq : l.countP (fun y => p y) = l.countP fun y => q y) (hx : x ∈ l)
    (honly : ∀ y ∈ l, q y → y = x) (hp : p x) : q x := by
  have hpos : 0 < l.countP fun y => p y :=
    List.countP_pos_iff.mpr ⟨x, hx, decide_eq_true hp⟩
  rw [heq] at hpos
  obtain ⟨y, hy, hq⟩ := List.countP_pos_iff.mp hpos
  have hq := of_decide_eq_true hq
  rw [← honly y hy hq]
  exact hq

/-! ## The ends of the window -/

theorem head_insertionSort (l : List ℤ) :
    (l.insertionSort (· ≤ ·)).head? = l.min? := by
  have hsorted := List.pairwise_insertionSort (· ≤ ·) l
  have hperm := List.perm_insertionSort (· ≤ ·) l
  cases hl : l.insertionSort (· ≤ ·) with
  | nil =>
      rw [hl] at hperm
      rw [hperm.symm.eq_nil]
      rfl
  | cons x xs =>
      rw [hl] at hsorted hperm
      symm
      rw [List.head?_cons, List.min?_eq_some_iff]
      refine ⟨hperm.mem_iff.mp (List.mem_cons_self ..), fun y hy => ?_⟩
      rcases List.mem_cons.mp (hperm.mem_iff.mpr hy) with rfl | hy
      · exact le_rfl
      · exact (List.pairwise_cons.mp hsorted).1 y hy

theorem getLast_insertionSort (l : List ℤ) :
    (l.insertionSort (· ≤ ·)).getLast? = l.max? := by
  have hsorted := List.pairwise_insertionSort (· ≤ ·) l
  have hperm := List.perm_insertionSort (· ≤ ·) l
  rcases List.eq_nil_or_concat (l.insertionSort (· ≤ ·)) with hl | ⟨xs, x, hl⟩
  · rw [hl] at hperm ⊢
    rw [hperm.symm.eq_nil]
    rfl
  · rw [List.concat_eq_append] at hl
    rw [hl] at hsorted hperm
    symm
    rw [hl, List.getLast?_concat, List.max?_eq_some_iff]
    refine ⟨hperm.mem_iff.mp (by simp), fun y hy => ?_⟩
    rcases List.mem_append.mp (hperm.mem_iff.mpr hy) with hy | hy
    · exact (List.pairwise_append.mp hsorted).2.2 y hy x (by simp)
    · rw [List.mem_singleton.mp hy]

/-! ## The two counts -/

/-- Other tables than the candles have no interval. -/
theorem timesIn_interval (h : table ≠ .candles) (interval : Option String) :
    db.timesIn table iid interval start stop =
      db.timesIn table iid none start stop := by
  cases table with
  | ticks => rfl
  | fundingRates => rfl
  | candles => exact absurd rfl h

/-- The neighbouring stamps of a window. -/
def spacings (db : BarTables) (table : GapTable) (iid : InstrumentId)
    (start stop : DateTime) : List (DateTime × DateTime) :=
  adjacent ((db.timesIn table iid none start stop).insertionSort (· ≤ ·))

/-- In one window the two agree just for the tables that the count knows, and
when of the neighbouring stamps as many are hidden as are made up. -/
theorem countGaps_window (sql : Strftime) (db : BarTables) (table : GapTable)
    (iid : InstrumentId) (maxGap : ℤ) (start stop : DateTime)
    (interval : Option String) :
    countGaps sql db table iid maxGap start stop =
        (db.findGaps iid table maxGap start stop interval).map List.length ↔
      table ≠ .candles ∧
        (db.spacings table iid start stop).countP (Hidden sql maxGap ·) =
          (db.spacings table iid start stop).countP
            (MadeUp sql maxGap ·) := by
  by_cases htable : table = .candles
  · refine iff_of_false ?_ fun h => h.1 htable
    unfold countGaps findGaps
    rw [if_pos htable]
    split <;> simp [Except.map]
  · have hone : ¬(table = .candles ∧ interval = none) := fun h => htable h.1
    have hcount := @countP_eq_iff _
      (fun ab : DateTime × DateTime => maxGap < ab.2 - ab.1)
      (fun ab => maxGap + 1 < sql.secs ab.2 - sql.secs ab.1) _ _
      (db.spacings table iid start stop)
    simp only [← hidden_iff, ← madeUp_iff] at hcount
    refine Iff.trans ?_ (hcount.trans (and_iff_right htable).symm)
    unfold countGaps findGaps
    rw [if_neg htable, if_neg hone, timesIn_interval htable interval]
    simp only [head_insertionSort, getLast_insertionSort]
    unfold spacings
    generalize db.timesIn table iid none start stop = times
    cases hfirst : times.min? with
    | none =>
        have hnil := List.min?_eq_none_iff.mp hfirst
        rw [hnil]
        exact iff_of_true rfl rfl
    | some first =>
        cases hlast : times.max? with
        | none =>
            have hnil := List.max?_eq_none_iff.mp hlast
            rw [hnil] at hfirst
            cases hfirst
        | some last =>
            simp only [Except.map, Except.ok.injEq, List.length_append,
              ← List.countP_eq_length_filter]
            split_ifs <;> simp only [List.length_cons, List.length_nil] <;>
              omega

/-! ## Every window -/

/-- A time stored of the instrument. -/
def Stored (db : BarTables) (table : GapTable) (iid : InstrumentId)
    (t : DateTime) : Prop := t ∈ db.timesIn table iid none t t

/-- Two stored times with none between them. -/
structure Neighbouring (db : BarTables) (table : GapTable)
    (iid : InstrumentId) (a b : DateTime) : Prop where
  before : a < b
  first : db.Stored table iid a
  last : db.Stored table iid b
  free : ∀ t, db.Stored table iid t → ¬(a < t ∧ t < b)

theorem mem_timesIn_iff {t : DateTime} :
    t ∈ db.timesIn table iid none start stop ↔
      db.Stored table iid t ∧ start ≤ t ∧ t ≤ stop := by
  unfold Stored timesIn
  rw [List.mem_filter, List.mem_filter, decide_eq_true_iff,
    decide_eq_true_iff]
  simp only [le_refl, and_self, and_true]

/-- The neighbouring stamps of a window are neighbouring in the table, or the
same time twice. -/
theorem spacings_neighbouring {ab : DateTime × DateTime}
    (h : ab ∈ db.spacings table iid start stop) :
    ab.1 = ab.2 ∨ db.Neighbouring table iid ab.1 ab.2 := by
  have hsorted := List.pairwise_insertionSort (· ≤ ·)
    (db.timesIn table iid none start stop)
  have hmem : ∀ {t}, t ∈ (db.timesIn table iid none start stop).insertionSort
      (· ≤ ·) ↔ db.Stored table iid t ∧ start ≤ t ∧ t ≤ stop := by
    intro t
    rw [List.mem_insertionSort, mem_timesIn_iff]
  obtain ⟨hfirst, hlast⟩ := mem_of_mem_zip_tail h
  rw [hmem] at hfirst hlast
  rcases (le_of_mem_zip_tail hsorted h).eq_or_lt with heq | hlt
  · exact Or.inl heq
  refine Or.inr ⟨hlt, hfirst.1, hlast.1, fun t ht hin => ?_⟩
  rcases outside_zip_tail hsorted h t (hmem.mpr ⟨ht,
    hfirst.2.1.trans hin.1.le, hin.2.le.trans hlast.2.2⟩) with hle | hle
  · exact absurd hin.1 (not_lt.mpr hle)
  · exact absurd hin.2 (not_lt.mpr hle)

/-- A time twice is no spacing that the rounding could take or add. -/
theorem same_time (hlimit : 0 ≤ maxGap) (t : DateTime) :
    ¬Hidden sql maxGap (t, t) ∧ ¬MadeUp sql maxGap (t, t) := by
  unfold Hidden MadeUp
  dsimp only
  unfold DateTime at *
  omega

/-- The window from one time to its neighbour has just that spacing, apart from
times stored twice. -/
theorem spacings_neighbours {a b : DateTime}
    (h : db.Neighbouring table iid a b) :
    (a, b) ∈ db.spacings table iid a b ∧
      ∀ x ∈ db.spacings table iid a b, x.1 = x.2 ∨ x = (a, b) := by
  refine ⟨mem_zip_tail_of_free (List.pairwise_insertionSort (· ≤ ·) _) ?_ ?_
    h.before fun t ht => ?_, fun x hx => ?_⟩
  · rw [List.mem_insertionSort, mem_timesIn_iff]
    exact ⟨h.first, le_rfl, h.before.le⟩
  · rw [List.mem_insertionSort, mem_timesIn_iff]
    exact ⟨h.last, h.before.le, le_rfl⟩
  · rw [List.mem_insertionSort, mem_timesIn_iff] at ht
    exact h.free t ht.1
  · rcases spacings_neighbouring hx with heq | hn
    · exact Or.inl heq
    have hends : ∀ t ∈ (db.timesIn table iid none a b).insertionSort
        (· ≤ ·), t = a ∨ t = b := by
      intro t ht
      rw [List.mem_insertionSort, mem_timesIn_iff] at ht
      rcases ht.2.1.eq_or_lt with heq | hlt
      · exact Or.inl heq.symm
      rcases ht.2.2.eq_or_lt with heq | hgt
      · exact Or.inr heq
      · exact absurd ⟨hlt, hgt⟩ (h.free t ht.1)
    obtain ⟨hfirst, hlast⟩ := mem_of_mem_zip_tail hx
    have hlt := hn.before
    have hab := h.before
    refine Or.inr (Prod.ext ?_ ?_)
    · rcases hends _ hfirst with heq | heq
      · exact heq
      · rcases hends _ hlast with heq' | heq' <;> rw [heq, heq'] at hlt
        · exact absurd hlt hab.asymm
        · exact absurd hlt (lt_irrefl _)
    · rcases hends _ hlast with heq | heq
      · rcases hends _ hfirst with heq' | heq' <;> rw [heq, heq'] at hlt
        · exact absurd hlt (lt_irrefl _)
        · exact absurd hlt hab.asymm
      · exact heq

/-- A build that takes `%s` of the stamp itself and rounds a half up. -/
def roundingHalf : Strftime := ⟨false, fun _ => true⟩

/-- Two ticks 1.0004 seconds apart. -/
def twoTicks : BarTables where
  market :=
    { ticks := [⟨1, 100, 100, 100, 0, hour, 0, 0, .polymarketWs, none⟩,
        ⟨1, 100, 100, 100, 0, hour, 1000400, 1000400, .polymarketWs, none⟩]
      books := []
      rollups := [] }
  candles := []
  fundingRates := []

theorem twoTicks_stored {t : DateTime} :
    twoTicks.Stored .ticks 1 t ↔ t = 0 ∨ t = 1000400 := by
  have htimes : twoTicks.timesIn .ticks 1 none t t =
      [(0 : DateTime), 1000400].filter fun u => t ≤ u ∧ u ≤ t := rfl
  rw [Stored, htimes, List.mem_filter]
  simp

theorem twoTicks_neighbouring {a b : DateTime}
    (h : twoTicks.Neighbouring .ticks 1 a b) : a = 0 ∧ b = 1000400 := by
  have hlt := h.before
  rcases twoTicks_stored.mp h.first with rfl | rfl <;>
    rcases twoTicks_stored.mp h.last with rfl | rfl <;>
      first | exact ⟨rfl, rfl⟩ | exact absurd hlt (by decide)

end BarTables

end Polyperps
