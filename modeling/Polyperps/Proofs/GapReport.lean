import Polyperps.Lib.Neighbours
import Polyperps.Storage.Gaps

/-!
# What the gap report says

The report lists the neighbours that are too far apart among the window's
start, the stored times and the window's end. So its gaps come in order, none
has a row inside, and a stretch of the window longer than the limit is without
rows exactly when it lies in one of them.
-/

namespace Polyperps

namespace BarTables

open Neighbours

variable {db : BarTables} {iid : InstrumentId} {table : GapTable}
  {maxGap : ℤ} {start stop : DateTime} {interval : Option String}
  {gaps : List (DateTime × DateTime)}

/-- The ends of the window beside the stored times. -/
def marks (db : BarTables) (table : GapTable) (iid : InstrumentId)
    (interval : Option String) (start stop : DateTime) : List DateTime :=
  start :: ((db.timesIn table iid interval start stop).insertionSort
    (· ≤ ·) ++ [stop])

theorem mem_timesIn {t : DateTime}
    (h : t ∈ db.timesIn table iid interval start stop) :
    start ≤ t ∧ t ≤ stop := by
  unfold timesIn at h
  exact of_decide_eq_true (List.mem_filter.mp h).2

theorem marks_sorted (h : (db.timesIn table iid interval start stop) ≠ []) :
    (db.marks table iid interval start stop).Pairwise (· ≤ ·) := by
  have hin : ∀ t ∈ (db.timesIn table iid interval start stop).insertionSort
      (· ≤ ·), start ≤ t ∧ t ≤ stop := fun t ht =>
    mem_timesIn ((List.mem_insertionSort (· ≤ ·)).mp ht)
  obtain ⟨t, ht⟩ := List.exists_mem_of_ne_nil _ h
  have hwindow := hin t ((List.mem_insertionSort (· ≤ ·)).mpr ht)
  refine List.pairwise_cons.mpr ⟨fun x hx => ?_,
    List.pairwise_append.mpr ⟨List.pairwise_insertionSort (· ≤ ·) _,
      List.pairwise_singleton .., fun x hx y hy => ?_⟩⟩
  · rcases List.mem_append.mp hx with hx | hx
    · exact (hin x hx).1
    · rw [List.mem_singleton.mp hx]
      exact hwindow.1.trans hwindow.2
  · rw [List.mem_singleton.mp hy]
    exact (hin x hx).2

/-- Where there are rows, the report is the neighbouring marks that are too
far apart. -/
theorem findGaps_marks
    (hne : (db.timesIn table iid interval start stop) ≠ [])
    (h : db.findGaps iid table maxGap start stop interval = .ok gaps) :
    gaps = (adjacent (db.marks table iid interval start stop)).filter
      fun ab => maxGap < ab.2 - ab.1 := by
  unfold findGaps at h
  split at h
  · cases h
  unfold adjacent marks
  have hsorted : (db.timesIn table iid interval start stop).insertionSort
      (· ≤ ·) ≠ [] := fun hnil =>
    hne (List.perm_nil.mp (hnil ▸ (List.perm_insertionSort (· ≤ ·) _).symm))
  revert hsorted h
  generalize (db.timesIn table iid interval start stop).insertionSort
    (· ≤ ·) = stamps
  intro h hsorted
  dsimp only at h
  rw [List.head?_eq_some_head hsorted,
    List.getLast?_eq_some_getLast hsorted] at h
  rw [← Except.ok.inj h, zip_tail_ends hsorted, List.filter_cons,
    List.filter_append, List.filter_singleton]
  unfold adjacent
  by_cases hfirst : maxGap < stamps.head hsorted - start <;>
    by_cases hlast : maxGap < stop - stamps.getLast hsorted <;>
    simp [hfirst, hlast]

theorem mem_marks {t : DateTime} :
    t ∈ db.marks table iid interval start stop ↔
      t = start ∨ t ∈ db.timesIn table iid interval start stop ∨ t = stop := by
  unfold marks
  simp [List.mem_insertionSort]

/-- The gaps of the report come in order, each begins at a stored time or the
start of the window and ends at a stored time or its end, and is longer than
the limit where there are rows at all. A stretch of the window longer than the
limit has no row inside exactly when it lies in a gap of the report. -/
theorem findGaps_covers (hlimit : 0 ≤ maxGap)
    (h : db.findGaps iid table maxGap start stop interval = .ok gaps) :
    gaps.Pairwise (fun g g' => g.2 ≤ g'.1) ∧
    (∀ g ∈ gaps,
      (g.1 = start ∨ g.1 ∈ db.timesIn table iid interval start stop) ∧
      (g.2 = stop ∨ g.2 ∈ db.timesIn table iid interval start stop) ∧
      (db.timesIn table iid interval start stop ≠ [] →
        maxGap < g.2 - g.1)) ∧
    ∀ u v : DateTime, start ≤ u → v ≤ stop → maxGap < v - u →
      ((∀ t ∈ db.timesIn table iid interval start stop, t ≤ u ∨ v ≤ t) ↔
        ∃ g ∈ gaps, g.1 ≤ u ∧ v ≤ g.2) := by
  by_cases hrows : db.timesIn table iid interval start stop = []
  · have hgaps : gaps = [(start, stop)] := by
      unfold findGaps at h
      split at h
      · cases h
      rw [hrows] at h
      exact (Except.ok.inj h).symm
    rw [hgaps, hrows]
    refine ⟨List.pairwise_singleton .., fun g hg => ?_, fun u v hu hv _ => ?_⟩
    · rw [List.mem_singleton.mp hg]
      exact ⟨Or.inl rfl, Or.inl rfl, fun hne => absurd rfl hne⟩
    · exact iff_of_true (fun t ht => by cases ht)
        ⟨_, List.mem_singleton_self _, hu, hv⟩
  · have hsorted := marks_sorted hrows
    have hgaps := findGaps_marks hrows h
    have hmem : ∀ g ∈ gaps, g ∈ (db.marks table iid interval start stop).zip
        (db.marks table iid interval start stop).tail ∧
          maxGap < g.2 - g.1 := fun g hg => by
      rw [hgaps] at hg
      exact ⟨(List.mem_filter.mp hg).1,
        of_decide_eq_true (List.mem_filter.mp hg).2⟩
    have hinside : ∀ t ∈ db.marks table iid interval start stop,
        start ≤ t ∧ t ≤ stop := by
      obtain ⟨s, hs⟩ := List.exists_mem_of_ne_nil _ hrows
      have hwindow := (mem_timesIn hs).1.trans (mem_timesIn hs).2
      intro t ht
      rcases mem_marks.mp ht with rfl | ht | rfl
      · exact ⟨le_rfl, hwindow⟩
      · exact mem_timesIn ht
      · exact ⟨hwindow, le_rfl⟩
    refine ⟨?_, fun g hg => ?_, fun u v hu hv huv => ⟨fun hfree => ?_, ?_⟩⟩
    · rw [hgaps]
      exact (pairwise_zip_tail hsorted).filter _
    · obtain ⟨hadj, hlong⟩ := hmem g hg
      obtain ⟨hfst, hsnd⟩ := mem_of_mem_zip_tail hadj
      have hbegin := hinside _ hfst
      have hend := hinside _ hsnd
      -- a pair of positive length neither begins at the end nor ends at the
      -- start of the window
      have hne : g.1 ≠ stop ∧ g.2 ≠ start := by
        unfold DateTime at *
        omega
      refine ⟨?_, ?_, fun _ => hlong⟩
      · rcases mem_marks.mp hfst with h | h | h
        · exact Or.inl h
        · exact Or.inr h
        · exact absurd h hne.1
      · rcases mem_marks.mp hsnd with h | h | h
        · exact absurd h hne.2
        · exact Or.inr h
        · exact Or.inl h
    · have hmarks : ∀ t ∈ db.marks table iid interval start stop,
          ¬(u < t ∧ t < v) := by
        intro t ht hin
        rcases mem_marks.mp ht with rfl | ht | rfl
        · exact absurd hin.1 (not_lt.mpr hu)
        · rcases hfree t ht with h | h
          · exact absurd hin.1 (not_lt.mpr h)
          · exact absurd hin.2 (not_lt.mpr h)
        · exact absurd hin.2 (not_lt.mpr hv)
      have huv' : u < v := by
        unfold DateTime at *
        omega
      obtain ⟨g, hg, hgu, hgv⟩ := exists_zip_tail (List.cons_ne_nil _ _) huv'
        hu (by simpa using hv) hmarks
      refine ⟨g, ?_, hgu, hgv⟩
      rw [hgaps]
      refine List.mem_filter.mpr ⟨hg, decide_eq_true ?_⟩
      unfold DateTime at *
      omega
    · rintro ⟨g, hg, hgu, hgv⟩ t ht
      obtain ⟨hadj, _⟩ := hmem g hg
      rcases outside_zip_tail hsorted hadj t
        (mem_marks.mpr (Or.inr (Or.inl ht))) with hout | hout
      · exact Or.inl (hout.trans hgu)
      · exact Or.inr (hgv.trans hout)

/-! ## A night without rates -/

/-- Rates at one, two and five o'clock. -/
def threeRates : BarTables :=
  ⟨.empty, [],
    [⟨1, 1 / 10000, 5 * hour, 5 * hour, .polymarketWs⟩,
      ⟨1, 1 / 10000, hour, hour, .polymarketWs⟩,
      ⟨1, 1 / 10000, 2 * hour, 2 * hour, .polymarketWs⟩]⟩

/-- Only the hours from two to five are reported, so the two hours from half
past two are known to be without rows. -/
theorem findGaps_covers_threeRates :
    threeRates.findGaps 1 .fundingRates hour 0 (6 * hour) none =
        .ok [(2 * hour, 5 * hour)] ∧
      ∀ t ∈ threeRates.timesIn .fundingRates 1 none 0 (6 * hour),
        t ≤ 2 * hour + 30 * minute ∨ 4 * hour + 30 * minute ≤ t := by
  have hreport : threeRates.findGaps 1 .fundingRates hour 0 (6 * hour) none =
      .ok [(2 * hour, 5 * hour)] := by decide +kernel
  have hcovers := (findGaps_covers (by decide) hreport).2.2
  refine ⟨hreport, (hcovers _ _ ?_ ?_ ?_).mpr
    ⟨_, List.mem_singleton_self _, ?_, ?_⟩⟩
  all_goals decide

end BarTables

end Polyperps
