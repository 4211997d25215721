import Polyperps.Lib.EverSince
import Polyperps.Scripts.Healthcheck

/-!
# What the health check has said

The file holds the problems of the last check that wrote it, unless a later
write was cut short. So what a run sends can be told from the runs before it:
a problem is announced unless it was in the file, and recovered if it was and
is no more. A problem that is there now has been announced, and every run
since has found it or has sent an alert of its own failure.
-/

namespace Polyperps

namespace Health

open KeyedTable Temporal

variable {r : Readings} {c : Check} {checks : List Check}
  {file : Option HealthState} {key : String}

/-! ## The lists of one evaluation -/

theorem Readings.keys_problems_nodup :
    (r.problems.map Prod.fst).Nodup := by
  unfold problems dictOf
  generalize r.diskFull ++ r.ticksStale ++ r.unitsDown ++ r.oneshotsFailed = l
  induction l using List.reverseRecOn with
  | nil => exact List.nodup_nil
  | append_singleton l x ih =>
      rw [List.foldl_append]
      exact nodup_put ih

/-- A sorted list without repetitions is strictly increasing. -/
theorem sorted_lt {l : List String} (h : l.Nodup) :
    (l.insertionSort (· ≤ ·)).Pairwise (· < ·) := by
  have hsorted := List.pairwise_insertionSort (· ≤ ·) l
  have hnodup := (List.perm_insertionSort (· ≤ ·) l).nodup_iff.mpr h
  exact (hsorted.and hnodup).imp fun hx => lt_of_le_of_ne hx.1 hx.2

theorem Readings.mem_appeared {was : List String} {f : Finding} :
    (key, f) ∈ r.appeared was ↔
      r.problems.lookup key = some f ∧ key ∉ was := by
  unfold appeared
  rw [List.mem_filterMap]
  constructor
  · rintro ⟨k, hk, hmap⟩
    obtain ⟨g, hg, heq⟩ := Option.map_eq_some_iff.mp hmap
    cases heq
    rw [List.mem_insertionSort, List.mem_filter] at hk
    exact ⟨hg, of_decide_eq_true hk.2⟩
  · rintro ⟨hf, hwas⟩
    refine ⟨key, ?_, by rw [hf]; rfl⟩
    rw [List.mem_insertionSort, List.mem_filter]
    refine ⟨mem_keys_iff.mpr ?_, decide_eq_true hwas⟩
    rw [hf]
    exact Option.some_ne_none _

theorem Readings.appeared_sorted {was : List String} :
    (r.appeared was).Pairwise fun p q => p.1 < q.1 := by
  unfold appeared
  have hlt := sorted_lt (List.Nodup.filter (fun k => decide (k ∉ was))
    r.keys_problems_nodup)
  rw [List.pairwise_filterMap]
  refine hlt.imp fun {k l} hkl p hp q hq => ?_
  obtain ⟨_, _, rfl⟩ := Option.map_eq_some_iff.mp hp
  obtain ⟨_, _, rfl⟩ := Option.map_eq_some_iff.mp hq
  exact hkl

theorem Readings.mem_cleared {was : List String} :
    key ∈ r.cleared was ↔ key ∉ r.problems.map Prod.fst ∧ key ∈ was := by
  unfold cleared
  rw [List.mem_insertionSort, List.mem_filter, List.mem_dedup,
    decide_eq_true_iff]
  exact and_comm

theorem Readings.cleared_sorted {was : List String} :
    (r.cleared was).Pairwise (· < ·) :=
  sorted_lt ((List.nodup_dedup was).filter _)

theorem Readings.mem_restarted {seen : List (String × ℕ)} {unit : String}
    {n new : ℕ} :
    (unit, n, new) ∈ r.restarted seen ↔
      (unit, n) ∈ r.restarts ∧
        ∃ before, seen.lookup unit = some before ∧ before < n ∧
          new = n - before := by
  unfold restarted
  rw [List.mem_filterMap]
  constructor
  · rintro ⟨⟨u, m⟩, hu, hsome⟩
    dsimp only at hsome
    split at hsome
    · next hlt =>
      cases hsome
      cases hseen : seen.lookup unit with
      | none =>
          rw [hseen] at hlt
          exact absurd hlt (lt_irrefl _)
      | some before =>
          rw [hseen] at hlt
          exact ⟨hu, before, rfl, hlt, rfl⟩
    · cases hsome
  · rintro ⟨hu, before, hseen, hlt, rfl⟩
    refine ⟨(unit, n), hu, ?_⟩
    dsimp only
    rw [hseen]
    exact if_pos hlt

theorem Readings.restarted_sublist {seen : List (String × ℕ)} :
    ((r.restarted seen).map fun u => (u.1, u.2.1)).Sublist r.restarts := by
  unfold restarted
  rw [List.map_filterMap]
  generalize r.restarts = units
  induction units with
  | nil => exact List.Sublist.refl []
  | cons u rest ih =>
      rw [List.filterMap_cons]
      dsimp only
      split
      · exact ih.cons u
      · next v hv =>
        split at hv
        · cases hv
          exact ih.cons_cons u
        · cases hv

/-! ## The file -/

/-- The check found the problem. -/
def Check.Finds (key : String) (c : Check) : Prop :=
  ∃ r, c.readings = .ok r ∧ key ∈ r.problems.map Prod.fst

/-- The check wrote the file, with this in it. -/
def Check.Wrote (p : Readings → Prop) (c : Check) : Prop :=
  ∃ r, c.readings = .ok r ∧ c.saved = .written ∧ p r

/-- The check left the file as it was. -/
def Check.Leaves (c : Check) : Prop :=
  ∀ r, c.readings = .ok r → ∃ e, c.saved = .refused e

/-- A part of the state is what the last check that wrote the file made it,
unless a write was cut short since. -/
theorem fileAfter_iff {β : Type} {view : HealthState → β} {b : β}
    (hempty : view .empty ≠ b) :
    view ((fileAfter none checks).getD .empty) = b ↔
      EverSince (Check.Wrote fun r => view r.state = b) Check.Leaves
        checks := by
  unfold fileAfter
  have hfold := @foldl_iff_everSince Check (Option HealthState) β
    (Check.Wrote fun r => view r.state = b) Check.Leaves
    (fun file c => (c.main file).2) (fun file => view (file.getD .empty)) b
    (fun file c => ?_) none checks
  · rw [hfold, Option.getD_none]
    simp only [hempty, false_and, or_false]
  unfold Check.Wrote Check.Leaves Check.main
  cases hr : c.readings with
  | error e => simp
  | ok r =>
      cases hs : c.saved with
      | written => simp [Readings.evaluate]
      | refused e => simp
      | cutShort e => simp [hempty]

theorem mem_opened_iff :
    key ∈ ((fileAfter none checks).getD .empty).opened ↔
      EverSince (Check.Wrote fun r => key ∈ r.problems.map Prod.fst)
        Check.Leaves checks := by
  have h := @fileAfter_iff checks Bool
    (fun s => decide (key ∈ s.opened)) true (by simp [HealthState.empty])
  simpa only [decide_eq_true_iff, Readings.state, List.mem_insertionSort]
    using h

theorem lookup_restarts_iff {unit : String} {n : ℕ} :
    ((fileAfter none checks).getD .empty).restarts.lookup unit = some n ↔
      EverSince (Check.Wrote fun r => r.restarts.lookup unit = some n)
        Check.Leaves checks :=
  @fileAfter_iff checks (Option ℕ) (fun s => s.restarts.lookup unit) (some n)
    (by simp [HealthState.empty])

/-! ## What a run sends -/

/-- What a run that reads the machine sends, told from the runs before it: the
units whose counter went up since the file was written, then the problems that
were not in the file, each once and by key, then those that were in the file
and are no more, and last the alert of a write that failed, with its error. -/
theorem main_sends (checks : List Check) (c : Check) (h : c.readings = .ok r) :
    ∃ (restarted : List (String × ℕ × ℕ)) (appeared : List (String × Finding))
        (cleared : List String) (failed : List Alert),
      (c.main (fileAfter none checks)).1 =
        restarted.map r.restartAlert ++ appeared.map r.problemAlert ++
          cleared.map r.recoveredAlert ++ failed ∧
      (∀ unit n new, (unit, n, new) ∈ restarted ↔
        (unit, n) ∈ r.restarts ∧ ∃ before,
          EverSince (Check.Wrote fun r => r.restarts.lookup unit = some before)
            Check.Leaves checks ∧ before < n ∧ new = n - before) ∧
      (∀ key f, (key, f) ∈ appeared ↔ r.problems.lookup key = some f ∧
        ¬EverSince (Check.Wrote fun r => key ∈ r.problems.map Prod.fst)
          Check.Leaves checks) ∧
      (∀ key, key ∈ cleared ↔ key ∉ r.problems.map Prod.fst ∧
        EverSince (Check.Wrote fun r => key ∈ r.problems.map Prod.fst)
          Check.Leaves checks) ∧
      (restarted.map fun u => (u.1, u.2.1)).Sublist r.restarts ∧
      (appeared.Pairwise fun p q => p.1 < q.1) ∧
      cleared.Pairwise (· < ·) ∧
      (c.saved = .written → failed = []) ∧
      ∀ e, c.saved = .refused e ∨ c.saved = .cutShort e →
        failed = [c.failure e] := by
  let file := (fileAfter none checks).getD .empty
  obtain ⟨failed, hmain, hwritten, hfailed⟩ : ∃ failed,
      (c.main (fileAfter none checks)).1 = (r.evaluate file).1 ++ failed ∧
        (c.saved = .written → failed = []) ∧
        ∀ e, c.saved = .refused e ∨ c.saved = .cutShort e →
          failed = [c.failure e] := by
    unfold Check.main
    rw [h]
    cases hs : c.saved with
    | written => exact ⟨[], by simp [file], by simp, by simp⟩
    | refused e => exact ⟨[c.failure e], by simp [file], by simp, by simp⟩
    | cutShort e => exact ⟨[c.failure e], by simp [file], by simp, by simp⟩
  refine ⟨r.restarted file.restarts, r.appeared file.opened,
    r.cleared file.opened, failed, hmain, fun unit n new => ?_,
    fun key f => ?_, fun key => ?_, Readings.restarted_sublist,
    r.appeared_sorted, r.cleared_sorted, hwritten, hfailed⟩
  · simp only [Readings.mem_restarted, file, lookup_restarts_iff]
  · simp only [Readings.mem_appeared, file, mem_opened_iff]
  · simp only [Readings.mem_cleared, file, mem_opened_iff]

/-! ## A problem that is there has been announced -/

/-- The runs of the script, each with what it sent. -/
def sent (file : Option HealthState) : List Check → List (Check × List Alert)
  | [] => []
  | c :: rest => (c, (c.main file).1) :: sent (c.main file).2 rest

theorem sent_append {checks' : List Check} :
    sent file (checks ++ checks') =
      sent file checks ++ sent (fileAfter file checks) checks' := by
  induction checks generalizing file with
  | nil => rfl
  | cons c rest ih =>
      rw [List.cons_append, sent, sent, ih]
      rfl

/-- The run announced the problem, as it found it. -/
def Announces (key : String) (run : Check × List Alert) : Prop :=
  ∃ r f, run.1.readings = .ok r ∧ r.problems.lookup key = some f ∧
    alert run.1.now .critical key f ∈ run.2

/-- The run sent the alert of its own failure. -/
def Fails (run : Check × List Alert) : Prop :=
  ∃ e, run.1.failure e ∈ run.2

theorem readings_now (h : c.readings = .ok r) : r.now = c.now := by
  unfold Check.readings at h
  cases hm : c.machine with
  | error e =>
      rw [hm] at h
      cases h
  | ok m =>
      rw [hm] at h
      change (diskUsedPct m >>= _) = _ at h
      cases hd : diskUsedPct m with
      | error e =>
          rw [hd] at h
          cases h
      | ok pct =>
          rw [hd] at h
          cases h
          rfl

/-- A check that finds a problem announces it, if the file does not have it. -/
theorem announces_of_finds (hfinds : c.Finds key)
    (hnew : key ∉ (file.getD .empty).opened) :
    Announces key (c, (c.main file).1) := by
  obtain ⟨r, hr, hkey⟩ := hfinds
  obtain ⟨f, hf⟩ := Option.ne_none_iff_exists'.mp (mem_keys_iff.mp hkey)
  refine ⟨r, f, hr, hf, ?_⟩
  have hmem : alert c.now .critical key f ∈
      (r.evaluate (file.getD .empty)).1 := by
    rw [← readings_now hr]
    exact List.mem_append_left _ (List.mem_append_right _
      (List.mem_map.mpr ⟨_, Readings.mem_appeared.mpr ⟨hf, hnew⟩, rfl⟩))
  show _ ∈ (c.main file).1
  unfold Check.main
  rw [hr]
  cases c.saved with
  | written => exact hmem
  | refused e => exact List.mem_append_left _ hmem
  | cutShort e => exact List.mem_append_left _ hmem

/-- A check that leaves the file says why. -/
theorem fails_of_leaves (h : c.Leaves) : Fails (c, (c.main file).1) := by
  unfold Fails Check.main
  cases hr : c.readings with
  | error e => exact ⟨e, List.mem_singleton_self _⟩
  | ok r =>
      obtain ⟨e, he⟩ := h r hr
      rw [he]
      exact ⟨e, List.mem_append_right _ (List.mem_singleton_self _)⟩

/-- What the file has was announced, and has been found since. -/
theorem opened_announced (h : key ∈ ((fileAfter none checks).getD
    .empty).opened) :
    EverSince (Announces key) (fun run => run.1.Finds key ∨ Fails run)
      (sent none checks) := by
  induction checks using List.reverseRecOn with
  | nil => cases h
  | append_singleton checks c ih =>
      rw [sent_append, show sent (fileAfter none checks) [c] =
        [(c, (c.main (fileAfter none checks)).1)] from rfl,
        everSince_append_singleton]
      rw [mem_opened_iff, everSince_append_singleton, ← mem_opened_iff] at h
      rcases h with ⟨r, hr, _, hkey⟩ | ⟨hold, hleaves⟩
      · by_cases hold : key ∈ ((fileAfter none checks).getD .empty).opened
        · exact Or.inr ⟨ih hold, Or.inl ⟨r, hr, hkey⟩⟩
        · exact Or.inl (announces_of_finds ⟨r, hr, hkey⟩ hold)
      · exact Or.inr ⟨ih hold, Or.inr (fails_of_leaves hleaves)⟩

/-- A problem found by the last run has been announced, and every run since
then has found it or sent the alert of its own failure. -/
theorem problem_announced (checks : List Check) (c : Check)
    (h : c.Finds key) :
    EverSince (Announces key) (fun run => run.1.Finds key ∨ Fails run)
      (sent none (checks ++ [c])) := by
  rw [sent_append, show sent (fileAfter none checks) [c] =
    [(c, (c.main (fileAfter none checks)).1)] from rfl,
    everSince_append_singleton]
  by_cases hold : key ∈ ((fileAfter none checks).getD .empty).opened
  · exact Or.inr ⟨opened_announced hold, Or.inl h⟩
  · exact Or.inl (announces_of_finds h hold)

/-! ## A disk that fills up -/

/-- A machine on which everything runs, its disk used up to some blocks of a
hundred. -/
def diskUsed (used : ℕ) : Machine where
  used := used
  free := 100 - used
  lastTick := fun _ => none
  unitProps := fun _ => ⟨some "active", some 0, some "success"⟩

def diskCheck (now : DateTime) (used : ℕ) (saved : Saved) : Check :=
  ⟨now, [], 95, 300, .ok (diskUsed used), saved⟩

/-- The disk that is too full to write the file. -/
def fullDisk : Check :=
  diskCheck (5 * minute) 96 (.cutShort "OSError(28, 'No space left on device')")

theorem fullDisk_finds : (diskCheck (10 * minute) 97 .written).Finds
    "disk_full" := by
  refine ⟨_, rfl, ?_⟩
  decide +kernel

/-- The full disk has been announced. -/
theorem problem_announced_fullDisk :
    EverSince (Announces "disk_full")
      (fun run => run.1.Finds "disk_full" ∨ Fails run)
      (sent none ([diskCheck 0 50 .written, fullDisk] ++
        [diskCheck (10 * minute) 97 .written])) :=
  problem_announced _ _ fullDisk_finds

/-- The write that failed lost the file, so the disk is announced once more. -/
theorem main_sends_fullDisk :
    ∃ f, alert (10 * minute) .critical "disk_full" f ∈
      ((diskCheck (10 * minute) 97 .written).main
        (fileAfter none [diskCheck 0 50 .written, fullDisk])).1 := by
  obtain ⟨r, hr, hkey⟩ := fullDisk_finds
  obtain ⟨f, hf⟩ := Option.ne_none_iff_exists'.mp (mem_keys_iff.mp hkey)
  obtain ⟨restarted, appeared, cleared, failed, hmain, _, hmem, _⟩ :=
    main_sends [diskCheck 0 50 .written, fullDisk] _ hr
  have hlost : "disk_full" ∉ ((fileAfter none
      [diskCheck 0 50 .written, fullDisk]).getD .empty).opened := by
    decide +kernel
  have hnew := (hmem "disk_full" f).mpr ⟨hf, mt mem_opened_iff.mpr hlost⟩
  refine ⟨f, ?_⟩
  rw [hmain, ← show r.now = 10 * minute from readings_now hr]
  exact List.mem_append_left _ (List.mem_append_left _
    (List.mem_append_right _ (List.mem_map.mpr ⟨_, hnew, rfl⟩)))

end Health

end Polyperps
