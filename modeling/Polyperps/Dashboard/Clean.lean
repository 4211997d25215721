import Polyperps.Storage.Db

/-!
# The dashboard's clean mark

`is_clean` of `dashboard/state.py`, which `road_to_live` shows: no router of
the run is halted or liquidated now, and no alert in the table of the run is
critical. The table need not have every alert that was emitted.
-/

namespace Polyperps

namespace Db

/-- `list_alerts`: ordered by time, insertion order among equals. -/
def listAlerts (runId : String) (db : Db) : List Alert :=
  ((db.alerts.filter fun x => x.1 = runId).map Prod.snd).insertionSort
    fun a b => a.ts ≤ b.ts

/-- `_halted`. -/
def halted (runId : String) (db : Db) : List InstrumentId :=
  (((db.getPositionsLocal runId).filter fun p => p.state.frozen).map
    PositionLocalRow.instrumentId).insertionSort (· ≤ ·)

/-- `is_clean`. -/
def isClean (runId : String) (db : Db) : Bool :=
  if db.halted runId ≠ [] then false
  else !(db.listAlerts runId).any fun a => a.level = .critical

/-- The database with a table of alerts of its own. -/
def withAlerts (db : Db) (table : List (String × Alert)) : Db :=
  { db with alerts := table }

/-- The table has every critical alert of the run that was emitted. -/
def TookCritical (runId : String) (db : Db) (table : List (String × Alert)) :
    Prop :=
  ∀ a, (runId, a) ∈ db.alerts → a.level = .critical → (runId, a) ∈ table

variable {db : Db} {runId : String}

theorem mem_listAlerts {a : Alert} :
    a ∈ db.listAlerts runId ↔ (runId, a) ∈ db.alerts := by
  unfold listAlerts
  rw [List.mem_insertionSort, List.mem_map]
  constructor
  · rintro ⟨x, hx, rfl⟩
    obtain ⟨hmem, hrun⟩ := List.mem_filter.mp hx
    rw [← of_decide_eq_true hrun]
    exact hmem
  · exact fun h => ⟨_, List.mem_filter.mpr ⟨h, decide_eq_true rfl⟩, rfl⟩

theorem isClean_iff :
    db.isClean runId = true ↔
      (∀ p ∈ db.getPositionsLocal runId, p.state.frozen = false) ∧
        ∀ a, (runId, a) ∈ db.alerts → a.level ≠ .critical := by
  have hhalted : db.halted runId = [] ↔
      ∀ p ∈ db.getPositionsLocal runId, p.state.frozen = false := by
    unfold halted
    rw [← List.length_eq_zero_iff, List.length_insertionSort, List.length_map,
      List.length_eq_zero_iff, List.filter_eq_nil_iff]
    simp
  unfold isClean
  split
  · next h =>
    refine iff_of_false (by simp) fun hclean => ?_
    exact h (hhalted.mpr hclean.1)
  · next h =>
    rw [← hhalted, Bool.not_eq_true', List.any_eq_false]
    simp only [not_not.mp h, true_and, mem_listAlerts, decide_eq_true_eq]

end Db

end Polyperps
