import Polyperps.Signal.Base

/-!
# What opens the validation gate

The gate is a selection and a check: the first record that settles the search,
because it passes for the approved run or because asking raises, and then all
records against the one selected. `loadValidated_eq` says so, and what follows
are two consequences. The order of the log matters only where two records
settle the search with different verdicts. A record that did not pass never
settles it, so it can only close the gate.
-/

namespace Polyperps

namespace SignalBase

variable {py : Text} {file : ApprovalFile} {runId : String}
  {records records' : List Record} {r : Record}

/-- The search for the approved record ends at this one. -/
def settles (py : Text) (runId : String) (r : Record) : Bool :=
  match recordPasses py r runId with
  | .ok false => false
  | _ => true

/-- What the gate says where this record ends the search. -/
def verdict (py : Text) (runId : String) (records : List Record) (r : Record) :
    Bool :=
  match recordPasses py r runId with
  | .ok true => !(records.any fun r' => revokes py r' r)
  | _ => false

theorem firstPassing_eq (runId : String) (records : List Record) :
    firstPassing py runId records =
      match records.find? (settles py runId) with
      | none => .ok none
      | some r => (recordPasses py r runId).map fun _ => some r := by
  induction records with
  | nil => rfl
  | cons x rest ih =>
      rw [firstPassing, List.find?_cons]
      cases hx : recordPasses py x runId with
      | error e =>
          have hs : settles py runId x = true := by rw [settles, hx]
          rw [hs]
          simp only [hx]
          rfl
      | ok passes =>
          cases passes with
          | true =>
              have hs : settles py runId x = true := by rw [settles, hx]
              rw [hs]
              simp only [hx]
              rfl
          | false =>
              have hs : settles py runId x = false := by rw [settles, hx]
              rw [hs]
              exact ih

/-- The gate is the verdict of the record that ends the search. -/
theorem loadValidated_eq (hrun : approvedRun py file = some runId)
    (records : List Record) :
    loadValidated py file (.ok records) =
      ((records.find? (settles py runId)).map
        (verdict py runId records)).getD false := by
  simp only [loadValidated, tryValidated, hrun, bind, Except.bind,
    firstPassing_eq]
  cases hfind : records.find? (settles py runId) with
  | none => rfl
  | some r =>
      simp only [Option.map_some, Option.getD_some, verdict]
      have hs := List.find?_some hfind
      rw [settles] at hs
      cases hr : recordPasses py r runId with
      | error e => rfl
      | ok passes =>
          rw [hr] at hs
          cases passes with
          | true => rfl
          | false => cases hs

theorem loadValidated_none (hrun : approvedRun py file = none)
    (log : Except Exc (List Record)) : loadValidated py file log = false := by
  simp only [loadValidated, tryValidated, hrun]

/-! ## The order of the log -/

theorem verdict_perm (h : records'.Perm records) (r : Record) :
    verdict py runId records' r = verdict py runId records r := by
  unfold verdict
  have hany : (records'.any fun r' => revokes py r' r) =
      records.any fun r' => revokes py r' r := by
    rw [Bool.eq_iff_iff, List.any_eq_true, List.any_eq_true]
    simp only [h.mem_iff]
  rw [hany]

/-- **The order of the log matters only where two records end the search with
different verdicts.** The gate says the same of every rearrangement of the
records exactly when any two records that pass for the approved run, or that
raise when asked, have one verdict: not revoked by any record, and for one
that raises, closed. -/
theorem loadValidated_perm (py : Text) (file : ApprovalFile)
    (records : List Record) :
    (∀ records', records'.Perm records →
      loadValidated py file (.ok records') =
        loadValidated py file (.ok records)) ↔
    ∀ runId, approvedRun py file = some runId →
      ∀ r ∈ records, ∀ r' ∈ records, settles py runId r = true →
        settles py runId r' = true →
          verdict py runId records r = verdict py runId records r' := by
  constructor
  · intro hsame runId hrun
    -- moved to the front, a record that ends the search decides
    have hfront : ∀ r ∈ records, settles py runId r = true →
        verdict py runId records r = loadValidated py file (.ok records) := by
      intro r hr hs
      obtain ⟨l₁, l₂, hl⟩ := List.append_of_mem hr
      have hperm : (r :: (l₁ ++ l₂)).Perm records := by
        rw [hl]
        exact List.perm_middle.symm
      rw [← hsame _ hperm, loadValidated_eq hrun,
        List.find?_cons_of_pos hs]
      exact (verdict_perm hperm r).symm
    intro r hr r' hr' hs hs'
    rw [hfront r hr hs, hfront r' hr' hs']
  · intro hsame records' hperm
    cases hrun : approvedRun py file with
    | none => rw [loadValidated_none hrun, loadValidated_none hrun]
    | some runId =>
        rw [loadValidated_eq hrun, loadValidated_eq hrun]
        cases hfind : records.find? (settles py runId) with
        | none =>
            have hnone : records'.find? (settles py runId) = none := by
              rw [List.find?_eq_none] at hfind ⊢
              exact fun r hr => hfind r (hperm.mem_iff.mp hr)
            rw [hnone]
            rfl
        | some r =>
            have hr := List.mem_of_find?_eq_some hfind
            have hs := List.find?_some hfind
            have hsome : (records'.find? (settles py runId)).isSome :=
              List.find?_isSome.mpr ⟨r, hperm.mem_iff.mpr hr, hs⟩
            obtain ⟨r', hfind'⟩ := Option.isSome_iff_exists.mp hsome
            have hr' := hperm.mem_iff.mp (List.mem_of_find?_eq_some hfind')
            rw [hfind', Option.map_some, Option.map_some, Option.getD_some,
              Option.getD_some, verdict_perm hperm]
            exact hsame runId hrun r' hr' r hr (List.find?_some hfind') hs

/-! Two records that pass for the approved run, of two windows, and a failure
between the windows: the record listed first is the one the failure is held
against. -/

section TwoPasses

/-- Python on the texts below. -/
def sampleText : Text where
  lower := String.toLower
  strip := fun s => s
  repr := fun _ => ""
  fromisoformat s :=
    [("2026-10-12T00:00:00+00:00", 1791763200000000),
      ("2026-11-12T00:00:00+00:00", 1794441600000000),
      ("2026-12-12T00:00:00+00:00", 1797033600000000)].lookup s

def approval : ApprovalFile :=
  .content (.obj [("run_id", .str "r1"), ("approved_by", .str "ops"),
    ("approved_at", .str "2026-12-12T00:00:00+00:00")])

/-- A native record of run `r1` on the window that ends then. -/
def recordOf (passed : Bool) (window : String) : Record :=
  [("run_id", .str "r1"), ("passed", .bool passed), ("harness_version", .int 4),
    ("source_type", .str "polymarket_rest"),
    ("sufficiency", .obj [("met", .bool true)]), ("robust_screened", .bool true),
    ("hypothesis", .str "h1"), ("instrument_id", .int 6), ("end", .str window),
    ("ts", .str "2026-12-12T00:00:00+00:00"),
    ("holdout", .obj [("fills_at_hourly_open", .int 0)])]

def earlyPass : Record := recordOf true "2026-10-12T00:00:00+00:00"

def midFailure : Record := recordOf false "2026-11-12T00:00:00+00:00"

def latePass : Record := recordOf true "2026-12-12T00:00:00+00:00"

theorem order_matters : ¬ ∀ (py : Text) (file : ApprovalFile)
    (records records' : List Record), records'.Perm records →
    loadValidated py file (.ok records') =
      loadValidated py file (.ok records) := by
  intro h
  have hswap := h sampleText approval [earlyPass, latePass, midFailure]
    [latePass, earlyPass, midFailure] (.swap _ _ _)
  revert hswap
  decide +kernel

end TwoPasses

/-! ## Failures -/

/-- A record that did not pass never ends the search. -/
theorem settles_of_not_passed (h : (r.get "passed").isTrue = false) :
    settles py runId r = false := by
  rw [settles, recordPasses, h]
  simp

/-- The record the gate selects from a log. -/
def selected (py : Text) (runId : String) (records : List Record) :
    Option Record :=
  (records.find? (settles py runId)).filter fun r =>
    (recordPasses py r runId).toOption = some true

/-- **Failures only close the live gate.** A record that did not pass, put
anywhere into a log, opens nothing that was closed. If it is a native record
at the current harness for the hypothesis and instrument of the record the
gate selects, on a window that is later or cannot be placed, the gate is
closed. -/
theorem failure_closes (py : Text) (file : ApprovalFile)
    (l₁ l₂ : List Record) (r : Record)
    (hfailed : r.get "passed" ≠ .bool true) :
    (loadValidated py file (.ok (l₁ ++ r :: l₂)) = true →
      loadValidated py file (.ok (l₁ ++ l₂)) = true) ∧
    ∀ runId approved, approvedRun py file = some runId →
      selected py runId (l₁ ++ l₂) = some approved →
      sameSubject py r approved = true → laterWindow py r approved = true →
      loadValidated py file (.ok (l₁ ++ r :: l₂)) = false := by
  have hno : (r.get "passed").isTrue = false := by
    cases h : r.get "passed" with
    | bool b =>
        cases b with
        | true => exact absurd h hfailed
        | false => rfl
    | _ => rfl
  have hfind : ∀ runId, (l₁ ++ r :: l₂).find? (settles py runId) =
      (l₁ ++ l₂).find? (settles py runId) := by
    intro runId
    rw [List.find?_append, List.find?_append,
      List.find?_cons_of_neg (by rw [settles_of_not_passed hno]; nofun)]
  constructor
  · intro hopen
    cases hrun : approvedRun py file with
    | none => rw [loadValidated_none hrun] at hopen; cases hopen
    | some runId =>
        rw [loadValidated_eq hrun, hfind] at hopen
        rw [loadValidated_eq hrun]
        cases hsel : (l₁ ++ l₂).find? (settles py runId) with
        | none => rw [hsel] at hopen; cases hopen
        | some approved =>
            rw [hsel, Option.map_some, Option.getD_some, verdict] at hopen
            rw [Option.map_some, Option.getD_some, verdict]
            split at hopen
            · simp only [List.any_append, List.any_cons, Bool.not_eq_true',
                Bool.or_eq_false_iff] at hopen ⊢
              exact ⟨hopen.1, hopen.2.2⟩
            · cases hopen
  · intro runId approved hrun hsel hsubject hlater
    rw [selected, Option.filter_eq_some_iff] at hsel
    rw [loadValidated_eq hrun, hfind, hsel.1, Option.map_some,
      Option.getD_some, verdict]
    have hrev : revokes py r approved = true := by
      rw [revokes, hsubject, hlater, hno]
      rfl
    split
    · simp [hrev]
    · rfl

theorem failure_closes_earlyPass :
    loadValidated sampleText approval (.ok [earlyPass]) = true ∧
      loadValidated sampleText approval (.ok [earlyPass, midFailure]) =
        false := by
  refine ⟨by decide +kernel, ?_⟩
  have hfailed : midFailure.get "passed" ≠ .bool true := by
    have h : (midFailure.get "passed").isTrue = false := by decide +kernel
    intro heq
    rw [heq] at h
    cases h
  have hselected : selected sampleText "r1" ([earlyPass] ++ []) =
      some earlyPass := by
    have hsettles : settles sampleText "r1" earlyPass = true := by
      decide +kernel
    have hpasses : (recordPasses sampleText earlyPass "r1").toOption =
        some true := by decide +kernel
    rw [selected, List.append_nil, List.find?_cons_of_pos hsettles,
      Option.filter_some, if_pos (by simpa using hpasses)]
  exact (failure_closes sampleText approval [earlyPass] [] midFailure
    hfailed).2 "r1" earlyPass (by decide +kernel) hselected
    (by decide +kernel) (by decide +kernel)

end SignalBase

end Polyperps
