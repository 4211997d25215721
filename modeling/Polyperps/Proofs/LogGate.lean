import Polyperps.Proofs.SignalGate
import Polyperps.Signal.ValidationLog

/-!
# The gate and the log it reads

`scripts/run_backtest.py` writes a record, `signal/base.py` reads it and makes
the checks again. The two agree: of a run's record the gate accepts just those
that passed, so on a log of runs it opens exactly for an approved run that
passed, when no later window of the same hypothesis and instrument failed.
-/

namespace Polyperps

open SignalBase

variable {py : Text} {pr : Printer} {run later : RunOutcome}
  {runs : List RunOutcome} {runId : String} {file : ApprovalFile}

/-- What the script writes is read back as it was: an instant from its text,
and a name in lower case from itself. -/
structure ReadsBack (py : Text) (pr : Printer) (run : RunOutcome) :
    Prop where
  now : py.fromisoformat (pr.isoformat run.now) = some run.now
  stop : py.fromisoformat (pr.isoformat run.stop) = some run.stop
  hypothesis : py.lower run.hypothesis.value = run.hypothesis.value
  source : py.lower run.source.value = run.source.value

theorem SourceType.value_native (s : SourceType) :
    s.value ∈ nativeValues ↔ s.native = true := by
  cases s <;> decide

theorem Hypothesis.value_injective {h h' : Hypothesis}
    (heq : h.value = h'.value) : h = h' := by
  revert heq
  cases h <;> cases h' <;> decide

/-- A run that passed met every condition by itself. -/
theorem RunOutcome.passed_iff : run.verdict.2 = true ↔
    (∃ lo hi, run.holdout.ci = some (.ok (lo, hi)) ∧
      statsClearBar run.holdout.sharpe lo = true) ∧
    run.source.native = true ∧ run.sufficiency.met = true ∧
    run.holdout.fillsAtHourlyOpen = 0 ∧ 60 ≤ run.testedDays ∧
    run.robustScreened = true := by
  unfold RunOutcome.verdict evaluateRun RunStats.ciLo RunStats.ciHi
  cases hci : run.holdout.ci with
  | none => simp
  | some ci =>
      cases ci with
      | error note => simp
      | ok ci =>
          obtain ⟨lo, hi⟩ := ci
          simp only [Bool.and_eq_true, decide_eq_true_eq, and_assoc,
            Option.some.injEq, Except.ok.injEq, Prod.mk.injEq]
          constructor
          · rintro ⟨hstats, hrest⟩
            exact ⟨⟨lo, hi, rfl, rfl, hstats⟩, hrest⟩
          · rintro ⟨⟨lo', hi', rfl, rfl, hstats⟩, hrest⟩
            exact ⟨hstats, hrest⟩

/-- The gate accepts the record of a run just when the run passed. -/
theorem recordPasses_record (h : ReadsBack py pr run) (runId : String) :
    recordPasses py (run.record pr) runId =
      .ok (decide (run.runId pr = runId) && run.verdict.2) := by
  have hid : (run.record pr).get "run_id" = .str (run.runId pr) := rfl
  have hpassed : (run.record pr).get "passed" = .bool run.verdict.2 := rfl
  have hversion : (run.record pr).get "harness_version" =
      .int harnessVersion := rfl
  have hsource : (run.record pr).get "source_type" =
      .str run.source.value := rfl
  unfold recordPasses
  rw [hid, hpassed, hversion, hsource]
  by_cases hrun : run.runId pr = runId
  swap
  · rw [if_pos (by simp [Json.isText, hrun]), decide_eq_false hrun]
    rfl
  cases hverdict : run.verdict.2 with
  | false =>
      rw [if_pos (by simp [Json.isTrue])]
      simp
  | true =>
      obtain ⟨_, hnative, hmet, hfills, _, hrobust⟩ :=
        RunOutcome.passed_iff.mp hverdict
      rw [if_neg (by simp [Json.isText, Json.isTrue, hrun]),
        if_neg (by simp [Json.isInt])]
      -- the checks made again from the record
      have hclears : recordClears py (run.record pr) = true := by
        have hsuff : (run.record pr).get "sufficiency" = .obj
            [("met", .bool run.sufficiency.met),
              ("shortfall", .obj (run.sufficiency.shortfall.map fun kv =>
                (kv.1, .str kv.2)))] := rfl
        have hrob : (run.record pr).get "robust_screened" =
            .bool run.robustScreened := rfl
        have hend : (run.record pr).get "end" =
            .str (pr.isoformat run.stop) := rfl
        have hts : (run.record pr).get "ts" =
            .str (pr.isoformat run.now) := rfl
        have hhyp : (run.record pr).get "hypothesis" =
            .str run.hypothesis.value := rfl
        have hinst : (run.record pr).get "instrument_id" =
            .int run.instrument := rfl
        have hhold : (run.record pr).get "holdout" = run.holdout.json pr := rfl
        have hfill : ∀ fields, run.holdout.json pr = .obj fields →
            Record.get fields "fills_at_hourly_open" =
              .int run.holdout.fillsAtHourlyOpen := by
          intro fields hf
          rw [← Json.obj.inj hf]
          rfl
        have hbefore : run.stop ≤ run.now := min_le_right _ _
        unfold recordClears
        rw [hsuff, hrob, hend, hts, hhyp, hinst, hhold]
        cases hjson : run.holdout.json pr with
        | obj fields =>
            simp only [hfill fields hjson, hfills, aware, h.stop, h.now,
              hbefore, hrobust, hmet]
            rfl
        | null => cases hjson
        | bool b => cases hjson
        | int n => cases hjson
        | float t => cases hjson
        | str t => cases hjson
        | arr l => cases hjson
      have hmem := (SourceType.value_native run.source).mpr hnative
      simp [hmem, hclears, hrun]

/-- One record revokes another's approval just when its run is a native one of
the same hypothesis and instrument, on a later window, that did not pass. -/
theorem revokes_record (h : ReadsBack py pr run) (hl : ReadsBack py pr later) :
    revokes py (later.record pr) (run.record pr) = true ↔
      later.hypothesis = run.hypothesis ∧ later.instrument = run.instrument ∧
        later.source.native = true ∧ later.verdict.2 = false ∧
          run.stop < later.stop := by
  have hend : ∀ r : RunOutcome, (r.record pr).get "end" =
      .str (pr.isoformat r.stop) := fun _ => rfl
  have hhyp : ∀ r : RunOutcome, (r.record pr).get "hypothesis" =
      .str r.hypothesis.value := fun _ => rfl
  have hinst : ∀ r : RunOutcome, (r.record pr).get "instrument_id" =
      .int r.instrument := fun _ => rfl
  have hversion : (later.record pr).get "harness_version" =
      .int harnessVersion := rfl
  have hsource : (later.record pr).get "source_type" =
      .str later.source.value := rfl
  have hpassed : (later.record pr).get "passed" = .bool later.verdict.2 := rfl
  have hwindow : laterWindow py (later.record pr) (run.record pr) =
      decide (run.stop < later.stop) := by
    unfold laterWindow
    rw [hend, hend]
    simp only [aware, h.stop, hl.stop]
  have hsubject : sameSubject py (later.record pr) (run.record pr) = true ↔
      later.hypothesis = run.hypothesis ∧ later.instrument = run.instrument ∧
        later.source.native = true := by
    unfold sameSubject textOf
    rw [hhyp, hhyp, hinst, hinst, hversion, hsource]
    simp only [Json.text, h.hypothesis, hl.hypothesis, hl.source,
      Bool.and_eq_true, decide_eq_true_eq, SourceType.value_native, and_true]
    constructor
    · rintro ⟨⟨hh, hi⟩, hs⟩
      exact ⟨Hypothesis.value_injective hh,
        Int.repr_inj.mp (of_decide_eq_true hi), hs⟩
    · rintro ⟨hh, hi, hs⟩
      exact ⟨⟨congrArg _ hh, decide_eq_true (congrArg _ hi)⟩, hs⟩
  unfold revokes
  rw [Bool.and_eq_true, Bool.and_eq_true, hsubject, hwindow, hpassed,
    decide_eq_true_eq]
  cases later.verdict.2 <;> simp [Json.isTrue, and_assoc]

/-- On a log of runs the gate opens exactly when the approved one is there,
passed, and no native run of its hypothesis and instrument failed on a later
window. -/
theorem loadValidated_runs (hfile : approvedRun py file = some runId)
    (hread : ∀ run ∈ runs, ReadsBack py pr run)
    (hids : (runs.map (·.runId pr)).Nodup) :
    loadValidated py file (.ok (runs.map (·.record pr))) = true ↔
      ∃ run ∈ runs, run.runId pr = runId ∧ run.verdict.2 = true ∧
        ∀ later ∈ runs, later.hypothesis = run.hypothesis →
          later.instrument = run.instrument → later.source.native = true →
            run.stop < later.stop → later.verdict.2 = true := by
  have hsettles : ∀ run ∈ runs, settles py runId (run.record pr) =
      (decide (run.runId pr = runId) && run.verdict.2) := by
    intro run hrun
    rw [settles, recordPasses_record (hread run hrun)]
    cases decide (run.runId pr = runId) && run.verdict.2 <;> rfl
  rw [loadValidated_eq hfile, List.find?_map]
  cases hfind : runs.find? (settles py runId ∘ (·.record pr)) with
  | none =>
      refine iff_of_false (by simp) ?_
      rintro ⟨run, hrun, hid, hpassed, _⟩
      have hnone := List.find?_eq_none.mp hfind run hrun
      rw [Function.comp_apply, hsettles run hrun, decide_eq_true hid,
        hpassed] at hnone
      exact hnone rfl
  | some run =>
      have hrun := List.mem_of_find?_eq_some hfind
      have hset := List.find?_some hfind
      rw [Function.comp_apply, hsettles run hrun, Bool.and_eq_true,
        decide_eq_true_eq] at hset
      obtain ⟨hid, hpassed⟩ := hset
      have hverdict : SignalBase.verdict py runId (runs.map (·.record pr))
          (run.record pr) = true ↔ ∀ later ∈ runs,
            later.hypothesis = run.hypothesis →
            later.instrument = run.instrument → later.source.native = true →
              run.stop < later.stop → later.verdict.2 = true := by
        rw [SignalBase.verdict, recordPasses_record (hread run hrun),
          decide_eq_true hid, hpassed]
        simp only [Bool.and_self, Bool.not_eq_true', List.any_eq_false,
          List.mem_map, forall_exists_index, and_imp,
          forall_apply_eq_imp_iff₂]
        refine forall₂_congr fun later hlater => ?_
        rw [revokes_record (hread run hrun) (hread later hlater)]
        cases later.verdict.2 <;> simp
      simp only [Option.map_some, Option.getD_some]
      rw [hverdict]
      refine ⟨fun h => ⟨run, hrun, hid, hpassed, h⟩, ?_⟩
      rintro ⟨run', hrun', hid', _, h⟩
      -- there is one run of an id
      rw [List.inj_on_of_nodup_map hids hrun hrun' (hid.trans hid'.symm)]
      exact h

/-- An hourly bar of the witness below. -/
def auditedBar (openTs : DateTime) : Bar where
  instrumentId := 6
  sourceType := .polymarketRest
  openTs := openTs
  openPrice := some 100
  high := some 100
  low := some 100
  close := some 100
  indexClose := none
  fundingRate := none
  spreadBps := 5
  spreadSource := .constant
  complete := true

/-- Statistics that clear the bar. -/
def auditedStats : RunStats where
  sharpe := 2
  maxDd := 1
  hitRate := 1 / 2
  turnover := 10
  n := 400
  fills := 10
  fillsUnavailable := 0
  fillsAtHourlyOpen := 0
  fillsAtLastTrade := 0
  maxLastTradeAgeMin := 0
  barsConstantSpread := 0
  finalEquity := 3
  ci := some (.ok (1 / 1000, 2 / 1000))

/-- A run that passed, made at the end of its window. -/
def auditedRun : RunOutcome where
  now := 70 * day
  endArg := none
  hypothesis := .h6
  instrument := 6
  source := .polymarketRest
  feeCategory := "equity"
  takerFeeRate := 4 / 10000
  feeFetchedAt := 0
  seed := 42
  paramsChosen := .obj [("entry_bps_h", .str "0.5"), ("smooth_hours", .int 1)]
  gridTried := []
  bars := [auditedBar 0, auditedBar (65 * day)]
  bars_ne := by simp
  holdoutBars := 457
  train := auditedStats
  holdout := auditedStats
  robust := auditedStats
  sufficiency := ⟨true, 65, 1496, .polymarketRest, []⟩

/-- The same seventy days later, with a holdout that lost. -/
def revokingRun : RunOutcome where
  now := 140 * day
  endArg := none
  hypothesis := .h6
  instrument := 6
  source := .polymarketRest
  feeCategory := "equity"
  takerFeeRate := 4 / 10000
  feeFetchedAt := 0
  seed := 42
  paramsChosen := .obj [("entry_bps_h", .str "0.5"), ("smooth_hours", .int 1)]
  gridTried := []
  bars := [auditedBar (70 * day), auditedBar (135 * day)]
  bars_ne := by simp
  holdoutBars := 457
  train := auditedStats
  holdout := { auditedStats with
    sharpe := -1, ci := some (.ok (-2 / 1000, -1 / 1000)) }
  robust := auditedStats
  sufficiency := ⟨true, 135, 3000, .polymarketRest, []⟩

/-- Python's writing and reading, at the values that occur there. -/
def auditedPrinter : Printer where
  decimalText := Decimal.str
  floatText := toString
  isoformat := fun t =>
    if t = 70 * day then "1970-03-12T00:00:00+00:00"
    else if t = 140 * day then "1970-05-21T00:00:00+00:00" else ""
  stamp := fun t =>
    if t = 70 * day then "19700312T000000000000" else "19700521T000000000000"

def auditedText : Text where
  lower := String.toLower
  strip := id
  repr := fun _ => ""
  fromisoformat := fun s =>
    if s = "1970-03-12T00:00:00+00:00" then some (70 * day)
    else if s = "1970-05-21T00:00:00+00:00" then some (140 * day) else none

/-- The approval of the first. -/
def auditedFile : ApprovalFile :=
  .content (.obj
    [("run_id", .str "19700312T000000000000-h6-6-polymarket_rest"),
      ("approved_by", .str "operator"), ("approved_at", .str "1970-03-13")])

theorem readsBack_audited : ∀ run ∈ [auditedRun, revokingRun],
    ReadsBack auditedText auditedPrinter run := by
  simp only [List.forall_mem_cons, List.not_mem_nil, false_imp_iff,
    implies_true, and_true]
  exact ⟨⟨by decide +kernel, by decide +kernel, by decide +kernel,
    by decide +kernel⟩, ⟨by decide +kernel, by decide +kernel,
    by decide +kernel, by decide +kernel⟩⟩

/-- That run's record opens the gate, until a later run of the hypothesis on
the instrument fails. -/
theorem loadValidated_runs_audited :
    loadValidated auditedText auditedFile
        (.ok ([auditedRun].map (·.record auditedPrinter))) = true ∧
      loadValidated auditedText auditedFile
        (.ok ([auditedRun, revokingRun].map (·.record auditedPrinter))) =
          false := by
  have hfile : approvedRun auditedText auditedFile =
      some "19700312T000000000000-h6-6-polymarket_rest" := by decide +kernel
  constructor
  · refine (loadValidated_runs hfile (fun run hrun =>
      readsBack_audited run (List.mem_cons.mpr (Or.inl (List.mem_singleton.mp hrun))))
      (List.nodup_singleton _)).mpr ⟨auditedRun, List.mem_singleton_self _,
        by decide +kernel, by decide +kernel, fun later hlater _ _ _ hlt => ?_⟩
    rw [List.mem_singleton.mp hlater] at hlt
    exact absurd hlt (lt_irrefl _)
  · rw [← Bool.not_eq_true, loadValidated_runs hfile readsBack_audited
      (by decide +kernel)]
    rintro ⟨run, hrun, hid, hpassed, hlater⟩
    -- the approved run is the first, and the second is later and failed
    have hfirst : run = auditedRun := by
      rcases List.mem_cons.mp hrun with h | h
      · exact h
      · rw [List.mem_singleton.mp h] at hpassed
        exact absurd hpassed (by decide +kernel)
    rw [hfirst] at hlater
    exact absurd (hlater revokingRun (by simp) rfl rfl rfl (by decide +kernel))
      (by decide +kernel)

end Polyperps
