import Polyperps.Execution.LiveExecutor
import Polyperps.Proofs.SignalGate

/-!
# When a live order passes a closed lock

The gate reads the modes and the variable at every submit, but of the third
lock only the constant the process computed at import. So every order handed
over is under open locks exactly if no order is submitted while the first two
are open, the constant says validated and the files no longer do.
-/

namespace Polyperps

/-- All three locks of an instrument are open as they are now. -/
structure Locks.Open (py : Text) (locks : Locks) (iid : InstrumentId) :
    Prop where
  auto : locks.mode iid = .auto
  live : locks.env = some "true"
  validated : locks.validated py = true

/-- A submit that relies on an approval that is no longer there. -/
structure Stale (py : Text) (signalValidated : Bool) (locks : Locks)
    (iid : InstrumentId) : Prop where
  auto : locks.mode iid = .auto
  live : locks.env = some "true"
  imported : signalValidated = true
  revoked : locks.validated py = false

namespace LiveProcess

variable {py : Text} {p : LiveProcess}

theorem allowed_iff {iid : InstrumentId} {locks : Locks}
    {signalValidated : Bool} :
    (liveOrdersAllowed iid locks signalValidated).allowed = true ↔
      locks.mode iid = .auto ∧ locks.env = some "true" ∧
        signalValidated = true := by
  unfold liveOrdersAllowed
  split
  · next h => simp [h]
  · next h =>
      split
      · next h' => simp [h']
      · next h' =>
          split <;> simp_all

/-- The orders a run hands over are the submits the gate allows. -/
theorem run_handed (steps : List LiveStep) :
    (p.run steps).handed = p.handed ++
      ((submits p.locks steps).filter fun x =>
        (liveOrdersAllowed x.1.instrumentId x.2 p.signalValidated).allowed).map
          fun x => (x.1.sdk, x.2) := by
  induction steps generalizing p with
  | nil => simp [run, submits]
  | cons s rest ih =>
      have hrun : p.run (s :: rest) = (p.step s).run rest := rfl
      rw [hrun, ih]
      cases s with
      | change locks => rfl
      | submit order placement ts =>
          simp only [step, LiveExecutor.submit, submits]
          cases hd : (liveOrdersAllowed order.instrumentId p.locks
              p.signalValidated).allowed with
          | false => simp [hd]
          | true => simp [hd]

/-- In every run of a process with a live executor, every order handed to the
SDK is under three locks that are open at that moment if and only if no order
is submitted in it while the mode is AUTO, the variable is `true` and the
imported constant is `True`, and `load_validated` is not on the files as they
are. -/
theorem handed_open_iff {atImport atStart : Locks} {ids : List InstrumentId}
    (hstart : start py atImport atStart ids = .ok p)
    (steps : List LiveStep) :
    (∀ x ∈ (p.run steps).handed, x.2.Open py x.1.instrumentId) ↔
      ∀ x ∈ submits atStart steps,
        ¬Stale py (atImport.validated py) x.2 x.1.instrumentId := by
  have hp : p = ⟨atImport.validated py, atStart, []⟩ := by
    simp only [start] at hstart
    cases hc : LiveExecutor.construct (atImport.validated py) atStart ids with
    | error e =>
        rw [hc] at hstart
        cases hstart
    | ok u =>
        rw [hc] at hstart
        cases hstart
        rfl
  subst hp
  rw [run_handed, List.nil_append]
  constructor
  · intro h x hx hstale
    have hallowed := allowed_iff.mpr
      ⟨hstale.auto, hstale.live, hstale.imported⟩
    have hopen := h (x.1.sdk, x.2) (List.mem_map.mpr
      ⟨x, List.mem_filter.mpr ⟨hx, hallowed⟩, rfl⟩)
    have hvalid : x.2.validated py = true := hopen.validated
    rw [hstale.revoked] at hvalid
    cases hvalid
  · intro h y hy
    obtain ⟨x, hx, rfl⟩ := List.mem_map.mp hy
    obtain ⟨hmem, hallowed⟩ := List.mem_filter.mp hx
    obtain ⟨hauto, hlive, himported⟩ := allowed_iff.mp hallowed
    refine ⟨hauto, hlive, ?_⟩
    cases hv : x.2.validated py with
    | true => rfl
    | false => exact absurd ⟨hauto, hlive, himported, hv⟩ (h x hmem)

/-! ## A failure appended while the process runs -/

open SignalBase

/-- Open locks over an approved run, and the same with a log to which a
failing record of a later window has been appended. -/
def openLocks (log : List Record) : Locks :=
  ⟨some "true", [(6, .auto)], approval, .ok log⟩

def sampleOrder : OrderRequest := ⟨"r-6-1", 6, .buy, 1, false, 0⟩

theorem openLocks_start :
    start sampleText (openLocks [earlyPass]) (openLocks [earlyPass]) [6] =
      .ok ⟨true, openLocks [earlyPass], []⟩ := by
  have hvalid : (openLocks [earlyPass]).validated sampleText = true := by
    decide +kernel
  unfold start
  rw [hvalid]
  rfl

/-- An order under the untouched files passes under open locks. -/
theorem handed_open_iff_untouched :
    (∀ x ∈ (run ⟨true, openLocks [earlyPass], []⟩
        [.submit sampleOrder (.placed (some "1") (some "filled")) 0]).handed,
          x.2.Open sampleText x.1.instrumentId) ↔
      ∀ x ∈ submits (openLocks [earlyPass])
          [.submit sampleOrder (.placed (some "1") (some "filled")) 0],
        ¬Stale sampleText ((openLocks [earlyPass]).validated sampleText) x.2
          x.1.instrumentId :=
  handed_open_iff openLocks_start _

/-- After the failing record the next order still reaches the SDK. -/
theorem revoked_order_placed :
    ¬∀ (py : Text) (atImport atStart : Locks) (ids : List InstrumentId)
      (p : LiveProcess) (steps : List LiveStep),
      start py atImport atStart ids = .ok p →
      ∀ x ∈ (p.run steps).handed, x.2.Open py x.1.instrumentId := by
  intro h
  have hopen := h sampleText _ _ [6] _
    [.change (openLocks [earlyPass, midFailure]),
      .submit sampleOrder (.placed (some "1") (some "filled")) 0]
    openLocks_start (sampleOrder.sdk, openLocks [earlyPass, midFailure])
    (by simp [run, step, LiveExecutor.submit, liveOrdersAllowed, openLocks,
      sampleOrder, Locks.mode])
  have hclosed : (openLocks [earlyPass, midFailure]).validated sampleText =
      false := by
    decide +kernel
  have hvalid := hopen.validated
  simp only [hclosed] at hvalid
  cases hvalid

end LiveProcess

end Polyperps
