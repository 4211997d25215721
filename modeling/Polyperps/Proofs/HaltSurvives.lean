import Polyperps.Proofs.Frozen

/-!
# A halt outlives operations and crashes

Over whole runs of processes. Between two happenings a running portfolio is
`Running`: each router is what its row says. Every happening keeps that, so
what `Frozen` proves about one operation or one recovery adds up: a frozen row
is there until the operator clears it, its router is in the same state, and
what is submitted meanwhile reduces.

The exception is a process stop inside the shutdown of a halted router whose
instrument the venue still holds. The router is halted in memory then, but its
row says `EXIT_PENDING` from the announcement of the exit until the end of the
shutdown, and a process that starts from that row does not know of the halt.
-/

namespace Polyperps

open ProgramLogic

variable {V S : Type} {ex : Executor V} {runId : String} {iid : InstrumentId}

namespace Site

/-- A process that runs is what the rows say. -/
def Steady (runId : String) (s : Site V S) : Prop :=
  ∀ pf, s.process = some pf →
    Running runId { mem := pf, disk := s.disk, past := [] }

/-- The operator does not clear the instrument's halt. -/
def KeepsHalt (iid : InstrumentId) : Happening V S → Prop
  | .clearHalt j => j ≠ iid
  | _ => True

/-- The process is not stopped inside the shutdown of the instrument's halted
router while the venue shows a position of it. -/
def ShutdownWhole (ex : Executor V) (iid : InstrumentId) (s : Site V S) :
    Happening V S → Prop
  | .cut op => ∀ pf size, s.process = some pf →
      op.downs ex s.disk.venue iid (some size) → iid ∈ pf.ids →
      (pf.router iid).state = .halted → size = 0
  | _ => True

/-- Every operation runs to its end; a process is stopped between two, or
inside `recover`. -/
def Whole : Happening V S → Prop
  | .cut _ => False
  | _ => True

/-- The happening is an operation that shuts the instrument's router down. -/
def ShutsDown (ex : Executor V) (iid : InstrumentId) (s : Site V S)
    (h : Happening V S) : Prop :=
  ∃ op size, h = .perform op ∧ op.downs ex s.disk.venue iid size

variable {s s' : Site V S} {h : Happening V S} {ms : List (Durable V)}

theorem Running.past {w w' : World (Durable V) (Portfolio S)}
    (hw : Running runId w) (hmem : w'.mem = w.mem) (hdisk : w'.disk = w.disk) :
    Running runId w' := by
  refine ⟨by rw [hmem]; exact hw.pfRunId, by rw [hmem]; exact hw.ids, ?_⟩
  rw [hmem, hdisk]
  exact hw.router

/-- A recovery that returned leaves a running portfolio. -/
theorem Adopting.running {c : Recovery S} {db : Db}
    {w : World (Durable V) (Recovery S)} (hc : Started runId c)
    (hw : Adopting runId c db [] w) :
    Running runId { mem := w.mem.pf, disk := w.disk, past := [] } where
  pfRunId := hw.pfRunId
  ids := by rw [show w.mem.pf.ids = c.pf.ids from hw.ids]; exact hc.ids
  router := by
    intro j hj
    have hj' : j ∈ c.pf.ids := by rw [← hw.ids]; exact hj
    exact ⟨(hw.identity j).1, (hw.identity j).2, (hw.done j hj' nofun).1⟩

/-- A portfolio that starts comes from a recovery that returned. -/
theorem recovered_eq_some {d : Durable V} {c : Recovery S} {pf : Portfolio S}
    (h : recovered ex d c = some pf) :
    (recovering ex d c).1 = .ok () ∧ pf = (recovering ex d c).2.mem.pf := by
  unfold recovered at h
  split at h
  · next hok => exact ⟨hok, (Option.some.inj h).symm⟩
  · cases h

/-- Clearing a halt is one change of one router. -/
theorem clearing_change (ex : Executor V) (iid : InstrumentId)
    (d : Durable V) (pf : Portfolio S) :
    ∃ r, Change ex (fun _ _ => True) (seen ⟨pf, d, []⟩ iid) r ∧
      clearing ex d pf iid = putBack ⟨pf, d, []⟩ iid r :=
  ⟨_, .enter _ _ trivial, rfl⟩

/-- Every happening leaves what runs in step with its rows. -/
theorem Step.steady (hstep : Step ex runId s h ms s')
    (hs : Steady runId s) : Steady runId s' := by
  intro pf' hpf'
  cases hstep with
  | @start d c hc =>
      obtain ⟨hok, rfl⟩ := recovered_eq_some hpf'
      have hrec : Prog.wp (recover ex) (fun _ w' => Adopting runId c d.db [] w' ∧
          World.Along (Keeps (fun _ _ => True) runId 0) ⟨c, d, []⟩ w')
          (fun _ w' => World.Along (Keeps (fun _ _ => True) runId 0)
            ⟨c, d, []⟩ w') ⟨c, d, []⟩ := recovering_keeps hc
      exact Adopting.running hc (Prog.wp_returned hrec hok).1
  | startCut hc hcut => cases hpf'
  | @perform d pf op =>
      cases hpf'
      exact Running.past (Deeds.running (perform_deeds ex op _) (hs pf rfl))
        rfl rfl
  | cut hcut => cases hpf'
  | @clearHalt d pf j hid =>
      cases hpf'
      obtain ⟨r, hc, heq⟩ := clearing_change ex j d pf
      rw [heq]
      exact Running.past ((hs pf rfl).changed hid hc) rfl rfl
  | stop => cases hpf'
  | venue v =>
      have hr := hs pf' hpf'
      exact ⟨hr.pfRunId, hr.ids, hr.router⟩
  | strategies states =>
      cases hpf'
      have hr := hs _ rfl
      exact ⟨hr.pfRunId, hr.ids, hr.router⟩

/-- What a recovery writes, seen from the disk it started from. -/
theorem recovering_along {ok : State → Submission → Prop} {d : Durable V}
    {c : Recovery S} (hc : Started runId c) :
    World.Along (Keeps ok runId iid) ⟨c, d, []⟩ (recovering ex d c).2 :=
  Prog.wp_state.mp (Prog.wp_mono (recovering_keeps hc) (fun _ _ h => h.2)
    (fun _ _ h => h))

/-- Every disk a whole happening passes through has its frozen row kept by the
one it ends with, and what is submitted after it is a halted router's
shutdown reducing. -/
theorem Step.keeps_whole (hstep : Step ex runId s h ms s')
    (hs : Steady runId s) (hkeep : KeepsHalt iid h) (hwhole : Whole h) :
    ∀ d ∈ s.disk :: ms, Keeps (fun st x => st = .halted ∧
      x.request.reduceOnly = true ∧ ShutsDown ex iid s h) runId iid d
        s'.disk := by
  cases hstep with
  | @start d c hc =>
      exact (recovering_along hc).ends.all
  | @startCut d d' c ms hc hcut => exact (recovering_along hc).cut hcut
  | @perform d pf op =>
      have hends : World.Ends (Keeps (fun st x => st = .halted ∧
          x.request.reduceOnly = true ∧ ∃ size, op.downs ex d.venue iid size)
          runId iid) ⟨pf, d, []⟩ (operating ex d pf op) :=
        Deeds.ends (perform_deeds ex op ⟨pf, d, []⟩) (hs pf rfl)
      refine (hends.mono fun _ _ hk => hk.mono fun _ _ hx => ?_).all
      obtain ⟨hst, hred, size, hdown⟩ := hx
      exact ⟨hst, hred, op, size, rfl, hdown⟩
  | cut hcut => exact hwhole.elim
  | @clearHalt d pf j hid =>
      obtain ⟨r, hc, heq⟩ := clearing_change ex j d pf
      rw [heq]
      have hj : iid ≠ (pf.router j).instrumentId := by
        rw [((hs pf rfl).router j hid).2.1]
        exact fun heq => hkeep heq.symm
      exact World.Along.ends (w := seen ⟨pf, d, []⟩ j) (hc.along_other hj)
        |>.all
  | @stop d pf =>
      intro a ha
      rw [show a = d by simpa using ha]
      exact refl_of _ d
  | @venue s v =>
      intro a ha
      rcases List.mem_cons.mp ha with rfl | ha
      · exact .of_eq rfl rfl
      · rw [List.mem_singleton.mp ha]
        exact refl_of _ _
  | @strategies d pf states =>
      intro a ha
      rw [show a = d by simpa using ha]
      exact refl_of _ d

/-- Where no stop falls into the shutdown of a halted router, every disk a
happening passes through has its frozen row kept by the one it ends with. -/
theorem Step.keeps (hstep : Step ex runId s h ms s') (hs : Steady runId s)
    (hkeep : KeepsHalt iid h) (hwhole : ShutdownWhole ex iid s h) :
    ∀ d ∈ s.disk :: ms, Keeps (fun _ _ => True) runId iid d s'.disk := by
  by_cases hw : Whole h
  · intro d hd
    exact (hstep.keeps_whole hs hkeep hw d hd).mono fun _ _ _ => trivial
  cases hstep with
  | @cut d d' pf op ms hcut =>
      refine World.Along.cut (m := pf) ?_ hcut
      exact perform_along (hs pf rfl) fun size hsize hid hst =>
        hwhole pf size rfl hsize hid hst
  | _ => exact absurd trivial hw

/-! ## Runs -/

variable {may : Site V S → Happening V S → Prop} {s₀ t : Site V S}
  {ds es : List (Durable V)}

theorem Run.steady (hrun : Run ex runId may s₀ ds s)
    (h₀ : Steady runId s₀) : Steady runId s := by
  induction hrun with
  | here => exact h₀
  | next _ _ hstep ih => exact hstep.steady ih

theorem Run.start_mem (hrun : Run ex runId may s₀ ds s) : s₀.disk ∈ ds := by
  induction hrun with
  | here => simp
  | next _ _ _ ih => exact List.mem_append_left _ ih

theorem steady_of_none (h : s.process = none) : Steady runId s := by
  intro pf hpf
  rw [h] at hpf
  cases hpf

/-- A row that a step never takes back, no run takes back. -/
theorem Run.keeps {ok : State → Submission → Prop}
    (hrun : Run ex runId may s₀ ds s) (h₀ : Steady runId s₀)
    (hstep : ∀ {s s' : Site V S} {h : Happening V S} {ms : List (Durable V)},
      Steady runId s → may s h → Step ex runId s h ms s' →
      ∀ d ∈ s.disk :: ms, Keeps ok runId iid d s'.disk) :
    ∀ d ∈ ds, Keeps ok runId iid d s.disk := by
  induction hrun with
  | here =>
      intro d hd
      rw [List.mem_singleton.mp hd]
      exact refl_of _ _
  | next hrun hmay hs ih =>
      have hone := hstep (hrun.steady h₀) hmay hs
      intro d hd
      rcases List.mem_append.mp hd with hd | hd
      · exact trans_of _ (ih d hd) (hone _ (by simp))
      · exact hone d (by simp [hd])

/-- A running router's state is its row's. -/
theorem Steady.router_state (h : Steady runId s) {st : State}
    (hrow : s.disk.rowState runId iid = some st) {pf : Portfolio S}
    (hpf : s.process = some pf) (hid : iid ∈ pf.ids) :
    (pf.router iid).state = st := by
  have hlink := ((h pf hpf).router iid hid).2.2
  exact Option.some.inj (hlink.symm.trans hrow)

/-- **A halt survives every crash**, but one inside the shutdown of the
halted router while the venue shows a position. Once the row of an instrument
has been written `HALTED` or `LIQUIDATED` it is there in every later state,
and a router that any later process has for the instrument is in that state,
until the operator clears it. -/
theorem halt_survives {d : Durable V} {st : State} (h₀ : s₀.process = none)
    (hbefore : Run ex runId anything s₀ ds s)
    (hafter : Run ex runId
      (fun s h => KeepsHalt iid h ∧ ShutdownWhole ex iid s h) s es t)
    (hd : d ∈ es) (hst : d.rowState runId iid = some st)
    (hf : st.frozen = true) :
    t.disk.rowState runId iid = some st ∧
      ∀ pf, t.process = some pf → iid ∈ pf.ids →
        (pf.router iid).state = st := by
  have hs := hbefore.steady (steady_of_none h₀)
  have hrow := (hafter.keeps hs
    (fun hs hmay hstep => hstep.keeps hs hmay.1 hmay.2) d hd st hf hst).1
  exact ⟨hrow, fun pf hpf hid => (hafter.steady hs).router_state hrow hpf hid⟩

/-! ## A halt lost

A venue that holds one contract and accepts every order without executing it,
a database whose row of the instrument says `HALTED`, and the routers of a
process that has just started. -/

section Lost

/-- A strategy that wants nothing. -/
def idleStrategy : Strategy Unit where
  warmup := 0
  target s _ := (0, s)
  onFlatten := none
  onRecover := none

def oneContract : AccountSnapshot where
  equity := 1000
  positions :=
    [{ instrumentId := 1, size := 1, entryPrice := 100, notional := 100
       leverage := 1, liquidationPrice := none, unrealisedPnl := 0
       cumulativeFunding := 0 }]
  openOrders := []
  stops := [(1, 85)]
  inLiquidation := false
  ts := 0

def holding : Executor Unit where
  name := "live"
  submit req _ := (.ok ⟨req.clientOrderId, none, .accepted, "", 0⟩, ())
  cancel _ _ := (.ok (), ())
  placeStop _ _ _ := (.ok (), ())
  cancelStop _ _ := (.ok (), ())
  snapshot _ := (.ok oneContract, ())
  clock _ := 0

def haltedDisk : Durable Unit where
  db := { Db.empty with
    positionsLocal := [⟨"run", 1, .halted, 1, some 100, some 85, 0, 0⟩] }
  venue := ()
  submitted := []
  refusedDecisions := []

def oneRouter : Recovery Unit where
  pf :=
    { runId := "run", startEquity := none, ids := [1]
      router := fun iid => InstrumentRouter.fresh "run" iid idleStrategy ()
        [] limitsDefault exposureDefault
      lastPnlLevel := none, fundingSeen := fun _ => none
      refusedReported := [] }
  rep := .empty

theorem oneRouter_started : Started "run" oneRouter :=
  ⟨rfl, by decide, fun _ => ⟨_, _, _, _, _, rfl⟩, rfl⟩

/-- A recovery that returned, as a step. -/
theorem Step.started {d : Durable V} {c : Recovery S}
    (hc : Started runId c) (hok : (recovering ex d c).1.toBool = true) :
    Step ex runId ⟨d, none⟩ (.start c) (recovering ex d c).2.moments
      ⟨(recovering ex d c).2.disk, some (recovering ex d c).2.mem.pf⟩ := by
  have h : recovered ex d c = some (recovering ex d c).2.mem.pf := by
    unfold recovered
    split
    · rfl
    · next he => rw [he] at hok; cases hok
  rw [← h]
  exact .start hc

/-- A stop at the `n`-th moment of an operation, as a step. -/
theorem Step.cutAt {d d' : Durable V} {pf : Portfolio S} {op : Portfolio.Op}
    {n : ℕ} (h : (operating ex d pf op).moments[n]? = some d') :
    Step ex runId ⟨d, some pf⟩ (.cut op)
      ((operating ex d pf op).moments.take n ++ [d']) ⟨d', none⟩ := by
  obtain ⟨hn, rfl⟩ := List.getElem?_eq_some_iff.mp h
  refine .cut ?_
  rw [List.take_append_getElem hn]
  exact List.take_prefix _ _

/-- The process that recovers from `haltedDisk`. -/
@[irreducible] def haltedProcess : World (Durable Unit) (Recovery Unit) :=
  (recovering holding haltedDisk oneRouter).2

/-- That process after a shutdown bar. -/
@[irreducible] def shutDown : World (Durable Unit) (Portfolio Unit) :=
  operating holding haltedProcess.disk haltedProcess.mem.pf
    (.onBar [] .shutdown)

/-- The disk once that bar has announced the exit. -/
@[irreducible] def exitAnnounced : Durable Unit :=
  shutDown.moments[4]?.getD haltedDisk

/-- A process that recovers from there. -/
@[irreducible] def restarted : World (Durable Unit) (Recovery Unit) :=
  (recovering holding exitAnnounced oneRouter).2

theorem haltedProcess_step : Step holding "run" ⟨haltedDisk, none⟩
    (.start oneRouter) haltedProcess.moments
    ⟨haltedProcess.disk, some haltedProcess.mem.pf⟩ := by
  rw [haltedProcess]
  exact .started oneRouter_started (by decide +kernel)

theorem shutDown_step : Step holding "run"
    ⟨haltedProcess.disk, some haltedProcess.mem.pf⟩
    (.perform (.onBar [] .shutdown)) shutDown.moments
    ⟨shutDown.disk, some shutDown.mem⟩ := by
  rw [shutDown]
  exact .perform

theorem exitAnnounced_step : Step holding "run"
    ⟨haltedProcess.disk, some haltedProcess.mem.pf⟩
    (.cut (.onBar [] .shutdown)) (shutDown.moments.take 4 ++ [exitAnnounced])
    ⟨exitAnnounced, none⟩ := by
  have hsome : (shutDown.moments[4]?).isSome = true := by decide +kernel
  obtain ⟨d, hd⟩ := Option.isSome_iff_exists.mp hsome
  rw [exitAnnounced, hd, Option.getD_some]
  rw [shutDown] at hd ⊢
  exact .cutAt hd

theorem restarted_step : Step holding "run" ⟨exitAnnounced, none⟩
    (.start oneRouter) restarted.moments
    ⟨restarted.disk, some restarted.mem.pf⟩ := by
  rw [restarted]
  exact .started oneRouter_started (by decide +kernel)

theorem haltedDisk_row : haltedDisk.rowState "run" 1 = some .halted := by
  decide +kernel

/-- The process is stopped once the exit is announced, and the next one starts
from a row that says `EXIT_PENDING`: its router is open. -/
theorem halt_lost : ¬ ∀ (s₀ s t : Site Unit Unit) (ds es : List (Durable Unit))
    (d : Durable Unit) (st : State) (pf : Portfolio Unit),
    s₀.process = none → Run holding "run" anything s₀ ds s →
    Run holding "run" (fun _ h => KeepsHalt 1 h) s es t → d ∈ es →
    d.rowState "run" 1 = some st → st.frozen = true →
    t.process = some pf → 1 ∈ pf.ids → (pf.router 1).state.frozen = true := by
  intro hall
  have hrun : Run holding "run" (fun _ h => KeepsHalt 1 h) ⟨haltedDisk, none⟩ _
      ⟨restarted.disk, some restarted.mem.pf⟩ :=
    .next (.next (.next .here (h := .start oneRouter) trivial
      haltedProcess_step) (h := .cut (.onBar [] .shutdown)) trivial
      exitAnnounced_step) (h := .start oneRouter) trivial restarted_step
  have hfrozen := hall ⟨haltedDisk, none⟩ ⟨haltedDisk, none⟩ _ _ _ haltedDisk
    .halted _ rfl .here hrun hrun.start_mem haltedDisk_row rfl rfl
    (by decide +kernel)
  have hopened : (restarted.mem.pf.router 1).state = .opened := by
    decide +kernel
  rw [hopened] at hfrozen
  cases hfrozen

theorem halt_survives_shutDown :
    shutDown.disk.rowState "run" 1 = some .halted ∧
      ∀ pf, some shutDown.mem = some pf → 1 ∈ pf.ids →
        (pf.router 1).state = .halted := by
  have hrun : Run holding "run"
      (fun s h => KeepsHalt 1 h ∧ ShutdownWhole holding 1 s h)
      ⟨haltedDisk, none⟩ _ ⟨shutDown.disk, some shutDown.mem⟩ :=
    .next (.next .here (h := .start oneRouter) ⟨trivial, trivial⟩
      haltedProcess_step) (h := .perform (.onBar [] .shutdown))
      ⟨trivial, trivial⟩ shutDown_step
  have h := halt_survives rfl .here hrun hrun.start_mem haltedDisk_row rfl
  exact h

end Lost

/-- What a happening submits for the instrument after `d` is the shutdown of a
halted router, and only reduces. -/
def OnlyReduces (ex : Executor V) (iid : InstrumentId) (st : State)
    (s : Site V S) (h : Happening V S) (d d' : Durable V) : Prop :=
  Since (fun x => x.request.instrumentId = iid → st = .halted ∧
    x.request.reduceOnly = true ∧ ShutsDown ex iid s h) d d'

/-- **A frozen instrument never opens exposure.** From a moment `d` of a
happening at which its row, and with it the router, is `HALTED` or
`LIQUIDATED`: the rest of the happening submits for it only what reduces, out
of the shutdown of a halted router. After every later happening the state is
the same, and the next one again submits only that, until the operator
clears the halt. -/
theorem frozen_never_opens {s₁ : Site V S} {d : Durable V} {st : State}
    (h₀ : s₀.process = none) (hbefore : Run ex runId anything s₀ ds s)
    (hstep : Step ex runId s h ms s₁) (hkeep : KeepsHalt iid h)
    (hwhole : Whole h) (hd : d ∈ s.disk :: ms)
    (hst : d.rowState runId iid = some st) (hf : st.frozen = true)
    (hafter : Run ex runId (fun _ h => KeepsHalt iid h ∧ Whole h) s₁ es t) :
    OnlyReduces ex iid st s h d s₁.disk ∧
      (∀ pf, t.process = some pf → iid ∈ pf.ids →
        (pf.router iid).state = st) ∧
      ∀ h' ms' t', Step ex runId t h' ms' t' → KeepsHalt iid h' → Whole h' →
        OnlyReduces ex iid st t h' t.disk t'.disk := by
  have hs := hbefore.steady (steady_of_none h₀)
  have hs₁ := hstep.steady hs
  have ht := hafter.steady hs₁
  have hfirst := hstep.keeps_whole hs hkeep hwhole d hd st hf hst
  have hlater : Keeps (fun _ _ => True) runId iid s₁.disk t.disk :=
    hafter.keeps hs₁ (fun hs hmay hstep d hd =>
      (hstep.keeps_whole hs hmay.1 hmay.2 d hd).mono fun _ _ _ => trivial)
      _ hafter.start_mem
  have hrow := (hlater st hf hfirst.1).1
  refine ⟨hfirst.2, fun pf hpf hid => ht.router_state hrow hpf hid, ?_⟩
  intro h' ms' t' hstep' hkeep' hwhole'
  exact (hstep'.keeps_whole ht hkeep' hwhole' _ (by simp) st hf hrow).2

theorem shutDown_only_reduces :
    OnlyReduces holding 1 .halted ⟨haltedDisk, none⟩ (.start oneRouter)
        haltedDisk haltedProcess.disk ∧
      (∀ pf, some shutDown.mem = some pf → 1 ∈ pf.ids →
        (pf.router 1).state = .halted) ∧
      ∀ h' ms' t', Step holding "run" ⟨shutDown.disk, some shutDown.mem⟩
        h' ms' t' → KeepsHalt 1 h' → Whole h' →
        OnlyReduces holding 1 .halted ⟨shutDown.disk, some shutDown.mem⟩ h'
          shutDown.disk t'.disk := by
  have hrun : Run holding "run" (fun _ h => KeepsHalt 1 h ∧ Whole h)
      ⟨haltedProcess.disk, some haltedProcess.mem.pf⟩ _
      ⟨shutDown.disk, some shutDown.mem⟩ :=
    .next .here (h := .perform (.onBar [] .shutdown)) ⟨trivial, trivial⟩
      shutDown_step
  have h := frozen_never_opens rfl .here haltedProcess_step trivial trivial
    List.mem_cons_self haltedDisk_row rfl hrun
  exact h

end Site

end Polyperps
