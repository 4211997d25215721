import Polyperps.Proofs.RecoveredOrders

/-!
# Whose funding the drift check compares

The check of a bar keeps, for each instrument, the cumulative funding its
snapshot showed, and compares the next bar's with it. A bar at which the
instrument is flat drops the value; a close and a reopening between two bars do
not. What is compared is of one position as long as no step opens a position
again, or turns it over, of which a value is kept. `Elapsed` is the record of a
run this is said with: the moments passed since the value in memory was taken.
-/

namespace Polyperps

open ProgramLogic Portfolio

variable {V S α : Type} {ex : Executor V}

/-! ## The check -/

namespace Portfolio

/-- What the check compares of an instrument: its position and the bar's rate,
where it is held and the bar has a rate. -/
def observed (snapshot : AccountSnapshot) (iid : InstrumentId)
    (history : List Bar) : Option (PositionView × Decimal) :=
  match (snapshot.position iid).filter (·.size ≠ 0),
    history.getLast?.bind Bar.fundingRate with
  | some pos, some rate => some (pos, rate)
  | _, _ => none

/-- The alert on a position, against the value kept of the bar before. -/
def driftAlert (kept : InstrumentId → Option Decimal)
    (snapshot : AccountSnapshot) (entry : InstrumentId × List Bar) :
    Option Alert :=
  match observed snapshot entry.1 entry.2, kept entry.1 with
  | some (pos, rate), some prev =>
      if pos.notional = 0 then none
      else
        fundingDriftAlert ((prev - pos.cumulativeFunding) / pos.notional)
          (rate * (if 0 < pos.size then 1 else -1)) entry.1 snapshot.ts
  | _, _ => none

/-- The value kept of an instrument after the check. -/
def keptAfter (snapshot : AccountSnapshot)
    (histories : List (InstrumentId × List Bar)) (iid : InstrumentId)
    (kept : Option Decimal) : Option Decimal :=
  match histories.lookup iid with
  | none => kept
  | some history =>
      (observed snapshot iid history).map fun o => o.1.cumulativeFunding

/-- One turn of the check. -/
theorem checkFunding_turn {snapshot : AccountSnapshot}
    {entry : InstrumentId × List Bar} (w : World (Durable V) (Portfolio S)) :
    Prog.wp (checkFunding [entry] snapshot)
      (fun _ w' => w'.mem.runId = w.mem.runId ∧
        (∀ j, w'.mem.fundingSeen j =
          if j = entry.1 then
            (observed snapshot entry.1 entry.2).map
              fun o => o.1.cumulativeFunding
          else w.mem.fundingSeen j) ∧
        w'.disk.db.alerts = w.disk.db.alerts ++
          ((driftAlert w.mem.fundingSeen snapshot entry).map
            (w.mem.runId, ·)).toList)
      (fun _ _ => False) w := by
  obtain ⟨iid, history⟩ := entry
  unfold checkFunding driftAlert
  rw [Prog.forEach, Prog.wp_bind, Prog.wp_bind, Prog.wp_mem]
  dsimp only
  -- a flat instrument or a bar without a rate is passed over
  cases hpos : (snapshot.position iid).filter (·.size ≠ 0) with
  | none =>
      have hobs : observed snapshot iid history = none := by
        unfold observed
        rw [hpos]
      rw [hobs]
      exact ⟨rfl, fun _ => rfl, (List.append_nil _).symm⟩
  | some pos =>
  cases hrate : history.getLast?.bind Bar.fundingRate with
  | none =>
      have hobs : observed snapshot iid history = none := by
        unfold observed
        rw [hpos, hrate]
      rw [hobs]
      exact ⟨rfl, fun _ => rfl, (List.append_nil _).symm⟩
  | some rate =>
      have hobs : observed snapshot iid history = some (pos, rate) := by
        unfold observed
        rw [hpos, hrate]
      rw [hobs]
      dsimp only
      rw [Prog.wp_bind, Prog.wp_modifyMem]
      cases hseen : w.mem.fundingSeen iid with
      | none =>
          exact ⟨rfl, fun _ => rfl, (List.append_nil _).symm⟩
      | some prev =>
          dsimp only
          split
          · exact ⟨rfl, fun _ => rfl, (List.append_nil _).symm⟩
          split
          · next h =>
            rw [h]
            exact ⟨rfl, fun _ => rfl, (List.append_nil _).symm⟩
          · next a h =>
            rw [h]
            exact ⟨rfl, fun _ => rfl, rfl⟩

/-- The check reads every value before it replaces it, and emits the alerts
and nothing else. -/
theorem checkFunding_spec {snapshot : AccountSnapshot}
    {histories : List (InstrumentId × List Bar)}
    (hkeys : (histories.map Prod.fst).Nodup)
    (w : World (Durable V) (Portfolio S)) :
    Prog.wp (checkFunding histories snapshot)
      (fun _ w' =>
        (∀ iid, w'.mem.fundingSeen iid =
          keptAfter snapshot histories iid (w.mem.fundingSeen iid)) ∧
        w'.disk.db.alerts = w.disk.db.alerts ++
          (histories.filterMap
            (driftAlert w.mem.fundingSeen snapshot)).map (w.mem.runId, ·))
      (fun _ _ => False) w := by
  induction histories generalizing w with
  | nil => exact ⟨fun _ => rfl, (List.append_nil _).symm⟩
  | cons entry rest ih =>
      obtain ⟨hnot, hrest⟩ := List.nodup_cons.mp hkeys
      have hsplit : (checkFunding (entry :: rest) snapshot :
          Act V (Portfolio S) Unit) =
            checkFunding [entry] snapshot >>= fun _ =>
              checkFunding rest snapshot := Prog.forEach_append [entry] rest
      rw [hsplit, Prog.wp_bind]
      refine Prog.wp_mono (checkFunding_turn w) (fun _ w₁ h₁ => ?_)
        fun _ _ hf => hf.elim
      obtain ⟨hrun, hseen, halerts⟩ := h₁
      -- the values of the other instruments are those before the turn
      have hsame : ∀ e ∈ rest, driftAlert w₁.mem.fundingSeen snapshot e =
          driftAlert w.mem.fundingSeen snapshot e := by
        intro e he
        have hne : e.1 ≠ entry.1 := fun heq =>
          hnot (heq ▸ List.mem_map_of_mem he)
        unfold driftAlert
        rw [hseen, if_neg hne]
      refine Prog.wp_mono (ih hrest w₁) (fun _ w₂ h₂ => ?_)
        fun _ _ hf => hf.elim
      obtain ⟨hkept, halerts₂⟩ := h₂
      refine ⟨fun iid => ?_, ?_⟩
      · rw [hkept, hseen]
        unfold keptAfter
        rw [List.lookup_cons]
        by_cases hiid : iid = entry.1
        · subst hiid
          have hnone : rest.lookup entry.1 = none := by
            rw [List.lookup_eq_none_iff]
            intro e he
            have hne : entry.1 ≠ e.1 := fun heq =>
              hnot (heq ▸ List.mem_map_of_mem he)
            simpa using hne
          rw [hnone, beq_self_eq_true, if_pos rfl]
        · rw [beq_false_of_ne hiid, if_neg hiid]
      · rw [halerts₂, halerts, List.filterMap_congr hsame, hrun,
          List.append_assoc]
        congr 1
        rw [List.filterMap_cons]
        cases driftAlert w.mem.fundingSeen snapshot entry with
        | none => rfl
        | some a => rfl

/-! ## What leaves the values alone -/

/-- The values kept are the same. -/
def SameKept (w w' : World (Durable V) (Portfolio S)) : Prop :=
  w'.mem.fundingSeen = w.mem.fundingSeen

instance : Std.Refl (SameKept (V := V) (S := S)) := ⟨fun _ => rfl⟩

instance : IsTrans (World (Durable V) (Portfolio S)) SameKept :=
  ⟨fun _ _ _ h h' => h'.trans h⟩

variable {w : World (Durable V) (Portfolio S)}

theorem onRouter_sameKept {iid : InstrumentId}
    {m : Act V (InstrumentRouter S) α} : (onRouter iid m).Steps SameKept w :=
  rfl

theorem forEach_sameKept {ι : Type} {xs : List ι}
    {body : ι → Act V (Portfolio S) Unit}
    (h : ∀ x w', (body x).Steps SameKept w') :
    (Prog.forEach xs body).Steps SameKept w :=
  Prog.Steps.forEach (fun _ _ => True) (fun x _ w' _ => ⟨h x w', trivial⟩)
    trivial

theorem forRouters_sameKept {m : InstrumentId → Act V (Portfolio S) Unit}
    (h : ∀ iid w', (m iid).Steps SameKept w') :
    (forRouters m).Steps SameKept w :=
  Prog.Steps.mem_bind (forEach_sameKept h)

theorem pfShutdown_sameKept {snapshot : AccountSnapshot}
    {histories : List (InstrumentId × List Bar)} :
    (Portfolio.shutdown ex snapshot histories).Steps
      (SameKept (S := S)) w := by
  have hloop : ∀ w' : World (Durable V) (Portfolio S),
      (forRouters fun iid => do
        let pf ← Prog.mem
        let pos := snapshot.position iid
        let mark :=
          shutdownMark (histories.lookup iid) pos (pf.router iid).entry
        onRouter iid
          (InstrumentRouter.shutdown ex mark
            (some ((pos.map PositionView.size).getD 0)))).Steps
        SameKept w' :=
    fun w' => forRouters_sameKept fun _ _ => Prog.Steps.mem_bind rfl
  unfold Portfolio.shutdown
  refine Prog.Steps.mem_bind ?_
  dsimp only
  split
  · exact Prog.Steps.bind rfl fun _ => hloop _
  · exact hloop _

theorem watchPnl_sameKept {snapshot : AccountSnapshot} :
    (watchPnl snapshot : Act V (Portfolio S) Unit).Steps SameKept w := by
  unfold watchPnl
  refine Prog.Steps.mem_bind ?_
  split
  · exact Prog.Steps.pure
  dsimp only
  split
  · split
    · exact Prog.Steps.bind rfl fun _ => rfl
    · exact rfl
  · exact rfl

theorem pfOnFast_sameKept {marks : List (InstrumentId × Decimal)} :
    (Portfolio.onFast ex marks).Steps (SameKept (S := S)) w := by
  unfold Portfolio.onFast
  refine Prog.Steps.bind rfl fun snapshot => ?_
  refine Prog.Steps.bind (forRouters_sameKept fun _ _ => rfl) fun _ => ?_
  refine Prog.Steps.bind (forEach_sameKept fun im w' => ?_) fun _ => ?_
  · refine Prog.Steps.mem_bind ?_
    split
    · exact onRouter_sameKept
    · exact Prog.Steps.pure
  · exact Prog.Steps.bind watchPnl_sameKept fun _ => Prog.Steps.pure

theorem mismatchAlert_sameKept {m : Mismatch} {level : Level} {kind : String}
    {extra : List (String × String)} :
    (mismatchAlert ex m level kind extra).Steps (SameKept (S := S)) w :=
  Prog.Steps.mem_bind (pfClock_bind rfl)

theorem guardPosition_sameKept {m : Mismatch} {iid : InstrumentId}
    {snapshot : AccountSnapshot} :
    (guardPosition ex m iid snapshot).Steps (SameKept (S := S)) w := by
  unfold guardPosition
  refine Prog.Steps.mem_bind ?_
  split
  · exact Prog.Steps.raise
  refine Prog.Steps.bind ?_ fun trigger => ?_
  · unfold placeExchangeStop
    split
    · exact Prog.Steps.raise
    · exact Prog.Steps.bind rfl fun _ => Prog.Steps.pure
  dsimp only
  split
  · exact Prog.Steps.bind rfl fun _ => rfl
  · exact rfl

theorem respond_sameKept {m : Mismatch} {snapshot : AccountSnapshot} :
    (respond ex m snapshot).Steps (SameKept (S := S)) w := by
  unfold respond
  refine Prog.Steps.mem_bind ?_
  split
  · split
    · exact onRouter_sameKept
    · exact mismatchAlert_sameKept
  · exact Prog.Steps.bind rfl fun _ => mismatchAlert_sameKept
  · exact guardPosition_sameKept
  · split
    · exact Prog.Steps.raise
    · exact Prog.Steps.bind rfl fun _ => mismatchAlert_sameKept
  · exact mismatchAlert_sameKept

theorem reconcile_sameKept :
    (reconcile ex).Steps (SameKept (S := S)) w := by
  unfold reconcile
  refine Prog.Steps.bind rfl fun snapshot => ?_
  refine Prog.Steps.mem_bind (Prog.Steps.disk_bind (Prog.Steps.disk_bind ?_))
  dsimp only
  refine Prog.Steps.bind (forEach_sameKept fun m w' => ?_) fun _ => ?_
  · refine Prog.Steps.catching respond_sameKept fun e => ?_
    refine Prog.Steps.mem_bind ?_
    split
    · exact Prog.Steps.raise
    split
    · exact Prog.Steps.pure
    · exact Prog.Steps.bind rfl fun _ => mismatchAlert_sameKept
  · exact Prog.Steps.bind rfl fun _ => Prog.Steps.pure

/-- Every operation but the bar keeps the values. -/
theorem perform_sameKept {op : Op}
    (hop : ∀ histories kill, op ≠ .onBar histories kill) :
    (perform ex op).Steps (SameKept (S := S)) w := by
  cases op with
  | onBar histories kill => exact (hop histories kill rfl).elim
  | onFast marks =>
      exact Prog.Steps.bind pfOnFast_sameKept fun _ => Prog.Steps.pure
  | reconcileNow =>
      exact Prog.Steps.bind reconcile_sameKept fun _ => Prog.Steps.pure
  | dispatch ev =>
      cases ev with
      | reconcileNow =>
          exact Prog.Steps.bind reconcile_sameKept fun _ => Prog.Steps.pure
      | order ev => exact forRouters_sameKept fun _ _ => rfl
      | fill ev =>
          refine Prog.Steps.mem_bind ?_
          split
          · exact onRouter_sameKept
          · exact Prog.Steps.pure

/-- The snapshot a bar checks the funding with: one that shuts down checks
none. -/
def checkedWith (ex : Executor V) (d : Durable V) (kill : KillAction) :
    Option AccountSnapshot :=
  match (ex.snapshot d.venue).1 with
  | .ok snapshot => if kill = .shutdown then none else some snapshot
  | .error _ => none

theorem checkedWith_ok {d : Durable V} {kill : KillAction}
    {snapshot : AccountSnapshot}
    (h : checkedWith ex d kill = some snapshot) :
    (ex.snapshot d.venue).1 = .ok snapshot := by
  unfold checkedWith at h
  split at h
  · next snap hok =>
    split at h
    · cases h
    · rw [hok, Option.some.inj h]
  · cases h

/-- What is observed is the open position of the snapshot. -/
theorem observed_filter {snapshot : AccountSnapshot} {iid : InstrumentId}
    {history : List Bar} {o : PositionView × Decimal}
    (h : observed snapshot iid history = some o) :
    (snapshot.position iid).filter (fun p => decide (p.size ≠ 0)) =
      some o.1 := by
  unfold observed at h
  split at h
  · next hpos _ =>
    cases h
    exact hpos
  · cases h

theorem observed_position {snapshot : AccountSnapshot} {iid : InstrumentId}
    {history : List Bar} {o : PositionView × Decimal}
    (h : observed snapshot iid history = some o) :
    snapshot.position iid = some o.1 :=
  (Option.filter_eq_some_iff.mp (observed_filter h)).1

theorem observed_ne_zero {snapshot : AccountSnapshot} {iid : InstrumentId}
    {history : List Bar} {o : PositionView × Decimal}
    (h : observed snapshot iid history = some o) : o.1.size ≠ 0 :=
  of_decide_eq_true (Option.filter_eq_some_iff.mp (observed_filter h)).2

/-- What a bar keeps. -/
theorem onBar_kept {histories : List (InstrumentId × List Bar)}
    {kill : KillAction} (hkeys : (histories.map Prod.fst).Nodup)
    (iid : InstrumentId) :
    (Portfolio.onBar ex histories kill w).2.mem.fundingSeen iid =
      match checkedWith ex w.disk kill with
      | none => w.mem.fundingSeen iid
      | some snapshot =>
          keptAfter snapshot histories iid (w.mem.fundingSeen iid) := by
  refine (Prog.wp_state (P := fun w' : World (Durable V) (Portfolio S) =>
    w'.mem.fundingSeen iid = _)).mp ?_
  unfold Portfolio.onBar
  rw [Prog.wp_bind]
  rcases call_cases ex.snapshot w with ⟨snapshot, hok, hcall⟩ | ⟨e, hcall⟩
  swap
  · have herr : (ex.snapshot w.disk.venue).1 = .error e :=
      congrArg Prod.fst hcall
    rw [Prog.wp_of_error hcall]
    show _ = _
    rw [checkedWith, herr]
    rfl
  rw [Prog.wp_of_ok hcall]
  split
  · next hkill =>
    have hsteps : (Portfolio.shutdown ex snapshot histories).Steps
        (SameKept (S := S)) (called w (ex.snapshot w.disk.venue).2) :=
      pfShutdown_sameKept
    have hnone : checkedWith ex w.disk kill = none := by
      rw [checkedWith, hok]
      exact if_pos hkill
    refine Prog.wp_mono hsteps.wp (fun _ w' h' => ?_) fun _ w' h' => ?_
    · show _ = _
      rw [hnone, h']
      rfl
    · show _ = _
      rw [hnone, h']
      rfl
  · next hkill =>
    have hsome : checkedWith ex w.disk kill = some snapshot := by
      rw [checkedWith, hok]
      exact if_neg hkill
    rw [Prog.wp_bind]
    refine Prog.wp_mono (checkFunding_spec hkeys _) (fun _ w₁ h₁ => ?_)
      fun _ _ hf => hf.elim
    refine Prog.wp_mono (Prog.Steps.wp (R := SameKept)
      (forEach_sameKept fun entry w' => Prog.Steps.mem_bind ?_))
      (fun _ w' h' => ?_) fun _ w' h' => ?_
    · split
      · exact onRouter_sameKept
      · exact Prog.Steps.pure
    · show _ = _
      rw [hsome, h']
      exact h₁.1 iid
    · show _ = _
      rw [hsome, h']
      exact h₁.1 iid

end Portfolio

/-! ## Runs -/

namespace Site

variable {runId : String} {s₀ s s' : Site V S} {h : Happening V S} {ms : List (Durable V)}

/-- The moments passed since the value kept of each instrument was taken. -/
abbrev Elapsed (V : Type) := InstrumentId → Option (List (Durable V))

/-- The record after a happening that passes through the moments `ms`: the
check of a bar begins it anew for its instruments, and every process begins
without. -/
def Elapsed.after (ex : Executor V) (since : Elapsed V) (s : Site V S)
    (h : Happening V S) (ms : List (Durable V)) : Elapsed V := fun iid =>
  match h with
  | .perform (.onBar histories kill) =>
      match checkedWith ex s.disk kill with
      | none => (since iid).map (· ++ ms)
      | some snapshot =>
          match histories.lookup iid with
          | none => (since iid).map (· ++ ms)
          | some history =>
              (observed snapshot iid history).map fun _ => s.disk :: ms
  | .perform _ | .clearHalt _ | .venue _ | .strategies _ =>
      (since iid).map (· ++ ms)
  | .start _ | .startCut _ | .cut _ | .stop => none

/-- A run with that record. -/
inductive Recorded (ex : Executor V) (runId : String)
    (may : Site V S → Happening V S → List (Durable V) → Prop)
    (s₀ : Site V S) : Elapsed V → Site V S → Prop
  | here : Recorded ex runId may s₀ (fun _ => none) s₀
  | next {since : Elapsed V} {s s' : Site V S} {h : Happening V S}
      {ms : List (Durable V)} (hrun : Recorded ex runId may s₀ since s)
      (hmay : may s h ms) (hstep : Step ex runId s h ms s') :
      Recorded ex runId may s₀ (since.after ex s h ms) s'

/-- The histories of a bar are a dictionary, and a process starts with no value
kept. -/
def WellFormed : Happening V S → Prop
  | .perform (.onBar histories _) => (histories.map Prod.fst).Nodup
  | .start c => ∀ iid, c.pf.fundingSeen iid = none
  | _ => True

/-- The snapshot of the moment shows the value. -/
def Showed (ex : Executor V) (d : Durable V) (iid : InstrumentId)
    (pos : PositionView) : Prop :=
  ∃ snap, (ex.snapshot d.venue).1 = .ok snap ∧
    snap.position iid = some pos

/-- Recovery keeps the values the process starts with. -/
theorem recover_kept {c : Recovery S} {d : Durable V} :
    Prog.wp (recover ex)
      (fun _ w' => w'.mem.pf.fundingSeen = c.pf.fundingSeen)
      (fun _ _ => True) ⟨c, d, []⟩ :=
  recover_rule (w := ⟨c, d, []⟩)
    (I := fun _ w' => w'.mem.pf.fundingSeen = c.pf.fundingSeen)
    (E := fun _ => True) rfl rfl rfl (fun _ _ => trivial) fun snap _ =>
    ⟨rfl,
      { calm := fun hi h => by rw [h.pf]; exact hi
        turn := fun hi h => by rw [h.pf]; exact hi
        unknown := fun hi => hi
        guard := fun hi h => by rw [h.pf]; exact hi
        orders := fun hi => hi
        classify := by
          intro o rest w w' hi h
          cases h with
          | done => exact hi
          | relabelled => exact hi
          | restored => exact hi
        foreign := fun hi => hi
        cancel := fun hi h => by rw [h.pf]; exact hi
        turnRaised := fun _ _ _ => trivial
        guardRaised := fun _ _ _ _ _ => trivial
        cancelRaised := fun _ _ _ => trivial
        raised := fun _ _ => trivial }⟩

/-- The value a running process keeps of an instrument after a step: the check
of a bar takes a new one, an operation that is cut loses it. -/
def valueAfter (ex : Executor V) (d : Durable V) (h : Happening V S)
    (pf : Portfolio S) (iid : InstrumentId) : Option Decimal :=
  match h with
  | .perform (.onBar histories kill) =>
      match checkedWith ex d kill with
      | none => pf.fundingSeen iid
      | some snapshot => keptAfter snapshot histories iid (pf.fundingSeen iid)
  | .perform _ | .clearHalt _ | .venue _ | .strategies _ => pf.fundingSeen iid
  | .start _ | .startCut _ | .cut _ | .stop => none

theorem operating_kept {d : Durable V} {pf : Portfolio S} {op : Portfolio.Op}
    (hop : ∀ histories kill, op ≠ .onBar histories kill) :
    (operating ex d pf op).mem.fundingSeen = pf.fundingSeen :=
  perform_sameKept hop

/-- What a step leaves in memory is that value. -/
theorem Step.kept (hstep : Step ex runId s h ms s') (hwell : WellFormed h)
    {pf' : Portfolio S} (hpf' : s'.process = some pf')
    {iid : InstrumentId} {prev : Decimal}
    (hprev : pf'.fundingSeen iid = some prev) :
    ∃ pf, s.process = some pf ∧
      valueAfter ex s.disk h pf iid = some prev := by
  cases hstep with
  | @start d c hc =>
      obtain ⟨hok, rfl⟩ := recovered_eq_some hpf'
      have hsame : (recovering ex d c).2.mem.pf.fundingSeen =
          c.pf.fundingSeen := Prog.wp_returned recover_kept hok
      rw [hsame, hwell] at hprev
      cases hprev
  | startCut => cases hpf'
  | @perform d pf op =>
      cases hpf'
      refine ⟨pf, rfl, ?_⟩
      cases op with
      | onBar histories kill =>
          have hkept : (operating ex d pf
              (.onBar histories kill)).mem.fundingSeen iid = _ :=
            onBar_kept (w := ⟨pf, d, []⟩) hwell iid
          rw [hkept] at hprev
          exact hprev
      | onFast marks =>
          rw [operating_kept (by rintro _ _ ⟨⟩)] at hprev
          exact hprev
      | reconcileNow =>
          rw [operating_kept (by rintro _ _ ⟨⟩)] at hprev
          exact hprev
      | dispatch ev =>
          rw [operating_kept (by rintro _ _ ⟨⟩)] at hprev
          exact hprev
  | cut => cases hpf'
  | clearHalt hid =>
      cases hpf'
      exact ⟨_, rfl, hprev⟩
  | stop => cases hpf'
  | venue v => exact ⟨pf', hpf', hprev⟩
  | strategies states =>
      cases hpf'
      exact ⟨_, rfl, hprev⟩

theorem Step.getLast (hstep : Step ex runId s h ms s') :
    ms.getLast? = some s'.disk := by
  cases hstep <;> simp [World.moments]

/-! ## One position -/

/-- From one moment to the next the position is closed, or held on the side it
was on. -/
def Continues (held : V → InstrumentId → Decimal) (iid : InstrumentId)
    (d d' : Durable V) : Prop :=
  held d'.venue iid = 0 ∨ 0 < held d.venue iid * held d'.venue iid

/-- The next bar of the instrument has something to compare with: the process
has a value of it, or a bar whose snapshot shows it open and whose funding rate
is known. -/
def Watches (ex : Executor V) (d : Durable V) (h : Happening V S)
    (pf : Portfolio S) (iid : InstrumentId) : Prop :=
  match h with
  | .perform (.onBar histories kill) =>
      match checkedWith ex d kill, histories.lookup iid with
      | some snapshot, some history =>
          (observed snapshot iid history).isSome
      | _, _ => pf.fundingSeen iid ≠ none
  | .perform _ | .clearHalt _ | .venue _ | .strategies _ =>
      pf.fundingSeen iid ≠ none
  | .start _ | .startCut _ | .cut _ | .stop => False

/-- No position that is watched is opened again, or turned over. -/
def Uninterrupted (ex : Executor V) (held : V → InstrumentId → Decimal)
    (s : Site V S) (h : Happening V S) (ms : List (Durable V)) : Prop :=
  ∀ pf iid, s.process = some pf → Watches ex s.disk h pf iid →
    (s.disk :: ms).IsChain (Continues held iid)

/-- A value is kept of what is watched only. -/
theorem watches_of_valueAfter {d : Durable V} {pf : Portfolio S}
    {iid : InstrumentId} {prev : Decimal}
    (hvalue : valueAfter ex d h pf iid = some prev) :
    Watches ex d h pf iid := by
  have hkept (hv : pf.fundingSeen iid = some prev) :
      pf.fundingSeen iid ≠ none := by
    rw [hv]
    exact Option.some_ne_none prev
  cases h with
  | start c => cases hvalue
  | startCut c => cases hvalue
  | cut op => cases hvalue
  | stop => cases hvalue
  | clearHalt j => exact hkept hvalue
  | venue v => exact hkept hvalue
  | strategies states => exact hkept hvalue
  | perform op =>
  cases op with
  | onFast marks => exact hkept hvalue
  | reconcileNow => exact hkept hvalue
  | dispatch ev => exact hkept hvalue
  | onBar histories kill =>
  unfold valueAfter at hvalue
  unfold Watches
  dsimp only at hvalue ⊢
  cases hcheck : checkedWith ex d kill with
  | none =>
      rw [hcheck] at hvalue
      exact hkept hvalue
  | some snapshot =>
      rw [hcheck] at hvalue
      dsimp only [keptAfter] at hvalue
      cases hlook : histories.lookup iid with
      | none =>
          rw [hlook] at hvalue
          exact hkept hvalue
      | some history =>
          rw [hlook] at hvalue
          obtain ⟨o, ho, -⟩ := Option.map_eq_some_iff.mp hvalue
          exact Option.isSome_of_eq_some ho

/-- Where the position is held in the end, it was on that side throughout. -/
theorem sameSide {held : V → InstrumentId → Decimal} {iid : InstrumentId}
    {ds : List (Durable V)} (hchain : ds.IsChain (Continues held iid))
    {d : Durable V} (hlast : ds.getLast? = some d)
    (hheld : held d.venue iid ≠ 0) :
    ∀ d' ∈ ds, 0 < held d'.venue iid * held d.venue iid := by
  induction ds with
  | nil => cases hlast
  | cons x rest ih =>
      cases rest with
      | nil =>
          cases hlast
          intro d' hd'
          rw [List.mem_singleton.mp hd']
          exact mul_self_pos.mpr hheld
      | cons y rest =>
          obtain ⟨hxy, hrest⟩ := List.isChain_cons_cons.mp hchain
          rw [List.getLast?_cons_cons] at hlast
          have hlater := ih hrest hlast
          have hy := hlater y (List.mem_cons_self ..)
          intro d' hd'
          rcases List.mem_cons.mp hd' with rfl | hd'
          swap
          · exact hlater d' hd'
          rcases hxy with hzero | hsame
          · rw [hzero, zero_mul] at hy
            exact absurd hy (lt_irrefl 0)
          · -- the two have the side of the next moment in common
            have hprod := mul_pos hsame hy
            have hsquare : 0 < held y.venue iid * held y.venue iid :=
              mul_self_pos.mpr (left_ne_zero_of_mul hy.ne')
            nlinarith [hprod, hsquare]

/-- Every value kept is the one a snapshot showed at the first moment of the
record, and the position was continued from each moment to the next. -/
def Traced (ex : Executor V) (held : V → InstrumentId → Decimal)
    (since : Elapsed V) (s : Site V S) : Prop :=
  ∀ pf, s.process = some pf → ∀ iid prev, pf.fundingSeen iid = some prev →
    ∃ d ms pos, since iid = some (d :: ms) ∧ Showed ex d iid pos ∧
      pos.cumulativeFunding = prev ∧
      (d :: ms).IsChain (Continues held iid) ∧
      (d :: ms).getLast? = some s.disk

variable {held : V → InstrumentId → Decimal}

/-- A record that goes on. -/
theorem Traced.append {since since' : Elapsed V} {pf : Portfolio S}
    {iid : InstrumentId} {prev : Decimal} (hs : Traced ex held since s)
    (hpf : s.process = some pf) (hprev : pf.fundingSeen iid = some prev)
    (hchain : (s.disk :: ms).IsChain (Continues held iid))
    (hlast : ms.getLast? = some s'.disk)
    (hsince : since' iid = (since iid).map (· ++ ms)) :
    ∃ d ms' pos, since' iid = some (d :: ms') ∧ Showed ex d iid pos ∧
      pos.cumulativeFunding = prev ∧
      (d :: ms').IsChain (Continues held iid) ∧
      (d :: ms').getLast? = some s'.disk := by
  obtain ⟨d, ms₁, pos, h₁, hshowed, hpos, hchain₁, hlast₁⟩ :=
    hs pf hpf iid prev hprev
  refine ⟨d, ms₁ ++ ms, pos, ?_, hshowed, hpos, ?_, ?_⟩
  · rw [hsince, h₁]
    rfl
  · rw [← List.cons_append]
    obtain ⟨hhead, hms⟩ := List.isChain_cons.mp hchain
    refine List.isChain_append.mpr ⟨hchain₁, hms, fun x hx y hy => ?_⟩
    rw [hlast₁, Option.mem_some_iff] at hx
    rw [← hx]
    exact hhead y hy
  · rw [← List.cons_append, List.getLast?_append, hlast]
    rfl

/-- Every happening that interrupts no position keeps the values traced. -/
theorem Step.traced {since : Elapsed V} (hstep : Step ex runId s h ms s')
    (hwell : WellFormed h) (hcont : Uninterrupted ex held s h ms)
    (hs : Traced ex held since s) :
    Traced ex held (since.after ex s h ms) s' := by
  intro pf' hpf' iid prev hprev
  obtain ⟨pf, hpf, hvalue⟩ := hstep.kept hwell hpf' hprev
  have hchain := hcont pf iid hpf (watches_of_valueAfter hvalue)
  have hlast := hstep.getLast
  cases h with
  | start c => cases hvalue
  | startCut c => cases hvalue
  | cut op => cases hvalue
  | stop => cases hvalue
  | clearHalt j => exact hs.append hpf hvalue hchain hlast rfl
  | venue v => exact hs.append hpf hvalue hchain hlast rfl
  | strategies states => exact hs.append hpf hvalue hchain hlast rfl
  | perform op =>
  cases op with
  | onFast marks => exact hs.append hpf hvalue hchain hlast rfl
  | reconcileNow => exact hs.append hpf hvalue hchain hlast rfl
  | dispatch ev => exact hs.append hpf hvalue hchain hlast rfl
  | onBar histories kill =>
  unfold valueAfter at hvalue
  dsimp only at hvalue
  cases hcheck : checkedWith ex s.disk kill with
  | none =>
      rw [hcheck] at hvalue
      refine hs.append hpf hvalue hchain hlast ?_
      unfold Elapsed.after
      dsimp only
      rw [hcheck]
  | some snapshot =>
      rw [hcheck] at hvalue
      dsimp only [keptAfter] at hvalue
      cases hlook : histories.lookup iid with
      | none =>
          rw [hlook] at hvalue
          refine hs.append hpf hvalue hchain hlast ?_
          unfold Elapsed.after
          dsimp only
          rw [hcheck]
          dsimp only
          rw [hlook]
      | some history =>
          -- the check begins the record anew
          rw [hlook] at hvalue
          obtain ⟨o, ho, rfl⟩ := Option.map_eq_some_iff.mp hvalue
          refine ⟨s.disk, ms, o.1, ?_, ⟨snapshot, checkedWith_ok hcheck,
            observed_position ho⟩, rfl, hchain, ?_⟩
          · unfold Elapsed.after
            dsimp only
            rw [hcheck]
            dsimp only
            rw [hlook]
            dsimp only
            rw [ho]
            rfl
          · rw [List.getLast?_cons, hlast]
            rfl

/-- The alert compares the position of the snapshot with what a snapshot showed
of it before, and the venue held it on one side from then on. -/
def OnePosition (ex : Executor V) (held : V → InstrumentId → Decimal)
    (since : Elapsed V) (prev : Decimal) (iid : InstrumentId)
    (pos : PositionView) : Prop :=
  ∃ d ms pos₀, since iid = some (d :: ms) ∧ Showed ex d iid pos₀ ∧
    pos₀.cumulativeFunding = prev ∧ 0 < pos₀.size * pos.size ∧
    ∀ d' ∈ d :: ms, 0 < held d'.venue iid * pos.size

/-- **Drift is measured on one position.** In every run in which no position is
opened again, or turned over, of which the process keeps a value, the check
emits the alerts of its comparisons and no others, and what each of them
compares is of one position. -/
theorem drift_compares_one_position {since : Elapsed V} {d : Durable V}
    {pf : Portfolio S} {histories : List (InstrumentId × List Bar)}
    {kill : KillAction} {snap : AccountSnapshot}
    (hshows : ∀ v snap, (ex.snapshot v).1 = .ok snap →
      ∀ iid, snap.size iid = held v iid)
    (h₀ : s₀.process = none)
    (hrun : Recorded ex runId
      (fun s h ms => WellFormed h ∧ Uninterrupted ex held s h ms) s₀ since
      ⟨d, some pf⟩)
    (hkeys : (histories.map Prod.fst).Nodup)
    (hcheck : checkedWith ex d kill = some snap) :
    (checkFunding histories snap
        (called ⟨pf, d, []⟩ (ex.snapshot d.venue).2)).2.disk.db.alerts =
      d.db.alerts ++ (histories.filterMap
        (driftAlert pf.fundingSeen snap)).map (pf.runId, ·) ∧
    ∀ iid history a, (iid, history) ∈ histories →
      driftAlert pf.fundingSeen snap (iid, history) = some a →
      ∃ prev pos, pf.fundingSeen iid = some prev ∧
        snap.position iid = some pos ∧
        OnePosition ex held since prev iid pos := by
  have htraced : Traced ex held since (⟨d, some pf⟩ : Site V S) := by
    clear hcheck
    generalize (⟨d, some pf⟩ : Site V S) = t at hrun
    induction hrun with
    | here =>
        intro pf hpf
        rw [h₀] at hpf
        cases hpf
    | next _ hmay hstep ih => exact hstep.traced hmay.1 hmay.2 ih
  refine ⟨?_, ?_⟩
  · have hspec : Prog.wp (checkFunding histories snap) _ _ _ :=
      checkFunding_spec hkeys
        (called ⟨pf, d, []⟩ (ex.snapshot d.venue).2)
    exact Prog.wp_state.mp (Prog.wp_mono hspec (fun _ _ h => h.2)
      fun _ _ hf => hf.elim)
  · intro iid history a hmem ha
    unfold driftAlert at ha
    split at ha
    swap
    · cases ha
    next pos rate prev hobs hprev =>
    have hsnap := checkedWith_ok hcheck
    have hpos := observed_position hobs
    have hsize : pos.size = held d.venue iid := by
      rw [← hshows _ _ hsnap iid, AccountSnapshot.size, hpos]
      rfl
    obtain ⟨d₁, ms, pos₀, hsince, hshowed, hprev₀, hchain, hlast⟩ :=
      htraced pf rfl iid prev hprev
    -- it is held now, so it was never closed nor turned over
    have hside := sameSide hchain hlast (hsize ▸ observed_ne_zero hobs)
    refine ⟨prev, pos, hprev, hpos, d₁, ms, pos₀, hsince, hshowed, hprev₀,
      ?_, ?_⟩
    · obtain ⟨snap₀, hsnap₀, hpos₀⟩ := hshowed
      have hsize₀ : pos₀.size = held d₁.venue iid := by
        rw [← hshows _ _ hsnap₀ iid, AccountSnapshot.size, hpos₀]
        rfl
      rw [hsize₀, hsize]
      exact hside d₁ (List.mem_cons_self ..)
    · intro d' hd'
      rw [hsize]
      exact hside d' hd'

/-! ### A position that is opened again between two bars -/

section Reopened

/-- What the venue below shows. -/
def fundedSnapshot (v : Decimal × Decimal) : AccountSnapshot where
  equity := 1000
  positions :=
    [{ instrumentId := 1, size := v.1, entryPrice := 100
       notional := |v.1| * 100, leverage := 1, liquidationPrice := none
       unrealisedPnl := 0, cumulativeFunding := v.2 }]
  openOrders := []
  stops := []
  inLiquidation := false
  ts := 0

/-- A venue that holds a size of one instrument, with its cumulative
funding. -/
def funded : Executor (Decimal × Decimal) where
  name := "live"
  submit req v := (.ok ⟨req.clientOrderId, none, .accepted, "", 0⟩, v)
  cancel _ v := (.ok (), v)
  placeStop _ _ v := (.ok (), v)
  cancelStop _ v := (.ok (), v)
  snapshot v := (.ok (fundedSnapshot v), v)
  clock _ := 0

def fundedSize (v : Decimal × Decimal) (iid : InstrumentId) : Decimal :=
  if iid = 1 then v.1 else 0

theorem funded_shows (v : Decimal × Decimal) (snap : AccountSnapshot)
    (h : (funded.snapshot v).1 = .ok snap) (iid : InstrumentId) :
    snap.size iid = fundedSize v iid := by
  obtain rfl : fundedSnapshot v = snap := Except.ok.inj h
  unfold AccountSnapshot.size AccountSnapshot.position fundedSize
  by_cases hiid : iid = 1
  · subst hiid
    rfl
  · rw [if_neg hiid, fundedSnapshot, List.find?_cons_of_neg, List.find?_nil]
    · rfl
    · simpa using fun h => hiid h.symm

/-- The venue's funding restarts at zero when a position closes. -/
def Restarts : Site (Decimal × Decimal) Unit →
    Happening (Decimal × Decimal) Unit → Prop
  | s, .venue v => (v.1 = 0 → v.2 = 0) ∧ (s.disk.venue.1 = 0 → v.2 = 0)
  | _, _ => True

/-- A bar with a funding rate. -/
def ratedBar : Bar := { flatBar with fundingRate := some (1 / 1000) }

/-- A venue that holds one contract, which paid ten in funding. -/
def paidDisk : Durable (Decimal × Decimal) := ⟨Db.empty, (1, -10), [], []⟩

@[irreducible] def watching :
    World (Durable (Decimal × Decimal)) (Recovery Unit) :=
  (recovering funded paidDisk longRouter).2

/-- The process after a bar. -/
@[irreducible] def observing :
    World (Durable (Decimal × Decimal)) (Portfolio Unit) :=
  operating funded watching.disk watching.mem.pf
    (.onBar [(1, [ratedBar])] .run)

/-- The disk after that bar, once the venue has moved. -/
def movedDisk (v : Decimal × Decimal) : Durable (Decimal × Decimal) :=
  { observing.disk with venue := v }

def movedOn (v : Decimal × Decimal) : Site (Decimal × Decimal) Unit :=
  ⟨movedDisk v, some observing.mem⟩

theorem watching_step : Step funded "run" ⟨paidDisk, none⟩
    (.start longRouter) watching.moments
    ⟨watching.disk, some watching.mem.pf⟩ := by
  rw [watching]
  exact .started longRouter_started (by decide +kernel)

theorem observing_step : Step funded "run"
    ⟨watching.disk, some watching.mem.pf⟩
    (.perform (.onBar [(1, [ratedBar])] .run)) observing.moments
    ⟨observing.disk, some observing.mem⟩ := by
  rw [observing]
  exact .perform

theorem movedOn_step (v v' : Decimal × Decimal) :
    Step funded "run" (movedOn v) (.venue v')
      [movedDisk v'] (movedOn v') := .venue v'

theorem observing_facts :
    watching.disk.venue = (1, -10) ∧ observing.disk.venue = (1, -10) ∧
      observing.mem.fundingSeen 1 = some (-10) ∧
      (observing.moments.all fun d => d.venue = (1, -10)) = true := by
  decide +kernel

/-- The record of the run to the bar. -/
def sinceBar : Elapsed (Decimal × Decimal) :=
  Elapsed.after funded
    (Elapsed.after funded (fun _ => none)
      (⟨paidDisk, none⟩ : Site (Decimal × Decimal) Unit) (.start longRouter)
      watching.moments)
    (⟨watching.disk, some watching.mem.pf⟩ : Site (Decimal × Decimal) Unit)
    (.perform (.onBar [(1, [ratedBar])] .run)) observing.moments

theorem sinceBar_eq : sinceBar 1 = some (watching.disk :: observing.moments) := by
  have hheld : (observed (fundedSnapshot watching.disk.venue) 1
      [ratedBar]).isSome = true := by
    rw [observing_facts.1]
    decide +kernel
  obtain ⟨o, ho⟩ := Option.isSome_iff_exists.mp hheld
  show (observed (fundedSnapshot watching.disk.venue) 1 [ratedBar]).map
    (fun _ => watching.disk :: observing.moments) = _
  rw [ho]
  rfl

/-- The run to the bar, and a venue that moves twice after it. -/
theorem movedOn_recorded
    (may : Site (Decimal × Decimal) Unit → Happening (Decimal × Decimal) Unit →
      List (Durable (Decimal × Decimal)) → Prop) (v v' : Decimal × Decimal)
    (hstart : may ⟨paidDisk, none⟩ (.start longRouter) watching.moments)
    (hbar : may ⟨watching.disk, some watching.mem.pf⟩
      (.perform (.onBar [(1, [ratedBar])] .run)) observing.moments)
    (hv : may ⟨observing.disk, some observing.mem⟩ (.venue v) [movedDisk v])
    (hv' : may (movedOn v) (.venue v') [movedDisk v']) :
    ∃ since, Recorded funded "run" may ⟨paidDisk, none⟩ since (movedOn v') ∧
      since 1 = some (watching.disk :: observing.moments ++
        [movedDisk v] ++ [movedDisk v']) := by
  refine ⟨_, .next (.next (.next (.next .here hstart watching_step)
    hbar observing_step) hv (.venue v)) hv' (movedOn_step v v'), ?_⟩
  show ((sinceBar 1).map _).map _ = _
  rw [sinceBar_eq]
  rfl

theorem movedOn_alert (v : Decimal × Decimal)
    (h : (driftAlert (fun _ => some (-10)) (fundedSnapshot v)
      (1, [ratedBar])).isSome = true) :
    ∃ a, driftAlert observing.mem.fundingSeen (fundedSnapshot v)
      (1, [ratedBar]) = some a := by
  refine Option.isSome_iff_exists.mp ?_
  have hseen : observing.mem.fundingSeen 1 = some (-10) :=
    observing_facts.2.2.1
  unfold driftAlert at h ⊢
  rw [hseen]
  exact h

/-- The position closes and is opened again between two bars, and the ten paid
on the first are taken for a payment on the second. -/
theorem reopened_compared : ¬ ∀ (since : Elapsed (Decimal × Decimal))
    (d : Durable (Decimal × Decimal)) (pf : Portfolio Unit)
    (histories : List (InstrumentId × List Bar)) (kill : KillAction)
    (snap : AccountSnapshot),
    Recorded funded "run" (fun s h _ => WellFormed h ∧ Restarts s h)
      ⟨paidDisk, none⟩ since ⟨d, some pf⟩ →
    (histories.map Prod.fst).Nodup → checkedWith funded d kill = some snap →
    ∀ iid history a, (iid, history) ∈ histories →
      driftAlert pf.fundingSeen snap (iid, history) = some a →
      ∃ prev pos, pf.fundingSeen iid = some prev ∧
        snap.position iid = some pos ∧
        OnePosition funded fundedSize since prev iid pos := by
  intro hall
  obtain ⟨since, hrun, hsince⟩ := movedOn_recorded
    (fun s h _ => WellFormed h ∧ Restarts s h) (0, 0) (1, 0)
    ⟨fun _ => rfl, trivial⟩ ⟨by simp [WellFormed], trivial⟩
    ⟨trivial, by simp [Restarts]⟩ ⟨trivial, by simp [Restarts]⟩
  obtain ⟨a, ha⟩ := movedOn_alert (1, 0) (by decide +kernel)
  obtain ⟨prev, pos, -, -, d, ms, pos₀, h₁, -, -, -, hside⟩ :=
    hall since _ _ [(1, [ratedBar])] .run _ hrun (by simp) rfl 1 [ratedBar] a
      (by simp) ha
  rw [hsince] at h₁
  have hflat := hside (movedDisk (0, 0)) (by
    rw [← Option.some.inj h₁]
    simp)
  have hzero : fundedSize (movedDisk (0, 0)).venue 1 = 0 := rfl
  rw [hzero, zero_mul] at hflat
  exact lt_irrefl 0 hflat

/-- Moments at which the one contract is held continue each other. -/
theorem held_continues {ds : List (Durable (Decimal × Decimal))}
    (h : ∀ d ∈ ds, d.venue.1 = 1) (iid : InstrumentId) :
    ds.IsChain (Continues fundedSize iid) := by
  refine (List.pairwise_of_forall_mem_list fun d hd d' hd' => ?_).isChain
  unfold Continues fundedSize
  rw [h d hd, h d' hd']
  by_cases hiid : iid = 1
  · exact Or.inr (by simp [hiid])
  · exact Or.inl (if_neg hiid)

/-- The same position pays ten more. -/
theorem drift_compares_one_position_paid :
    ∃ since : Elapsed (Decimal × Decimal),
      (checkFunding [(1, [ratedBar])] (fundedSnapshot (1, -20))
        (called ⟨observing.mem, movedDisk (1, -20), []⟩
          (funded.snapshot (movedDisk (1, -20)).venue).2)).2.disk.db.alerts =
        (movedDisk (1, -20)).db.alerts ++ ([(1, [ratedBar])].filterMap
          (driftAlert observing.mem.fundingSeen
            (fundedSnapshot (1, -20)))).map (observing.mem.runId, ·) ∧
      ∀ iid history a, (iid, history) ∈ [(1, [ratedBar])] →
        driftAlert observing.mem.fundingSeen (fundedSnapshot (1, -20))
          (iid, history) = some a →
        ∃ prev pos, observing.mem.fundingSeen iid = some prev ∧
          (fundedSnapshot (1, -20)).position iid = some pos ∧
          OnePosition funded fundedSize since prev iid pos := by
  obtain ⟨hbefore, hafter, -, hmoments⟩ := observing_facts
  have hbar : ∀ d ∈ watching.disk :: observing.moments, d.venue.1 = 1 := by
    intro d hd
    rcases List.mem_cons.mp hd with rfl | hd
    · rw [hbefore]
    · rw [of_decide_eq_true (List.all_eq_true.mp hmoments d hd)]
  have hfirst : ∀ d ∈ [observing.disk, movedDisk (1, -15)],
      d.venue.1 = 1 := by
    intro d hd
    rcases List.mem_cons.mp hd with rfl | hd
    · rw [hafter]
    · rw [List.mem_singleton.mp hd]
      rfl
  have hlast : ∀ d ∈ [movedDisk (1, -15), movedDisk (1, -20)],
      d.venue.1 = 1 := by
    intro d hd
    rcases List.mem_cons.mp hd with rfl | hd
    · rfl
    · rw [List.mem_singleton.mp hd]
      rfl
  obtain ⟨since, hrun, -⟩ := movedOn_recorded
    (fun s h ms => WellFormed h ∧ Uninterrupted funded fundedSize s h ms)
    (1, -15) (1, -20)
    ⟨fun _ => rfl, by rintro _ _ ⟨⟩⟩
    ⟨by simp [WellFormed], fun _ iid _ _ => held_continues hbar iid⟩
    ⟨trivial, fun _ iid _ _ => held_continues hfirst iid⟩
    ⟨trivial, fun _ iid _ _ => held_continues hlast iid⟩
  have hcheck : checkedWith funded (movedDisk (1, -20)) .run =
      some (fundedSnapshot (1, -20)) := rfl
  exact ⟨since, drift_compares_one_position funded_shows rfl hrun (by simp)
    hcheck⟩

end Reopened

end Site

end Polyperps
