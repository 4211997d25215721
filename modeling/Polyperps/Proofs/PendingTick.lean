import Polyperps.Proofs.PendingTimer
import Polyperps.Proofs.RecoveryTruth

/-!
# A tick and the routers that wait

`Portfolio.on_fast` comes to each router once before the marks. A router whose
time is up takes what the exchange holds, and is `OPEN` with a stop on the
venue or `FLAT` without one. Any other is left alone, and one that waits has
waited for no longer than the timeout: what is in its memory is no later than
what `Stay` says.

An adoption that raises before its stop is placed breaks this for good. It has
set the time to `None`, the row still waits, and no tick looks at it again.
-/

namespace Polyperps

open ProgramLogic InstrumentRouter
open Recovery (held)

variable {V S : Type} {ex : Executor V}
  {stop : V → InstrumentId → Option Decimal} {snap : AccountSnapshot}

/-- Where a venue keeps its stops: a snapshot shows them, and each call changes
the one of its instrument. -/
structure StopBook (ex : Executor V)
    (stop : V → InstrumentId → Option Decimal) : Prop where
  snapshot : ∀ v snap, (ex.snapshot v).1 = .ok snap → ∀ iid,
    snap.stop iid = stop v iid ∧ stop (ex.snapshot v).2 iid = stop v iid
  placed : ∀ iid trigger v, (ex.placeStop iid trigger v).1 = .ok () →
    stop (ex.placeStop iid trigger v).2 iid = some trigger
  placeOther : ∀ iid trigger v j, j ≠ iid →
    stop (ex.placeStop iid trigger v).2 j = stop v j
  cancelled : ∀ iid v, (ex.cancelStop iid v).1 = .ok () →
    stop (ex.cancelStop iid v).2 iid = none
  cancelOther : ∀ iid v j, j ≠ iid →
    stop (ex.cancelStop iid v).2 j = stop v j

/-- The venue does what the adoption of the snapshot asks of it: it takes the
stop of a position that shows none, and cancels the one of a position that is
gone. -/
structure Complies (ex : Executor V) (snap : AccountSnapshot)
    (r : InstrumentRouter S) (v : V) : Prop where
  place : ∀ pos, held snap r.instrumentId = some pos →
    snap.stop r.instrumentId = none → 0 < pos.entryPrice →
    (ex.placeStop pos.instrumentId
      (stopPrice (decide (0 < pos.size)) pos.entryPrice r.limits)
      v).1 = .ok ()
  cancel : held snap r.instrumentId = none →
    (ex.cancelStop r.instrumentId v).1 = .ok ()

/-- The router is what the exchange holds, and a position has a stop. -/
structure Matches (stop : V → InstrumentId → Option Decimal)
    (snap : AccountSnapshot) (iid : InstrumentId) (r : InstrumentRouter S)
    (v : V) : Prop where
  size : r.size = snap.size iid
  entry : r.entry = (held snap iid).map PositionView.entryPrice
  state : r.state = if r.size ≠ 0 then .opened else .flat
  stop : (stop v iid).isSome ↔ r.size ≠ 0

/-! ## The router -/

section Router

variable {w w' : World (Durable V) (InstrumentRouter S)}

/-- The venue's stop after an adoption of a position. -/
theorem guarded_shows (hbook : StopBook ex stop)
    (hshown : stop w.disk.venue w.mem.instrumentId =
      snap.stop w.mem.instrumentId)
    (hplace : Placeable ex snap w.mem w.disk.venue)
    (hcomplies : Complies ex snap w.mem w.disk.venue)
    (hheld : (held snap w.mem.instrumentId).isSome) :
    (stop (guarded ex w.mem.instrumentId
      (stopDue snap w.mem.instrumentId w.mem.limits) w.disk.venue)
        w.mem.instrumentId).isSome := by
  obtain ⟨pos, hpos⟩ := Option.isSome_iff_exists.mp hheld
  have hid := (held_instrument hpos).1
  rw [stopDue, hpos]
  cases hstop : snap.stop w.mem.instrumentId with
  | some trigger =>
      show (stop w.disk.venue w.mem.instrumentId).isSome
      rw [hshown, hstop]
      rfl
  | none =>
      have hok := hcomplies.place pos hpos hstop (hplace pos hpos hstop).1
      rw [hid] at hok
      show (stop (ex.placeStop w.mem.instrumentId _ w.disk.venue).2
        w.mem.instrumentId).isSome
      rw [hbook.placed _ _ _ hok]
      rfl

theorem guarded_other (hbook : StopBook ex stop) {iid j : InstrumentId}
    (hj : j ≠ iid) {due : Option Decimal} {v : V} :
    stop (guarded ex iid due v) j = stop v j := by
  cases due with
  | none => rfl
  | some trigger => exact hbook.placeOther iid trigger v j hj

/-- Taking the exchange's position, where the venue complies. -/
theorem adoptAndSettle_matches (hbook : StopBook ex stop)
    (hpending : w.mem.state.pending = true)
    (hshown : stop w.disk.venue w.mem.instrumentId =
      snap.stop w.mem.instrumentId)
    (hplace : Placeable ex snap w.mem w.disk.venue)
    (hcomplies : Complies ex snap w.mem w.disk.venue) :
    Prog.wp (adoptAndSettle ex snap)
      (fun _ w' =>
        Matches stop snap w.mem.instrumentId w'.mem w'.disk.venue ∧
        ∀ j, j ≠ w.mem.instrumentId →
          stop w'.disk.venue j = stop w.disk.venue j)
      (fun _ _ => False) w := by
  unfold adoptAndSettle
  rw [Prog.wp_bind]
  refine Prog.wp_mono (adopt_returns hplace) (fun _ w₁ h₁ => ?_)
    fun _ _ hf => hf
  have hfrozen : ¬ w₁.mem.state.frozen = true := by
    rw [h₁.state]
    exact pending_not_frozen hpending
  have hsize : w₁.mem.size = snap.size w.mem.instrumentId :=
    h₁.size.trans held_size
  rw [Prog.wp_bind, settleState, Prog.wp_bind, Prog.wp_mem, if_neg hfrozen,
    wp_setState]
  generalize hw₂ : entered w₁ _ _ = w₂
  have hid₂ : w₂.mem.instrumentId = w.mem.instrumentId := by
    rw [← hw₂]
    exact h₁.instrumentId
  have hsize₂ : w₂.mem.size = snap.size w.mem.instrumentId := by
    rw [← hw₂]
    exact hsize
  have hentry₂ : w₂.mem.entry =
      (held snap w.mem.instrumentId).map PositionView.entryPrice := by
    rw [← hw₂]
    exact h₁.entry
  have hstate₂ : w₂.mem.state = if w₂.mem.size ≠ 0 then .opened else .flat := by
    rw [← hw₂]
    rfl
  have hvenue₂ : w₂.disk.venue = guarded ex w.mem.instrumentId
      (stopDue snap w.mem.instrumentId w.mem.limits) w.disk.venue := by
    rw [← hw₂]
    exact h₁.venue
  have hothers : ∀ j, j ≠ w.mem.instrumentId →
      stop w₂.disk.venue j = stop w.disk.venue j := by
    intro j hj
    rw [hvenue₂]
    exact guarded_other hbook hj
  clear hw₂
  rw [Prog.wp_bind, Prog.wp_mem, Prog.wp_ite]
  split
  · next hzero =>
    have hnone : held snap w.mem.instrumentId = none := by
      rw [← Option.not_isSome_iff_eq_none, held_isSome, not_not, ← hsize₂]
      exact hzero
    have hdue : stopDue snap w.mem.instrumentId w.mem.limits = none := by
      rw [stopDue, hnone]
      rfl
    have hv : w₂.disk.venue = w.disk.venue := by
      rw [hvenue₂, hdue]
      rfl
    have hok : (ex.cancelStop w₂.mem.instrumentId w₂.disk.venue).1 =
        .ok () := by
      rw [hid₂, hv]
      exact hcomplies.cancel hnone
    rw [Prog.wp_bind, Prog.wp_of_ok (Portfolio.call_ok hok)]
    refine ⟨⟨hsize₂, hentry₂, hstate₂, ?_⟩, fun j hj => ?_⟩
    · show (stop (ex.cancelStop w₂.mem.instrumentId w₂.disk.venue).2
        w.mem.instrumentId).isSome ↔ w₂.mem.size ≠ 0
      rw [← hid₂, hbook.cancelled _ _ hok, hzero]
      simp
    · show stop (ex.cancelStop w₂.mem.instrumentId w₂.disk.venue).2 j = _
      rw [hbook.cancelOther _ _ _ (by rw [hid₂]; exact hj)]
      exact hothers j hj
  · next hne =>
    have hheld : (held snap w.mem.instrumentId).isSome := by
      rw [held_isSome, ← hsize₂]
      exact hne
    refine ⟨⟨hsize₂, hentry₂, hstate₂, ?_⟩, hothers⟩
    rw [hvenue₂]
    exact iff_of_true
      (guarded_shows hbook hshown hplace hcomplies hheld) hne

/-- A router whose time is up. -/
theorem checkPending_matches (hbook : StopBook ex stop)
    (hlate : w.mem.Expired (ex.clock w.disk.venue))
    (hshown : stop w.disk.venue w.mem.instrumentId =
      snap.stop w.mem.instrumentId)
    (hplace : Placeable ex snap w.mem w.disk.venue)
    (hcomplies : Complies ex snap w.mem w.disk.venue) :
    Prog.wp (checkPending ex snap)
      (fun _ w' =>
        Matches stop snap w.mem.instrumentId w'.mem w'.disk.venue ∧
        ∀ j, j ≠ w.mem.instrumentId →
          stop w'.disk.venue j = stop w.disk.venue j)
      (fun _ _ => False) w := by
  obtain ⟨hpending, since, hsince, hover⟩ := hlate
  -- the alert and the order row change neither the router nor the venue
  have hadopt : ∀ w₁ : World (Durable V) (InstrumentRouter S),
      w₁.mem = w.mem → w₁.disk.venue = w.disk.venue →
      Prog.wp (adoptAndSettle ex snap)
        (fun _ w' =>
          Matches stop snap w.mem.instrumentId w'.mem w'.disk.venue ∧
          ∀ j, j ≠ w.mem.instrumentId →
            stop w'.disk.venue j = stop w.disk.venue j)
        (fun _ _ => False) w₁ := by
    intro w₁ hmem hvenue
    rw [← hmem] at hpending
    rw [← hmem, ← hvenue] at hshown hplace hcomplies ⊢
    exact adoptAndSettle_matches hbook hpending hshown hplace hcomplies
  unfold checkPending
  rw [Prog.wp_bind, Prog.wp_mem, Prog.wp_bind, wp_clock, hsince]
  dsimp only
  rw [if_neg (by simp [hpending]), if_neg (not_le.mpr hover), Prog.wp_bind,
    wp_alert]
  cases w.mem.pendingCid with
  | none => exact hadopt _ rfl rfl
  | some cid =>
      dsimp only
      rw [Prog.wp_bind, wp_updateOrder]
      exact hadopt _ updated_mem updated_venue

end Router

/-! ## The portfolio -/

namespace Portfolio

variable {iid : InstrumentId} {w w' : World (Durable V) (Portfolio S)}
  {d : Durable V} {pf : Portfolio S}
  {marks : List (InstrumentId × Decimal)}

/-- A router's turn in the pending loop. -/
structure TurnDone (stop : V → InstrumentId → Option Decimal)
    (snap : AccountSnapshot) (iid : InstrumentId) (now : DateTime)
    (w w' : World (Durable V) (Portfolio S)) : Prop where
  ids : w'.mem.ids = w.mem.ids
  others : ∀ j, j ≠ iid → w'.mem.router j = w.mem.router j ∧
    stop w'.disk.venue j = stop w.disk.venue j
  late : (w.mem.router iid).Expired now →
    Matches stop snap iid (w'.mem.router iid) w'.disk.venue
  waits : ¬ (w.mem.router iid).Expired now →
    w'.mem.router iid = w.mem.router iid

theorem turn_spec (hbook : StopBook ex stop)
    (hname : (w.mem.router iid).instrumentId = iid)
    (hshown : stop w.disk.venue iid = snap.stop iid)
    (hplace : (w.mem.router iid).Expired (ex.clock w.disk.venue) →
      Placeable ex snap (w.mem.router iid) w.disk.venue ∧
        Complies ex snap (w.mem.router iid) w.disk.venue) :
    Prog.wp (onRouter iid (checkPending ex snap))
      (fun _ w' => TurnDone stop snap iid (ex.clock w.disk.venue) w w')
      (fun _ _ => False) w := by
  rw [onRouter, Prog.wp_focus]
  by_cases hlate : (w.mem.router iid).Expired (ex.clock w.disk.venue)
  · obtain ⟨hp, hc⟩ := hplace hlate
    rw [← hname] at hshown
    have hwp : Prog.wp (checkPending ex snap) _ _ (seen w iid) :=
      checkPending_matches (w := seen w iid) hbook hlate hshown hp hc
    refine Prog.wp_mono hwp (fun _ w₁ h₁ => ?_) fun _ _ hf => hf
    obtain ⟨hmatches, hothers⟩ := h₁
    have hname' : (seen w iid).mem.instrumentId = iid := hname
    rw [hname'] at hmatches hothers
    refine ⟨rfl, fun j hj => ⟨setRouter_of_ne hj, hothers j hj⟩, fun _ => ?_,
      fun hn => absurd hlate hn⟩
    show Matches stop snap iid ((w.mem.setRouter iid w₁.mem).router iid)
      w₁.disk.venue
    rw [setRouter_self]
    exact hmatches
  · have hwaits : checkPending ex snap (seen w iid) = (.ok (), seen w iid) :=
      checkPending_waits hlate
    have hwp : Prog.wp (checkPending ex snap) (fun _ w' => w' = seen w iid)
        (fun _ _ => False) (seen w iid) := by
      rw [Prog.wp_of_ok hwaits]
    refine Prog.wp_mono hwp (fun _ w₁ h₁ => ?_) fun _ _ hf => hf
    subst h₁
    refine ⟨rfl, fun j hj => ⟨setRouter_of_ne hj, rfl⟩,
      fun h => absurd h hlate, fun _ => ?_⟩
    exact setRouter_self

/-- The calls of a tick's pending loop succeed. -/
def Obliging (ex : Executor V) (snap : AccountSnapshot) (d : Durable V)
    (pf : Portfolio S) : Prop :=
  ∀ j ∈ pf.ids, (pf.router j).Expired (turnClock ex j d pf) →
    Complies ex snap (pf.router j) (turnVenue ex j d pf)

/-- The tick once it has come to the instrument's router. -/
def afterTurn (ex : Executor V) (iid : InstrumentId) (d : Durable V)
    (pf : Portfolio S) : World (Durable V) (Portfolio S) :=
  ((call ex.snapshot >>= fun snap =>
    turnsBefore ex iid snap pf.ids >>= fun _ =>
      onRouter iid (checkPending ex snap) : Act V (Portfolio S) Unit)
        ⟨pf, d, []⟩).2

section Turns

variable (hbook : StopBook ex stop) (hnodup : pf.ids.Nodup)
  (hnames : ∀ j ∈ pf.ids, (pf.router j).instrumentId = j)
  (hsnap : (ex.snapshot d.venue).1 = .ok snap)
  (hplace : (Op.onFast marks).Stoppable ex d pf)
  (hcalls : Obliging ex snap d pf)

include hsnap in
/-- The world the tick comes to the router in. -/
theorem beforeTurn_eq {pre post : List InstrumentId}
    (hids : pf.ids = pre ++ iid :: post) (hpre : iid ∉ pre)
    (hret : (Prog.forEach pre fun j => onRouter j (checkPending ex snap))
      (called ⟨pf, d, []⟩ (ex.snapshot d.venue).2) = (.ok (), w)) :
    (call ex.snapshot >>= fun snap =>
      turnsBefore ex iid snap pf.ids : Act V (Portfolio S) Unit)
        ⟨pf, d, []⟩ = (.ok (), w) := by
  rw [Prog.bind_of_ok (call_ok hsnap), turnsBefore, hids, takeWhile_ne hpre,
    hret]

include hsnap hplace hcalls in
theorem turn_placeable {pre post : List InstrumentId}
    (hids : pf.ids = pre ++ iid :: post) (hpre : iid ∉ pre)
    (hret : (Prog.forEach pre fun j => onRouter j (checkPending ex snap))
      (called ⟨pf, d, []⟩ (ex.snapshot d.venue).2) = (.ok (), w))
    (hrouter : w.mem.router iid = pf.router iid)
    (hlate : (w.mem.router iid).Expired (ex.clock w.disk.venue)) :
    Placeable ex snap (w.mem.router iid) w.disk.venue ∧
      Complies ex snap (w.mem.router iid) w.disk.venue := by
  have hid : iid ∈ pf.ids := by
    rw [hids]
    simp
  have hturn := beforeTurn_eq hsnap hids hpre hret
  have hp := hplace snap hsnap iid hid
  have hc := hcalls iid hid
  unfold turnClock turnVenue at hp hc
  rw [hturn] at hp hc
  rw [hrouter] at hlate ⊢
  exact ⟨hp hlate, hc hlate⟩

include hbook hnames hsnap hplace hcalls in
/-- A turn, where the stop can be placed and the calls succeed. -/
theorem turn_return {pre post : List InstrumentId}
    (hids : pf.ids = pre ++ iid :: post) (hpre : iid ∉ pre)
    (hret : (Prog.forEach pre fun j => onRouter j (checkPending ex snap))
      (called ⟨pf, d, []⟩ (ex.snapshot d.venue).2) = (.ok (), w))
    (hrouter : w.mem.router iid = pf.router iid)
    (hshown : stop w.disk.venue iid = snap.stop iid) :
    ∃ w', onRouter iid (checkPending ex snap) w = (.ok (), w') ∧
      TurnDone stop snap iid (ex.clock w.disk.venue) w w' := by
  have hname : (w.mem.router iid).instrumentId = iid := by
    rw [hrouter]
    refine hnames iid ?_
    rw [hids]
    simp
  have hspec : Prog.wp (onRouter iid (checkPending ex snap))
      (fun _ w' => TurnDone stop snap iid (ex.clock w.disk.venue) w w')
      (fun _ _ => False) w :=
    turn_spec hbook hname hshown
      (turn_placeable hsnap hplace hcalls hids hpre hret hrouter)
  obtain ⟨⟨⟩, w', hret', hdone⟩ := Prog.wp_returns hspec fun _ _ hf => hf
  exact ⟨w', hret', hdone⟩

include hbook hnodup hnames hsnap hplace hcalls in
/-- The first turns of the pending loop: the other routers, and their stops,
are as they were. -/
theorem turns_return {pre post : List InstrumentId}
    (hids : pf.ids = pre ++ post) :
    ∃ w, (Prog.forEach pre fun j => onRouter j (checkPending ex snap))
        (called ⟨pf, d, []⟩ (ex.snapshot d.venue).2) = (.ok (), w) ∧
      w.mem.ids = pf.ids ∧ ∀ j ∈ post,
        w.mem.router j = pf.router j ∧
          stop w.disk.venue j = snap.stop j := by
  induction pre using List.reverseRecOn generalizing post with
  | nil =>
      refine ⟨_, rfl, rfl, fun j _ => ⟨rfl, ?_⟩⟩
      have h := hbook.snapshot d.venue snap hsnap j
      exact h.2.trans h.1.symm
  | append_singleton pre j ih =>
      have hids' : pf.ids = pre ++ j :: post := by
        rw [hids, List.append_assoc]
        rfl
      obtain ⟨w, hret, hw, hrest⟩ := ih hids'
      have hparts : (pre ++ j :: post).Nodup := hids' ▸ hnodup
      have hpre : j ∉ pre := fun h =>
        List.disjoint_of_nodup_append hparts h (by simp)
      have hpost : j ∉ post := by
        rw [List.nodup_append] at hparts
        exact (List.nodup_cons.mp hparts.2.1).1
      obtain ⟨hrouter, hshown⟩ := hrest j (by simp)
      obtain ⟨w', hret', hdone⟩ := turn_return hbook hnames hsnap hplace
        hcalls hids' hpre hret hrouter hshown
      refine ⟨w', ?_, hdone.ids.trans hw, fun k hk => ?_⟩
      · rw [Prog.forEach_append, Prog.bind_of_ok hret]
        show (onRouter j (checkPending ex snap) >>= fun _ => pure ()) w = _
        rw [Prog.bind_of_ok hret']
        rfl
      · have hkj : k ≠ j := by
          rintro rfl
          exact hpost hk
        obtain ⟨hr, hs⟩ := hdone.others k hkj
        obtain ⟨hr', hs'⟩ := hrest k (List.mem_cons_of_mem _ hk)
        exact ⟨hr.trans hr', hs.trans hs'⟩

/-- How a tick goes around one router: the world `w` it comes to it in, the
world `w'` it leaves it in, and what it does afterwards. -/
structure Around (ex : Executor V) (stop : V → InstrumentId → Option Decimal)
    (snap : AccountSnapshot) (iid : InstrumentId) (d : Durable V)
    (pf : Portfolio S) (marks : List (InstrumentId × Decimal))
    (w w' : World (Durable V) (Portfolio S)) : Prop where
  before : Timed ex iid ⟨pf, d, []⟩ w
  router : w.mem.router iid = pf.router iid
  turn : TurnDone stop snap iid (ex.clock w.disk.venue) w w'
  turned : Timed ex iid w w'
  after : Timed ex iid w' (perform ex (.onFast marks) ⟨pf, d, []⟩).2
  world : afterTurn ex iid d pf = w'

include hbook hnodup hnames hsnap hplace hcalls in
theorem onFast_around (hid : iid ∈ pf.ids) :
    ∃ w w', Around ex stop snap iid d pf marks w w' := by
  obtain ⟨pre, post, hids, hpre⟩ := List.eq_append_cons_of_mem hid
  obtain ⟨w, hret, hw, hrest⟩ :=
    turns_return hbook hnodup hnames hsnap hplace hcalls hids
  obtain ⟨hrouter, hshown⟩ := hrest iid (by simp)
  obtain ⟨w', hret', hdone⟩ := turn_return hbook hnames hsnap hplace hcalls
    hids hpre hret hrouter hshown
  have hpost : iid ∉ post := by
    rw [hids, List.nodup_append] at hnodup
    exact (List.nodup_cons.mp hnodup.2.1).1
  have hbefore : Timed ex iid (called ⟨pf, d, []⟩ (ex.snapshot d.venue).2)
      w := by
    have h : (Prog.forEach pre fun j => onRouter j (checkPending ex snap)).Steps
        (Timed (S := S) ex iid)
        (called ⟨pf, d, []⟩ (ex.snapshot d.venue).2) :=
      turns_timed hpre fun j hj => by
        show j ∈ pf.ids
        rw [hids]
        simp [hj]
    unfold Prog.Steps at h
    rw [hret] at h
    exact h
  have hrun : (perform ex (.onFast marks) ⟨pf, d, []⟩).2 =
      (((Prog.forEach post fun j => onRouter j (checkPending ex snap)) >>=
        fun _ => marksThen ex marks snap) w').2 := by
    have hloop : (forRouters fun j => onRouter j (checkPending ex snap))
        (called ⟨pf, d, []⟩ (ex.snapshot d.venue).2) =
          (Prog.forEach post fun j => onRouter j (checkPending ex snap)) w' := by
      rw [forRouters, Prog.mem_bind_apply]
      show (Prog.forEach pf.ids fun j => onRouter j (checkPending ex snap)) _ = _
      rw [hids, Prog.forEach_append, Prog.bind_of_ok hret]
      show (onRouter iid (checkPending ex snap) >>= fun _ => _) w = _
      rw [Prog.bind_of_ok hret']
    rw [perform, Prog.bind_pure_snd, onFast_eq, Prog.bind_of_ok (call_ok hsnap)]
    rcases hres : (forRouters fun j => onRouter j (checkPending ex snap))
      (called ⟨pf, d, []⟩ (ex.snapshot d.venue).2) with ⟨e | u, w₁⟩
    · rw [Prog.bind_of_error hres, Prog.bind_of_error (hloop.symm.trans hres)]
    · rw [Prog.bind_of_ok hres, Prog.bind_of_ok (hloop.symm.trans hres)]
  refine ⟨w, w', trans_of _ (passive_timed.venue _ _) hbefore, hrouter, hdone,
    ?_, ?_, ?_⟩
  · have hsteps : (onRouter iid (checkPending ex snap)).Steps
        (Timed ex iid) w := by
      refine onRouter_timed (by rw [hw]; exact hid) checkPending_moves
        fun _ => checkPending_clocks fun hlate => ?_
      exact (turn_placeable hsnap hplace hcalls hids hpre hret hrouter
        hlate).1
    unfold Prog.Steps at hsteps
    rw [hret'] at hsteps
    exact hsteps
  · rw [hrun]
    refine Prog.Steps.bind (R := Timed ex iid) (turns_timed hpost
      fun j hj => ?_) fun _ => ?_
    · rw [hdone.ids, hw, hids]
      simp [hj]
    · exact marks_rule passive_timed fun w j mark snap hj =>
        onRouter_timed hj onFast_moves fun _ => onFast_clocks
  · have hturn := beforeTurn_eq hsnap hids hpre hret
    have hcall := call_ok (w := (⟨pf, d, []⟩ : World (Durable V) (Portfolio S)))
      hsnap
    rw [Prog.bind_of_ok hcall] at hturn
    rw [afterTurn, Prog.bind_of_ok hcall, Prog.bind_of_ok hturn, hret']

end Turns

end Portfolio

namespace Site

variable {runId : String} {iid : InstrumentId} {s₀ : Site V S}
  {ds : List (Durable V)} {d : Durable V} {pf : Portfolio S}
  {marks : List (InstrumentId × Decimal)}

/-- **No router stays pending.** In every run whose adoptions can place their
stops, after a tick at `c` whose calls succeed, a router that waits entered
its state at most the timeout before `c`. One that the tick took out of its
wait is, when its turn ends, what the snapshot shows: open with a stop on the
venue, or flat without one. -/
theorem no_router_stays_pending {c : DateTime} (hbook : StopBook ex stop)
    (h₀ : s₀.process = none)
    (hrun : Run ex runId (Stoppable ex) s₀ ds ⟨d, some pf⟩)
    (htick : Stoppable ex (⟨d, some pf⟩ : Site V S)
      (.perform (.onFast marks)))
    (hsnap : (ex.snapshot d.venue).1 = .ok snap)
    (hcalls : Portfolio.Obliging ex snap d pf)
    (hclock : ∀ d' ∈ (operating ex d pf (.onFast marks)).moments,
      ex.clock d'.venue = c) (hid : iid ∈ pf.ids) :
    (((operating ex d pf (.onFast marks)).mem.router iid).state.pending =
        true →
      c - (stayOf ex runId iid
        (ds ++ (operating ex d pf (.onFast marks)).moments)).since ≤
          pendingTimeout) ∧
    ((pf.router iid).state.pending = true →
      ((Portfolio.afterTurn ex iid d pf).mem.router iid).state.pending =
        false →
      Matches stop snap iid ((Portfolio.afterTurn ex iid d pf).mem.router iid)
        (Portfolio.afterTurn ex iid d pf).disk.venue) := by
  have hs : Steady runId (⟨d, some pf⟩ : Site V S) :=
    hrun.steady (steady_of_none h₀)
  have hrunning := hs pf rfl
  have hnames : ∀ j ∈ pf.ids, (pf.router j).instrumentId = j :=
    fun j hj => (hrunning.router j hj).2.1
  obtain ⟨w, w', har⟩ := Portfolio.onFast_around hbook hrunning.ids hnames
    hsnap (htick pf _ rfl rfl) hcalls hid
  have hrunw : Portfolio.Timed ex iid ⟨pf, d, []⟩ w' :=
    trans_of _ har.before har.turned
  have hnames' : ∀ j ∈ w'.mem.ids, (w'.mem.router j).instrumentId = j := by
    intro j hj
    rw [hrunw.ids] at hj
    rw [hrunw.names]
    exact hnames j hj
  have hid' : iid ∈ w'.mem.ids := by
    rw [hrunw.ids]
    exact hid
  refine ⟨fun hp => ?_, fun hp hnp => ?_⟩
  swap
  · rw [har.world] at hnp ⊢
    by_cases hlate : (pf.router iid).Expired (ex.clock w.disk.venue)
    · exact har.turn.late (by rw [har.router]; exact hlate)
    · rw [har.turn.waits (by rw [har.router]; exact hlate), har.router,
        hp] at hnp
      cases hnp
  have hon : Clocked ex (stayOf ex runId iid ds)
      (seen ⟨pf, d, []⟩ iid) := hrun.onTime h₀ pf rfl iid hid
  have hmid := hrunw.clocks hnames hid _ hon
  have hend := har.after.clocks hnames' hid' _ hmid
  have hwhole : Portfolio.Timed ex iid ⟨pf, d, []⟩
      (operating ex d pf (.onFast marks)) := trans_of _ hrunw har.after
  obtain ⟨hrunId, hiid, -⟩ := hrunning.router iid hid
  have hlinked : ∀ w₁ : World (Durable V) (Portfolio S),
      Portfolio.Timed ex iid ⟨pf, d, []⟩ w₁ → Linked (seen w₁ iid) →
      w₁.disk.rowState runId iid = some (w₁.mem.router iid).state := by
    intro w₁ h₁ hl
    have hl' : w₁.disk.rowState (w₁.mem.router iid).runId
      (w₁.mem.router iid).instrumentId = _ := hl
    rw [h₁.runs, h₁.names, hrunId, hiid] at hl'
    exact hl'
  obtain ⟨later, hlater⟩ := har.after.chain.moments_prefix
  have hclock' : ∀ d' ∈ w'.moments ++ later, ex.clock d'.venue = c := by
    rw [hlater]
    exact hclock
  have hstay : stayOf ex runId iid
      (ds ++ (operating ex d pf (.onFast marks)).moments) =
      ((stayOf ex runId iid ds).through ex runId iid w'.moments).through ex
        runId iid later := by
    have hmoments : (operating ex d pf (.onFast marks)).moments =
        w'.moments ++ later := hlater.symm
    rw [hmoments, ← List.append_assoc, stayOf_append, stayOf_append]
  rw [hstay]
  have hthrough : ∀ y : Stay, y.through ex runId iid later = y ∨
      (y.through ex runId iid later).since = c := fun _ =>
    Stay.through_clock fun d' hd' => hclock' d' (List.mem_append_right _ hd')
  rcases hthrough ((stayOf ex runId iid ds).through ex runId iid w'.moments)
    with hsame | hnew
  swap
  · rw [hnew, sub_self]
    decide
  -- the state the router ends in is the one its turn left it in
  rw [hsame]
  have hkept : (w'.mem.router iid).state =
      ((operating ex d pf (.onFast marks)).mem.router iid).state := by
    have hstate := congrArg Stay.state hstay
    rw [hsame, Stay.through_moments, hlinked w' hrunw hmid.linked,
      stayOf_append, Stay.through_moments, hlinked _ hwhole hend.linked]
      at hstate
    exact (Option.some.inj hstate).symm
  rw [← hkept] at hp
  by_cases hlate : (w.mem.router iid).Expired (ex.clock w.disk.venue)
  · rw [(har.turn.late hlate).state] at hp
    revert hp
    split <;> nofun
  have hmem : w'.mem.router iid = w.mem.router iid := har.turn.waits hlate
  obtain ⟨since, hsince, hle⟩ := hmid.since hp
  have hle' : since ≤ ((stayOf ex runId iid ds).through ex
      (w'.mem.router iid).runId (w'.mem.router iid).instrumentId
        w'.moments).since := hle
  rw [hrunw.runs, hrunw.names, hrunId, hiid] at hle'
  have hnow : ex.clock w.disk.venue = c := by
    have hearlier : w.moments <+: w'.moments ++ later :=
      har.turned.chain.moments_prefix.trans (List.prefix_append _ _)
    exact hclock' w.disk (hearlier.subset (World.mem_moments_self w))
  have hwaited : c - since ≤ pendingTimeout := by
    rw [← hnow]
    refine not_lt.mp fun hover => hlate ⟨?_, since, ?_, hover⟩
    · rw [← hmem]
      exact hp
    · rw [← hmem]
      exact hsince
  exact (sub_le_sub_left hle' c).trans hwaited

/-! ### A stop that is refused once

A venue with a clock that holds one contract, keeps its stop, and at times
refuses to place one. The exit of an open router rests; when its time is up
the venue has lost the stop and does not take another. -/

section Refused

structure Desk where
  now : DateTime
  refuses : Bool
  stops : List (InstrumentId × Decimal)
  deriving DecidableEq

def deskStop (v : Desk) (iid : InstrumentId) : Option Decimal :=
  v.stops.lookup iid

def desk : Executor Desk where
  name := "live"
  submit req v := (.ok ⟨req.clientOrderId, none, .accepted, "", v.now⟩, v)
  cancel _ v := (.ok (), v)
  placeStop iid trigger v :=
    if v.refuses then (.error ⟨.executorTimeout, ""⟩, v)
    else (.ok (), { v with stops := KeyedTable.put iid trigger v.stops })
  cancelStop iid v :=
    (.ok (), { v with stops := v.stops.filter fun s => s.1 ≠ iid })
  snapshot v := (.ok { oneContract with stops := v.stops }, v)
  clock v := v.now

def heldDisk : Durable Desk where
  db := { Db.empty with
    positionsLocal := [⟨"run", 1, .opened, 1, some 100, some 85, 0, 0⟩] }
  venue := ⟨0, false, [(1, 85)]⟩
  submitted := []
  refusedDecisions := []

/-- The process that recovers from it. -/
@[irreducible] def keeper : World (Durable Desk) (Recovery Unit) :=
  (recovering desk heldDisk oneRouter).2

/-- That process after a bar on which it exits. -/
@[irreducible] def leaving : World (Durable Desk) (Portfolio Unit) :=
  operating desk keeper.disk keeper.mem.pf (.onBar [(1, [flatBar])] .run)

/-- The disk when the time of the exit is up. -/
@[irreducible] def unstopped : Durable Desk :=
  { leaving.disk with venue := ⟨40 * second, true, []⟩ }

/-- The process after a tick that cannot place the stop. -/
@[irreducible] def failedTick : World (Durable Desk) (Portfolio Unit) :=
  operating desk unstopped leaving.mem (.onFast [(1, 100)])

/-- The disk when the venue takes stops again. -/
@[irreducible] def stoppable : Durable Desk :=
  { failedTick.disk with venue := ⟨80 * second, false, []⟩ }

theorem keeper_step : Step desk "run" ⟨heldDisk, none⟩
    (.start oneRouter) keeper.moments ⟨keeper.disk, some keeper.mem.pf⟩ := by
  rw [keeper]
  exact .started oneRouter_started (by decide +kernel)

theorem leaving_step : Step desk "run" ⟨keeper.disk, some keeper.mem.pf⟩
    (.perform (.onBar [(1, [flatBar])] .run)) leaving.moments
    ⟨leaving.disk, some leaving.mem⟩ := by
  rw [leaving]
  exact .perform

theorem unstopped_step : Step desk "run" ⟨leaving.disk, some leaving.mem⟩
    (.venue ⟨40 * second, true, []⟩) [unstopped]
    ⟨unstopped, some leaving.mem⟩ := by
  rw [unstopped]
  exact .venue _

theorem failedTick_step : Step desk "run" ⟨unstopped, some leaving.mem⟩
    (.perform (.onFast [(1, 100)])) failedTick.moments
    ⟨failedTick.disk, some failedTick.mem⟩ := by
  rw [failedTick]
  exact .perform

theorem stoppable_step : Step desk "run"
    ⟨failedTick.disk, some failedTick.mem⟩
    (.venue ⟨80 * second, false, []⟩) [stoppable]
    ⟨stoppable, some failedTick.mem⟩ := by
  rw [stoppable]
  exact .venue _

theorem desk_stops : StopBook desk deskStop where
  snapshot := by
    rintro v snap ⟨⟩ iid
    exact ⟨rfl, rfl⟩
  placed := by
    intro iid trigger v h
    show deskStop (desk.placeStop iid trigger v).2 iid = _
    unfold desk at h ⊢
    dsimp only at h ⊢
    split at h
    · cases h
    · next hr =>
      rw [if_neg hr, deskStop, KeyedTable.lookup_put, if_pos rfl]
  placeOther := by
    intro iid trigger v j hj
    unfold desk
    dsimp only
    split
    · rfl
    · rw [deskStop, KeyedTable.lookup_put, if_neg hj]
      rfl
  cancelled := by
    intro iid v _
    exact KeyedTable.lookup_erase.trans (if_pos rfl)
  cancelOther := by
    intro iid v j hj
    exact KeyedTable.lookup_erase.trans (if_neg hj)

/-- The moments of the run. -/
@[irreducible] def deskMoments : List (Durable Desk) :=
  [heldDisk] ++ keeper.moments ++ leaving.moments ++ [unstopped] ++
    failedTick.moments ++ [stoppable]

theorem desk_facts :
    let w := operating desk stoppable failedTick.mem (.onFast [(1, 100)])
    1 ∈ failedTick.mem.ids ∧
      (failedTick.mem.router 1).pendingSince = none ∧
      (∀ d ∈ w.moments, desk.clock d.venue = 80 * second) ∧
      (w.mem.router 1).state = .exitPending ∧
      (stayOf desk "run" 1 (deskMoments ++ w.moments)).since = 0 := by
  decide +kernel

theorem desk_run : Run desk "run" anything ⟨heldDisk, none⟩ deskMoments
    ⟨stoppable, some failedTick.mem⟩ := by
  rw [deskMoments]
  exact .next (.next (.next (.next (.next .here trivial keeper_step) trivial
    leaving_step) trivial unstopped_step) trivial failedTick_step) trivial
    stoppable_step

/-- Eighty seconds after it sent its exit the router still waits for it, though
every call of the tick succeeds. -/
theorem refused_stays_pending : ¬ ∀ (s₀ : Site Desk Unit)
    (ds : List (Durable Desk)) (d : Durable Desk) (pf : Portfolio Unit)
    (marks : List (InstrumentId × Decimal)) (snap : AccountSnapshot)
    (iid : InstrumentId) (c : DateTime), s₀.process = none →
    Run desk "run" anything s₀ ds ⟨d, some pf⟩ →
    (desk.snapshot d.venue).1 = .ok snap →
    Portfolio.Obliging desk snap d pf →
    (∀ d' ∈ (operating desk d pf (.onFast marks)).moments,
      desk.clock d'.venue = c) → iid ∈ pf.ids →
    ((operating desk d pf (.onFast marks)).mem.router iid).state.pending =
      true →
    c - (stayOf desk "run" iid
      (ds ++ (operating desk d pf (.onFast marks)).moments)).since ≤
        pendingTimeout := by
  intro hall
  obtain ⟨hid, hsince, hclock, hstate, hstay⟩ := desk_facts
  have hcalls : Portfolio.Obliging desk { oneContract with stops := [] }
      stoppable failedTick.mem := by
    intro j hj hlate
    have hj' : j = 1 := by
      have hids : failedTick.mem.ids = [1] := by decide +kernel
      rw [hids] at hj
      simpa using hj
    subst hj'
    obtain ⟨-, since, h, -⟩ := hlate
    rw [hsince] at h
    cases h
  have hsnap : (desk.snapshot stoppable.venue).1 =
      .ok { oneContract with stops := [] } := by
    rw [stoppable]
    rfl
  have hover := hall _ _ _ _ [(1, 100)] _ 1 _ rfl desk_run hsnap hcalls hclock
    hid (by rw [hstate]; rfl)
  rw [hstay] at hover
  revert hover
  decide

/-- The disk when the time of the exit is up and the venue takes stops. -/
@[irreducible] def timeUp : Durable Desk :=
  { leaving.disk with venue := ⟨40 * second, false, []⟩ }

theorem timeUp_step : Step desk "run" ⟨leaving.disk, some leaving.mem⟩
    (.venue ⟨40 * second, false, []⟩) [timeUp]
    ⟨timeUp, some leaving.mem⟩ := by
  rw [timeUp]
  exact .venue _

/-- The desk takes the stop of the contract it holds. -/
theorem desk_placeable {v v' : Desk} {r : InstrumentRouter Unit}
    (hv : v.refuses = false) (hsnap : (desk.snapshot v').1 = .ok snap) :
    Placeable desk snap r v ∧ Complies desk snap r v := by
  have hok : ∀ iid trigger, (desk.placeStop iid trigger v).1 = .ok () := by
    intro iid trigger
    show (if v.refuses then _ else _ : Except Exc Unit × Desk).1 = _
    rw [hv]
    rfl
  refine ⟨fun pos hpos _ => ⟨?_, fun e he => ?_⟩, fun pos _ _ _ => hok _ _,
    fun _ => rfl⟩
  · have hmem : pos ∈ snap.positions :=
      List.mem_of_find?_eq_some (Option.filter_eq_some_iff.mp hpos).1
    obtain rfl := Except.ok.inj hsnap
    rw [List.mem_singleton.mp hmem]
    decide +kernel
  · rw [hok] at he
    cases he

theorem timeUp_facts :
    leaving.mem.ids = [1] ∧
      (Portfolio.turnVenue desk 1 timeUp leaving.mem).refuses = false ∧
      ∀ d ∈ (operating desk timeUp leaving.mem (.onFast [(1, 100)])).moments,
        desk.clock d.venue = 40 * second := by
  decide +kernel

theorem no_router_stays_pending_timeUp :
    let w := operating desk timeUp leaving.mem (.onFast [(1, 100)])
    ((w.mem.router 1).state.pending = true →
      40 * second - (stayOf desk "run" 1
        ([heldDisk] ++ keeper.moments ++ leaving.moments ++ [timeUp] ++
          w.moments)).since ≤ pendingTimeout) ∧
    ((leaving.mem.router 1).state.pending = true →
      ((Portfolio.afterTurn desk 1 timeUp leaving.mem).mem.router
        1).state.pending = false →
      Matches deskStop { oneContract with stops := [] } 1
        ((Portfolio.afterTurn desk 1 timeUp leaving.mem).mem.router 1)
        (Portfolio.afterTurn desk 1 timeUp leaving.mem).disk.venue) := by
  obtain ⟨hids, hrefuses, hclock⟩ := timeUp_facts
  have hone : ∀ j ∈ leaving.mem.ids, j = 1 := by
    intro j hj
    rw [hids] at hj
    simpa using hj
  have hrun : Run desk "run" (Stoppable desk) ⟨heldDisk, none⟩
      ([heldDisk] ++ keeper.moments ++ leaving.moments ++ [timeUp])
      ⟨timeUp, some leaving.mem⟩ :=
    .next (.next (.next .here (by rintro pf op ⟨⟩) keeper_step)
      (by rintro pf op ⟨⟩ ⟨⟩; trivial) leaving_step)
      (by rintro pf op ⟨⟩ ⟨⟩) timeUp_step
  have hsnap : (desk.snapshot timeUp.venue).1 =
      .ok { oneContract with stops := [] } := by
    rw [timeUp]
    rfl
  refine no_router_stays_pending desk_stops rfl hrun ?_ hsnap ?_ hclock
    (by rw [hids]; simp)
  · rintro pf op ⟨⟩ ⟨⟩ snap hsnap j hj -
    obtain rfl := hone j hj
    exact (desk_placeable hrefuses hsnap).1
  · intro j hj _
    obtain rfl := hone j hj
    exact (desk_placeable hrefuses hsnap).2

end Refused

end Site

end Polyperps
