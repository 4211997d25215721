import Polyperps.Proofs.AnyOrder
import Polyperps.Proofs.HaltSurvives

/-!
# A tick in a liquidation

What one tick of the fast loop does to one router. In the pending loop a
router whose timer has expired leaves its pending state and any other is left
alone; in the loop over the marks an open router that holds a position is
frozen, and a router in any other state is left alone. So the tick catches a
holding router that is open, frozen already, or out of time. One that still
waits for its order keeps what it holds and is not frozen, and the fill of
that order brings it back to `FLAT` or `OPEN`.
-/

namespace Polyperps

open ProgramLogic InstrumentRouter

variable {V S : Type} {ex : Executor V}

/-- The order the router waits for has run out of time at `now`. -/
def InstrumentRouter.Expired (now : DateTime) (r : InstrumentRouter S) : Prop :=
  r.state.pending = true ∧
    ∃ since, r.pendingSince = some since ∧ pendingTimeout < now - since

/-- A tick in a liquidation at `now` leaves the router frozen if it holds: it
holds nothing, is open or frozen, or the pending loop takes it out of its
state. -/
def InstrumentRouter.Caught (now : DateTime) (r : InstrumentRouter S) : Prop :=
  r.size = 0 ∨ r.state = .opened ∨ r.state.frozen = true ∨ r.Expired now

/-! ## The router -/

section Router

variable {w : World (Durable V) (InstrumentRouter S)} {snap : AccountSnapshot}

/-- A router that waits for nothing, or not for too long, is left alone. -/
theorem checkPending_waits
    (h : ¬ w.mem.Expired (ex.clock w.disk.venue)) :
    checkPending ex snap w = (.ok (), w) := by
  have hwp : Prog.wp (checkPending ex snap) (fun _ w' => w' = w)
      (fun _ _ => False) w := by
    unfold checkPending
    rw [Prog.wp_bind, Prog.wp_mem, Prog.wp_bind, wp_clock]
    split
    · rfl
    next since hsince =>
    rw [Prog.wp_ite]
    split
    · rfl
    next hpending =>
    rw [Prog.wp_ite]
    split
    · rfl
    next hlate =>
    refine absurd ⟨by simpa using hpending, since, hsince, ?_⟩ h
    exact not_le.mp hlate
  obtain ⟨⟨⟩, w', hret, rfl⟩ := Prog.wp_returns hwp fun _ _ hf => hf
  exact hret

/-- Taking the exchange's position leaves the state that goes with it. -/
theorem adoptAndSettle_settles (h : w.mem.state.frozen = false) :
    Prog.wp (adoptAndSettle ex snap)
      (fun _ w' => w'.mem.state = if w'.mem.size ≠ 0 then .opened else .flat)
      (fun _ _ => True) w := by
  unfold adoptAndSettle
  rw [Prog.wp_bind]
  refine Prog.wp_mono (Prog.Steps.wp (adopt_moves (g := idle)))
    (fun _ w₁ h₁ => ?_) fun _ _ _ => trivial
  have hfrozen : ¬ w₁.mem.state.frozen = true := by
    rw [Moves.state_idle h₁, h]
    nofun
  rw [Prog.wp_bind, settleState, Prog.wp_bind, Prog.wp_mem, if_neg hfrozen,
    wp_setState]
  generalize hw₂ : entered w₁ _ _ = w₂
  have hstate : w₂.mem.state = if w₂.mem.size ≠ 0 then .opened else .flat := by
    rw [← hw₂]
    rfl
  rw [Prog.wp_bind, Prog.wp_mem, Prog.wp_ite]
  split
  · rw [Prog.wp_bind, wp_call]
    split
    · exact hstate
    · trivial
  · exact hstate

/-- A router out of time leaves its pending state. -/
theorem checkPending_settles (h : w.mem.Expired (ex.clock w.disk.venue)) :
    Prog.wp (checkPending ex snap)
      (fun _ w' => w'.mem.state = if w'.mem.size ≠ 0 then .opened else .flat)
      (fun _ _ => True) w := by
  obtain ⟨hpending, since, hsince, hlate⟩ := h
  have hfrozen : w.mem.state.frozen = false :=
    Bool.not_eq_true _ ▸ pending_not_frozen hpending
  unfold checkPending
  rw [Prog.wp_bind, Prog.wp_mem, Prog.wp_bind, wp_clock, hsince]
  dsimp only
  rw [if_neg (by simp [hpending]), if_neg (not_le.mpr hlate), Prog.wp_bind,
    wp_alert]
  cases w.mem.pendingCid with
  | none => exact adoptAndSettle_settles hfrozen
  | some cid =>
      dsimp only
      rw [Prog.wp_bind, wp_updateOrder]
      refine adoptAndSettle_settles ?_
      rw [updated_mem]
      exact hfrozen

/-- Handling an answer leaves the size. -/
theorem acknowledge_size {cid : ClientOrderId} {prior : State}
    {intent : Intent} {ack : Option OrderAck} :
    Prog.wp (acknowledge ex cid prior intent ack)
      (fun _ w' => w'.mem.size = w.mem.size) (fun _ _ => True) w := by
  unfold acknowledge
  split
  · rw [Prog.wp_bind, wp_updateOrder, halt, Prog.wp_bind, Prog.wp_mem,
      Prog.wp_ite]
    split
    · rw [Prog.wp_pure, updated_mem]
    · simp [entered]
  split
  · simp [entered]
  · rw [wp_updateOrder, updated_mem]

/-- A send keeps the size, or freezes. -/
theorem send_size {intent : Intent} {target : Option Decimal}
    {verdicts : List (String × String)} :
    Prog.wp (send ex intent target verdicts)
      (fun _ w' => w'.mem.size = w.mem.size ∨ w'.mem.state.frozen = true)
      (fun _ _ => True) w := by
  unfold send
  rw [Prog.wp_bind, Prog.wp_mem, Prog.wp_bind]
  rcases announce_cases ex intent target verdicts w with hok | ⟨herr, -⟩
  swap
  · rw [Prog.wp_of_error herr]
    trivial
  have hwait : intent.waiting.pending = true := by
    unfold Intent.waiting
    split <;> rfl
  rw [Prog.wp_of_ok hok, Prog.wp_bind, Prog.wp_attempt]
  refine Prog.wp_mono submitWithRecovery_unmoved (fun ack w₁ h₁ => ?_)
    fun e w₁ h₁ => ?_
  · refine Prog.wp_mono acknowledge_size (fun _ w₂ h₂ => Or.inl ?_)
      fun _ _ _ => trivial
    rw [h₂, h₁.mem]
    rfl
  · have hpending : w₁.mem.state.pending = true := by
      rw [h₁.mem]
      exact hwait
    have hhalted : Prog.wp (submitFailed ex (nextCid w.mem) e)
        (fun _ w' => w'.mem.state = .halted)
        (fun _ w' => w'.mem.state = .halted) w₁ :=
      Prog.wp_state.mpr (submitFailed_halted hpending)
    refine Prog.wp_mono hhalted (fun _ w₂ h₂ => Or.inr ?_) fun _ _ _ => trivial
    rw [h₂]
    rfl

theorem watchMargin_size {pos : PositionView} {mark : Decimal} :
    Prog.wp (watchMargin ex pos mark)
      (fun _ w' => w'.mem.size = w.mem.size) (fun _ _ => True) w := by
  unfold watchMargin
  split
  · rfl
  rw [Prog.wp_bind]
  cases divide _ mark with
  | error e => trivial
  | ok distance =>
    rw [Prog.wp_ofExcept_ok, Prog.wp_bind, Prog.wp_mem, Prog.wp_bind, wp_clock]
    dsimp only
    split
    · rw [Prog.wp_ite]
      split
      · rw [Prog.wp_bind, wp_emit, Prog.wp_modifyMem]
        rfl
      · rfl
    · rfl

/-- In a liquidation the fast loop freezes an open router that holds. -/
theorem onFast_freezes {mark : Decimal} (hliq : snap.inLiquidation = true)
    (h : w.mem.size ≠ 0 →
      w.mem.state.frozen = true ∨ w.mem.state = .opened) :
    Prog.wp (onFast ex mark snap)
      (fun _ w' => w'.mem.size ≠ 0 → w'.mem.state.frozen = true)
      (fun _ _ => True) w := by
  unfold onFast
  rw [Prog.wp_bind, Prog.wp_mem, Prog.wp_ite]
  split
  · next hst =>
    intro hne
    exact (h hne).resolve_right hst
  rw [Prog.wp_ite]
  split
  · rw [Prog.wp_bind, wp_alert, wp_setState]
    exact fun _ => rfl
  next hsize =>
  -- an open router that holds nothing may exit, and holds nothing after it
  have hzero : w.mem.size = 0 := by simpa [hliq] using hsize
  have hexit : ∀ (w₁ : World (Durable V) (InstrumentRouter S)) reason,
      w₁.mem.size = w.mem.size →
      Prog.wp (exit ex mark reason none w.mem.size)
        (fun _ w' => w'.mem.size ≠ 0 → w'.mem.state.frozen = true)
        (fun _ _ => True) w₁ := by
    intro w₁ reason h₁
    unfold exit
    rw [Prog.wp_bind, Prog.wp_mem]
    refine Prog.wp_mono send_size (fun _ w₂ h₂ hne => ?_) fun _ _ _ => trivial
    refine h₂.resolve_left fun hkept => hne ?_
    rw [hkept, h₁, hzero]
  split
  · exact fun hne => absurd hzero hne
  rw [Prog.wp_bind]
  refine Prog.wp_mono watchMargin_size (fun _ w₁ h₁ => ?_) fun _ _ _ => trivial
  rw [Prog.wp_bind]
  cases checkOpen _ mark w.mem.limits with
  | error e => trivial
  | ok flatten =>
    rw [Prog.wp_ofExcept_ok, Prog.wp_ite]
    split
    · exact hexit w₁ _ h₁
    rw [Prog.wp_ite]
    split
    · exact hexit w₁ _ h₁
    · intro hne
      rw [h₁] at hne
      exact absurd hzero hne

/-- The fast loop looks at open routers only. -/
theorem onFast_passes {mark : Decimal} (h : w.mem.state ≠ .opened) :
    onFast ex mark snap w = (.ok (), w) := by
  unfold onFast
  rw [Prog.mem_bind_apply, if_pos h]
  rfl

end Router

/-! ## The portfolio -/

namespace Portfolio

variable {iid : InstrumentId} {w : World (Durable V) (Portfolio S)}
  {snap : AccountSnapshot}

/-- The routers the portfolio has, and one of them. -/
def Has (ids : List InstrumentId) (iid : InstrumentId) (r : InstrumentRouter S)
    (w : World (Durable V) (Portfolio S)) : Prop :=
  w.mem.ids = ids ∧ w.mem.router iid = r

variable {ids : List InstrumentId} {r : InstrumentRouter S}

/-- A router's method changes no other router. -/
theorem onRouter_other {α : Type} {j : InstrumentId}
    {m : Act V (InstrumentRouter S) α} (hj : j ≠ iid) (h : Has ids iid r w) :
    Prog.wp (onRouter j m) (fun _ w' => Has ids iid r w')
      (fun _ _ => True) w := by
  have hstate : Has ids iid r (onRouter j m w).2 := by
    refine ⟨h.1, ?_⟩
    exact (setRouter_of_ne hj.symm).trans h.2
  exact Prog.wp_mono (Prog.wp_state.mpr hstate) (fun _ _ h => h)
    fun _ _ _ => trivial

/-- The turns of the pending loop before the instrument's. -/
def turnsBefore (ex : Executor V) (iid : InstrumentId) (snap : AccountSnapshot)
    (ids : List InstrumentId) : Act V (Portfolio S) Unit :=
  Prog.forEach (ids.takeWhile (· ≠ iid)) fun j =>
    onRouter j (checkPending ex snap)

/-- The routers before the instrument's. -/
theorem takeWhile_ne {pre post : List InstrumentId} (h : iid ∉ pre) :
    (pre ++ iid :: post).takeWhile (· ≠ iid) = pre := by
  rw [List.takeWhile_append_of_pos]
  · simp
  · intro j hj
    have hne : j ≠ iid := by
      rintro rfl
      exact h hj
    simpa using hne

/-- What the clock reads when a tick comes to the instrument's router. -/
def turnClock (ex : Executor V) (iid : InstrumentId) (d : Durable V)
    (pf : Portfolio S) : DateTime :=
  ex.clock ((call ex.snapshot >>= fun snap =>
    turnsBefore ex iid snap pf.ids : Act V (Portfolio S) Unit)
      ⟨pf, d, []⟩).2.disk.venue

/-- The turns of others leave the router. -/
theorem turns_other {js : List InstrumentId} (hjs : iid ∉ js)
    (h : Has ids iid r w) :
    Prog.wp (Prog.forEach js fun j => onRouter j (checkPending ex snap))
      (fun _ w' => Has ids iid r w') (fun _ _ => True) w := by
  refine Prog.wp_forEach_mem (Has ids iid r) (fun j hj w₁ h₁ => ?_) h
  refine onRouter_other ?_ h₁
  rintro rfl
  exact hjs hj

/-- A router's own turn. -/
theorem onRouter_self {m : Act V (InstrumentRouter S) Unit}
    {Q : InstrumentRouter S → Prop} (h : w.mem.ids = ids)
    (hm : Prog.wp m (fun _ w' => Q w'.mem) (fun _ _ => True) (seen w iid)) :
    Prog.wp (onRouter iid m)
      (fun _ w' => w'.mem.ids = ids ∧ Q (w'.mem.router iid))
      (fun _ _ => True) w := by
  rw [onRouter, Prog.wp_focus]
  refine Prog.wp_mono hm (fun _ w₁ h₁ => ⟨h, ?_⟩) fun _ _ _ => trivial
  rw [setRouter_self]
  exact h₁

/-- The router after the pending loop. -/
structure Checked (now : DateTime) (r r' : InstrumentRouter S) : Prop where
  late : r.Expired now →
    r'.state = if r'.size ≠ 0 then .opened else .flat
  waits : ¬ r.Expired now → r' = r

theorem checkPending_checked (w : World (Durable V) (InstrumentRouter S)) :
    Prog.wp (checkPending ex snap)
      (fun _ w' => Checked (ex.clock w.disk.venue) w.mem w'.mem)
      (fun _ _ => True) w := by
  by_cases h : w.mem.Expired (ex.clock w.disk.venue)
  · exact Prog.wp_mono (checkPending_settles h)
      (fun _ _ hs => ⟨fun _ => hs, fun hn => absurd h hn⟩) fun _ _ _ => trivial
  · rw [Prog.wp_of_ok (checkPending_waits h)]
    exact ⟨fun he => absurd he h, fun _ => rfl⟩

/-- The pending loop comes to each router once. -/
theorem pendingLoop_checked (hnodup : w.mem.ids.Nodup) (hid : iid ∈ w.mem.ids) :
    Prog.wp (forRouters fun j => onRouter j (checkPending ex snap))
      (fun _ w' => w'.mem.ids = w.mem.ids ∧
        Checked (ex.clock (turnsBefore ex iid snap w.mem.ids w).2.disk.venue)
          (w.mem.router iid) (w'.mem.router iid))
      (fun _ _ => True) w := by
  obtain ⟨pre, post, hsplit, hpre⟩ := List.eq_append_cons_of_mem hid
  have hpost : iid ∉ post := by
    rw [hsplit, List.nodup_append] at hnodup
    exact (List.nodup_cons.mp hnodup.2.1).1
  have hbefore : w.mem.ids.takeWhile (· ≠ iid) = pre := by
    rw [hsplit, takeWhile_ne hpre]
  have hloop : (Prog.forEach w.mem.ids fun j =>
        onRouter j (checkPending ex snap) : Act V (Portfolio S) Unit) =
      Prog.forEach pre (fun j => onRouter j (checkPending ex snap)) >>=
        fun _ => Prog.forEach (iid :: post) fun j =>
          onRouter j (checkPending ex snap) := by
    rw [hsplit, Prog.forEach_append]
  rw [forRouters, Prog.wp_bind, Prog.wp_mem, turnsBefore, hbefore, hloop]
  generalize hw₁ : (Prog.forEach pre fun j =>
    onRouter j (checkPending ex snap)) w = x
  rw [Prog.wp_bind]
  have hstate : Prog.wp (Prog.forEach pre fun j =>
      onRouter j (checkPending ex snap)) (fun _ w' => w' = x.2)
      (fun _ w' => w' = x.2) w :=
    Prog.wp_state.mpr (by rw [hw₁])
  refine Prog.wp_mono (Prog.wp_and hstate (turns_other hpre ⟨rfl, rfl⟩))
    (fun _ w₁ h₁ => ?_) fun _ _ _ => trivial
  obtain ⟨rfl, hids, hr⟩ := h₁
  rw [Prog.forEach, Prog.wp_bind]
  refine Prog.wp_mono (onRouter_self hids (checkPending_checked _))
    (fun _ w₂ h₂ => ?_) fun _ _ _ => trivial
  refine Prog.wp_mono (turns_other hpost ⟨h₂.1, rfl⟩) (fun _ w₃ h₃ => ?_)
    fun _ _ _ => trivial
  obtain ⟨hids₃, hr₃⟩ := h₃
  refine ⟨hids₃, ?_⟩
  rw [hr₃, ← hr]
  exact h₂.2

/-! ### The marks -/

/-- One turn of the loop over the marks. -/
def marksTurn (ex : Executor V) (snap : AccountSnapshot) :
    InstrumentId × Decimal → Act V (Portfolio S) Unit := fun (j, mark) => do
  let pf ← Prog.mem
  if j ∈ pf.ids then onRouter j (InstrumentRouter.onFast ex mark snap)
  else pure ()

theorem marksTurn_other {jm : InstrumentId × Decimal} (hj : jm.1 ≠ iid)
    (h : Has ids iid r w) :
    Prog.wp (marksTurn ex snap jm) (fun _ w' => Has ids iid r w')
      (fun _ _ => True) w := by
  obtain ⟨j, mark⟩ := jm
  rw [marksTurn, Prog.wp_bind, Prog.wp_mem, Prog.wp_ite]
  split
  · exact onRouter_other hj h
  · exact h

theorem marksTurn_self {mark : Decimal} {Q : InstrumentRouter S → Prop}
    (hid : iid ∈ ids) (h : w.mem.ids = ids)
    (hm : Prog.wp (InstrumentRouter.onFast ex mark snap)
      (fun _ w' => Q w'.mem) (fun _ _ => True) (seen w iid)) :
    Prog.wp (marksTurn ex snap (iid, mark))
      (fun _ w' => w'.mem.ids = ids ∧ Q (w'.mem.router iid))
      (fun _ _ => True) w := by
  rw [marksTurn, Prog.wp_bind, Prog.wp_mem, if_pos (by rw [h]; exact hid)]
  exact onRouter_self h hm

/-- A router that is not open goes through the marks as it is. -/
theorem marks_pass {marks : List (InstrumentId × Decimal)} (hid : iid ∈ ids)
    (hst : r.state ≠ .opened) (h : Has ids iid r w) :
    Prog.wp (Prog.forEach marks (marksTurn ex snap))
      (fun _ w' => Has ids iid r w') (fun _ _ => True) w := by
  refine Prog.wp_forEach_mem (Has ids iid r) (fun jm _ w₁ h₁ => ?_) h
  by_cases hj : jm.1 = iid
  · obtain ⟨j, mark⟩ := jm
    obtain rfl : j = iid := hj
    refine marksTurn_self (Q := fun r' => r' = r) hid h₁.1 ?_
    rw [Prog.wp_of_ok (onFast_passes (by rw [seen, h₁.2]; exact hst))]
    exact h₁.2
  · exact marksTurn_other hj h₁

/-- In a liquidation an open router that holds and has a mark is frozen. -/
theorem marks_freeze {marks : List (InstrumentId × Decimal)} (hid : iid ∈ ids)
    (hliq : snap.inLiquidation = true) (hmark : iid ∈ marks.map Prod.fst)
    (hids : w.mem.ids = ids)
    (h : (w.mem.router iid).size ≠ 0 →
      (w.mem.router iid).state.frozen = true ∨
        (w.mem.router iid).state = .opened) :
    Prog.wp (Prog.forEach marks (marksTurn ex snap))
      (fun _ w' => (w'.mem.router iid).size ≠ 0 →
        (w'.mem.router iid).state.frozen = true) (fun _ _ => True) w := by
  -- until the instrument's own turn the router may be open
  let I (rest : List (InstrumentId × Decimal))
      (w : World (Durable V) (Portfolio S)) : Prop :=
    w.mem.ids = ids ∧ ((w.mem.router iid).size ≠ 0 →
      (w.mem.router iid).state.frozen = true ∨
        ((w.mem.router iid).state = .opened ∧ iid ∈ rest.map Prod.fst))
  have hstart : I marks w := ⟨hids, fun hne => (h hne).imp_right (⟨·, hmark⟩)⟩
  refine Prog.wp_mono (Prog.wp_forEach I (fun jm rest w₁ h₁ => ?_) hstart)
    (fun _ w₁ h₁ hne => ?_) fun _ _ h => h
  · obtain ⟨j, mark⟩ := jm
    by_cases hj : j = iid
    · subst hj
      have hopen : (seen w₁ j).mem.size ≠ 0 →
          (seen w₁ j).mem.state.frozen = true ∨
            (seen w₁ j).mem.state = .opened :=
        fun hne => (h₁.2 hne).imp_right And.left
      refine Prog.wp_mono (marksTurn_self hid h₁.1
        (Q := fun r => r.size ≠ 0 → r.state.frozen = true)
        (onFast_freezes hliq hopen)) (fun _ w₂ h₂ => ?_) fun _ _ h => h
      exact ⟨h₂.1, fun hne => Or.inl (h₂.2 hne)⟩
    · refine Prog.wp_mono (marksTurn_other hj ⟨h₁.1, rfl⟩) (fun _ w₂ h₂ => ?_)
        fun _ _ h => h
      refine ⟨h₂.1, fun hne => ?_⟩
      rw [h₂.2] at hne ⊢
      refine (h₁.2 hne).imp_right fun ho => ⟨ho.1, ?_⟩
      exact (List.mem_cons.mp ho.2).resolve_left (Ne.symm hj)
  · exact (h₁.2 hne).resolve_right fun ho => List.not_mem_nil ho.2

theorem watchPnl_router {snap : AccountSnapshot} (iid : InstrumentId) :
    (watchPnl snap w).2.mem.router iid = w.mem.router iid := by
  let P (w' : World (Durable V) (Portfolio S)) :=
    w'.mem.router iid = w.mem.router iid
  refine (Prog.wp_state (P := P)).mp ?_
  unfold watchPnl
  rw [Prog.wp_bind, Prog.wp_mem]
  split
  · rfl
  dsimp only
  split
  · rw [Prog.wp_ite]
    split <;> rfl
  · rfl

/-! ### The tick -/

theorem onFast_caught {marks : List (InstrumentId × Decimal)}
    {d : Durable V} {pf : Portfolio S} (hnodup : pf.ids.Nodup)
    (hid : iid ∈ pf.ids) (hmark : iid ∈ marks.map Prod.fst) :
    Prog.wp (Portfolio.onFast ex marks)
      (fun snap w' => snap.inLiquidation = true →
        (((w'.mem.router iid).size ≠ 0 →
            (w'.mem.router iid).state.frozen = true) ↔
          (pf.router iid).Caught (turnClock ex iid d pf)))
      (fun _ _ => True) ⟨pf, d, []⟩ := by
  generalize hnow : turnClock ex iid d pf = now
  rw [turnClock] at hnow
  unfold Portfolio.onFast
  rw [Prog.wp_bind]
  rcases call_cases ex.snapshot (⟨pf, d, []⟩ : World (Durable V) (Portfolio S))
    with ⟨snap, -, hcall⟩ | ⟨e, hcall⟩
  swap
  · rw [Prog.wp_of_error hcall]
    trivial
  rw [Prog.bind_of_ok hcall] at hnow
  rw [Prog.wp_of_ok hcall, Prog.wp_bind]
  refine Prog.wp_mono (pendingLoop_checked hnodup hid) (fun _ w₁ h₁ => ?_)
    fun _ _ h => h
  obtain ⟨hids, hcheck⟩ := h₁
  rw [called_mem, hnow] at hcheck
  rw [Prog.wp_bind]
  show Prog.wp (Prog.forEach marks (marksTurn ex snap)) _ _ _
  -- what is left of the tick keeps the router
  have hrest : ∀ w₂ : World (Durable V) (Portfolio S),
      (snap.inLiquidation = true → (((w₂.mem.router iid).size ≠ 0 →
        (w₂.mem.router iid).state.frozen = true) ↔
          (pf.router iid).Caught now)) →
      Prog.wp (watchPnl snap >>= fun _ => pure snap)
        (fun snap w' => snap.inLiquidation = true →
          (((w'.mem.router iid).size ≠ 0 →
              (w'.mem.router iid).state.frozen = true) ↔
            (pf.router iid).Caught now))
        (fun _ _ => True) w₂ := by
    intro w₂ h₂
    have hkept : Prog.wp (watchPnl snap)
        (fun _ w' => w'.mem.router iid = w₂.mem.router iid)
        (fun _ w' => w'.mem.router iid = w₂.mem.router iid) w₂ :=
      Prog.wp_state.mpr (watchPnl_router iid)
    rw [Prog.wp_bind]
    refine Prog.wp_mono hkept (fun _ w₃ h₃ => ?_) fun _ _ _ => trivial
    rw [Prog.wp_pure, h₃]
    exact h₂
  by_cases hcaught : (pf.router iid).Caught now
  · by_cases hliq : snap.inLiquidation = true
    swap
    · refine Prog.wp_mono (Prog.wp_state.mpr trivial) (fun _ w₂ _ => ?_)
        fun _ _ h => h
      exact hrest w₂ fun h => absurd h hliq
    have hopen : (w₁.mem.router iid).size ≠ 0 →
        (w₁.mem.router iid).state.frozen = true ∨
          (w₁.mem.router iid).state = .opened := by
      intro hne
      by_cases hlate : (pf.router iid).Expired now
      · right
        rw [hcheck.late hlate, if_pos hne]
      · rw [hcheck.waits hlate] at hne ⊢
        rcases hcaught with h | h | h | h
        · exact absurd h hne
        · exact Or.inr h
        · exact Or.inl h
        · exact absurd h hlate
    refine Prog.wp_mono (marks_freeze hid hliq hmark hids hopen)
      (fun _ w₂ h₂ => ?_) fun _ _ h => h
    exact hrest w₂ fun _ => ⟨fun _ => hcaught, fun _ => h₂⟩
  · obtain ⟨hsize, hstate, hfrozen, hlate⟩ : (pf.router iid).size ≠ 0 ∧
        (pf.router iid).state ≠ .opened ∧
        ¬ (pf.router iid).state.frozen = true ∧
        ¬ (pf.router iid).Expired now := by
      simpa only [InstrumentRouter.Caught, not_or] using hcaught
    refine Prog.wp_mono (marks_pass hid hstate ⟨hids, hcheck.waits hlate⟩)
      (fun _ w₂ h₂ => ?_) fun _ _ h => h
    refine hrest w₂ fun _ => ⟨fun h => ?_, fun h => absurd h hcaught⟩
    rw [h₂.2] at h
    exact absurd (h hsize) hfrozen

end Portfolio

namespace Site

variable {runId : String} {iid : InstrumentId} {s₀ s t : Site V S}
  {ds es : List (Durable V)} {d : Durable V} {pf : Portfolio S}

/-- If the instrument's router holds a position it is frozen, and until the
operator clears it nothing but reduce-only orders is submitted for it. -/
def FrozenForGood (ex : Executor V) (runId : String) (iid : InstrumentId)
    (s : Site V S) : Prop :=
  ∀ pf, s.process = some pf → (pf.router iid).size ≠ 0 →
    (pf.router iid).state.frozen = true ∧
      ∀ es t, Run ex runId (fun _ h => KeepsHalt iid h ∧ Whole h) s es t →
        Since (fun x => x.request.instrumentId = iid →
          x.request.reduceOnly = true) s.disk t.disk

/-- A frozen router only reduces from then on. -/
theorem Steady.reduces (hs : Steady runId s) (hpf : s.process = some pf)
    (hid : iid ∈ pf.ids) (hf : (pf.router iid).state.frozen = true)
    (hrun : Run ex runId (fun _ h => KeepsHalt iid h ∧ Whole h) s es t) :
    Since (fun x => x.request.instrumentId = iid →
      x.request.reduceOnly = true) s.disk t.disk := by
  have hrow := ((hs pf hpf).router iid hid).2.2
  have hkeeps : Keeps (fun _ x => x.request.reduceOnly = true) runId iid
      s.disk t.disk :=
    hrun.keeps hs (fun hs hmay hstep d hd =>
      (hstep.keeps_whole hs hmay.1 hmay.2 d hd).mono fun _ _ h => h.2.1)
      _ hrun.start_mem
  exact (hkeeps _ hf hrow).2

/-- The site a tick leaves. -/
def ticked (ex : Executor V) (d : Durable V) (pf : Portfolio S)
    (marks : List (InstrumentId × Decimal)) : Site V S :=
  ⟨(operating ex d pf (.onFast marks)).disk,
    some (operating ex d pf (.onFast marks)).mem⟩

/-- **A liquidation freezes a router that holds, exactly when its tick catches
it**: the router is open, frozen before, or out of the time its order has. A
router that waits for an order and has time left keeps what it holds, and is
not frozen. -/
theorem liquidation_freezes_iff {marks : List (InstrumentId × Decimal)}
    {snap : AccountSnapshot} (h₀ : s₀.process = none)
    (hrun : Run ex runId anything s₀ ds ⟨d, some pf⟩) (hid : iid ∈ pf.ids)
    (hmark : iid ∈ marks.map Prod.fst)
    (hret : (Portfolio.onFast ex marks ⟨pf, d, []⟩).1 = .ok snap)
    (hliq : snap.inLiquidation = true) :
    FrozenForGood ex runId iid (ticked ex d pf marks) ↔
      (pf.router iid).Caught (Portfolio.turnClock ex iid d pf) := by
  have hs : Steady runId ⟨d, some pf⟩ := hrun.steady (steady_of_none h₀)
  have hnodup : pf.ids.Nodup := (hs pf rfl).ids
  have hwp : Prog.wp (Portfolio.onFast ex marks) _ _ ⟨pf, d, []⟩ :=
    Portfolio.onFast_caught hnodup hid hmark
  have htick := Prog.wp_returned hwp hret hliq
  have hmem : (operating ex d pf (.onFast marks)).mem =
      (Portfolio.onFast ex marks ⟨pf, d, []⟩).2.mem := by
    unfold operating Portfolio.perform
    rw [Prog.bind_pure_snd]
  rw [← hmem] at htick
  have hstep : Step ex runId ⟨d, some pf⟩ (.perform (.onFast marks)) _
    (ticked ex d pf marks) := .perform
  have hs' : Steady runId (ticked ex d pf marks) := hstep.steady hs
  refine ⟨fun h => htick.mp fun hne => (h _ rfl hne).1, fun h => ?_⟩
  rintro pf' hpf' hne
  obtain rfl : _ = pf' := Option.some.inj hpf'
  have hf := htick.mpr h hne
  have hids : iid ∈ (operating ex d pf (.onFast marks)).mem.ids := by
    rw [operating, Deeds.ids (perform_deeds ex (.onFast marks) ⟨pf, d, []⟩)]
    exact hid
  exact ⟨hf, fun es t hrun => hs'.reduces rfl hids hf hrun⟩

/-! ### A holder that waits

A venue in liquidation that holds one contract and accepts every order without
executing it, and a database whose row of the instrument says `OPEN`. -/

section Waiting

def liquidating : Executor Unit :=
  { holding with
    snapshot := fun _ => (.ok { oneContract with inLiquidation := true }, ()) }

def openDisk : Durable Unit where
  db := { Db.empty with
    positionsLocal := [⟨"run", 1, .opened, 1, some 100, some 85, 0, 0⟩] }
  venue := ()
  submitted := []
  refusedDecisions := []

/-- The process that recovers from it. -/
@[irreducible] def holder : World (Durable Unit) (Recovery Unit) :=
  (recovering liquidating openDisk oneRouter).2

/-- That process after a bar on which it exits. -/
@[irreducible] def exiting : World (Durable Unit) (Portfolio Unit) :=
  operating liquidating holder.disk holder.mem.pf
    (.onBar [(1, [flatBar])] .run)

theorem holder_step : Step liquidating "run" ⟨openDisk, none⟩
    (.start oneRouter) holder.moments ⟨holder.disk, some holder.mem.pf⟩ := by
  rw [holder]
  exact .started oneRouter_started (by decide +kernel)

theorem exiting_step : Step liquidating "run"
    ⟨holder.disk, some holder.mem.pf⟩
    (.perform (.onBar [(1, [flatBar])] .run)) exiting.moments
    ⟨exiting.disk, some exiting.mem⟩ := by
  rw [exiting]
  exact .perform

theorem exiting_facts :
    1 ∈ exiting.mem.ids ∧
      (Portfolio.onFast liquidating [(1, 100)]
        ⟨exiting.mem, exiting.disk, []⟩).1.toOption =
          some { oneContract with inLiquidation := true } ∧
      ((operating liquidating exiting.disk exiting.mem
        (.onFast [(1, 100)])).mem.router 1).size = 1 ∧
      ((operating liquidating exiting.disk exiting.mem
        (.onFast [(1, 100)])).mem.router 1).state = .exitPending := by
  decide +kernel

theorem ok_of_toOption {α : Type} {x : Except Exc α} {a : α}
    (h : x.toOption = some a) : x = .ok a := by
  cases x with
  | ok b => rw [Option.some.inj h]
  | error e => cases h

/-- The tick passes over the router that waits for its exit: it holds one
contract in a liquidation, and is not frozen. -/
theorem waiting_not_frozen : ¬ ∀ (s₀ : Site Unit Unit)
    (ds : List (Durable Unit)) (d : Durable Unit) (pf : Portfolio Unit)
    (marks : List (InstrumentId × Decimal)) (snap : AccountSnapshot)
    (iid : InstrumentId), s₀.process = none →
    Run liquidating "run" anything s₀ ds ⟨d, some pf⟩ → iid ∈ pf.ids →
    iid ∈ marks.map Prod.fst →
    (Portfolio.onFast liquidating marks ⟨pf, d, []⟩).1 = .ok snap →
    snap.inLiquidation = true →
    FrozenForGood liquidating "run" iid (ticked liquidating d pf marks) := by
  intro hall
  obtain ⟨hid, hret, hsize, hstate⟩ := exiting_facts
  have hfrozen := (hall _ _ _ _ [(1, 100)] _ 1 rfl
    (.next (.next .here trivial holder_step) trivial exiting_step) hid
    (by simp) (ok_of_toOption hret) rfl _ rfl (by rw [hsize]; decide)).1
  rw [hstate] at hfrozen
  cases hfrozen

theorem liquidation_freezes_holder :
    FrozenForGood liquidating "run" 1
        (ticked liquidating holder.disk holder.mem.pf [(1, 100)]) ↔
      (holder.mem.pf.router 1).Caught
        (Portfolio.turnClock liquidating 1 holder.disk holder.mem.pf) := by
  have hret : (Portfolio.onFast liquidating [(1, 100)]
      ⟨holder.mem.pf, holder.disk, []⟩).1.toOption =
        some { oneContract with inLiquidation := true } := by
    decide +kernel
  exact liquidation_freezes_iff rfl (.next .here trivial holder_step)
    (by decide +kernel) (by simp) (ok_of_toOption hret) rfl

end Waiting

end Site

end Polyperps
