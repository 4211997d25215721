import Polyperps.Execution.InstrumentRouter

/-!
# The size of an entry

What `on_bar` makes of a target: the intent for the notional, the verdicts of
the two guards, and their merge. Each guard compares the notional with what
its caps leave, and turns what is left into a quantity at a mark of its own:
the bar's, or the one the rounded intent implies. The order stays within every
cap; it may be for nothing where less is left than the smallest quantity
costs, and where the notional itself buys less, the guards may divide by zero.
-/

namespace Polyperps

open Rounding ProgramLogic

section Rooms

variable (limits : RiskLimits) (exposure : ExposureLimits)
  (categories : List (InstrumentId × String)) (iid : InstrumentId)
  (side : Side) (snap : AccountSnapshot) (pending : List Intent)

/-- The notional of the positions and of the entries on their way. -/
def existing : Decimal :=
  (snap.positions.map PositionView.notional).sum +
    ((pending.filter fun i => !i.reduceOnly).map Intent.notional).sum

/-- The signed notional of the instrument's cluster. -/
def clusterNet : Decimal :=
  ((snap.positions.filter fun p =>
      clusterIn categories p.instrumentId = clusterIn categories iid).map
    fun p => (if 0 < p.size then 1 else -1) * p.notional).sum +
  (((pending.filter fun i => !i.reduceOnly).filter fun i =>
      clusterIn categories i.instrumentId = clusterIn categories iid).map
    fun i => i.side.sign * i.notional).sum

def leverageRoom : Decimal :=
  limits.maxLeverage * snap.equity - existing snap pending

def distanceRoom : Decimal :=
  snap.equity / (limits.minLiqDistance + limits.maintenanceRate) -
    existing snap pending

def grossRoom : Decimal :=
  exposure.gross * snap.equity - existing snap pending

def clusterRoom : Decimal :=
  exposure.clusterNet * snap.equity -
    side.sign * clusterNet categories iid snap pending

/-- What the two caps of `vet_entry` leave. -/
def entryRoom : Decimal :=
  min (leverageRoom limits snap pending) (distanceRoom limits snap pending)

/-- What the two caps of `vet_exposure` leave. -/
def exposureRoom : Decimal :=
  min (grossRoom exposure snap pending)
    (clusterRoom exposure categories iid side snap pending)

end Rooms

/-! ## The two guards -/

/-- The verdict of a guard that leaves `room`, and its quantity for it. -/
def Verdict.within (notional room quantity : Decimal) : Verdict :=
  if notional ≤ room then .allow else .resize quantity

/-- The quantity a verdict lets through, of `q`. -/
def Verdict.limit (q : Decimal) : Verdict → Decimal
  | .resize q' => min q' q
  | _ => q

def Verdict.rejects : Verdict → Bool
  | .reject _ => true
  | _ => false

@[simp] theorem Verdict.within_rejects {notional room quantity : Decimal} :
    (Verdict.within notional room quantity).rejects = false := by
  unfold Verdict.within
  split <;> rfl

/-- The intent `on_bar` builds. -/
def entryIntent (iid : InstrumentId) (side : Side) (mark : Decimal)
    (limits : RiskLimits) : Intent where
  instrumentId := iid
  side := side
  quantity := roundDown quantityUnit (limits.notionalUsd / mark)
  notional := limits.notionalUsd
  reduceOnly := false
  reason := "strategy"

section Guards

variable {limits : RiskLimits} {exposure : ExposureLimits}
  {categories : List (InstrumentId × String)} {iid : InstrumentId}
  {side : Side} {snap : AccountSnapshot} {pending : List Intent}
  {mark : Decimal} {intent : Intent}

theorem min_min_of_lt {a b c : Decimal} (h : min b c < a) :
    min (min a b) c = min b c := by
  rw [min_assoc, min_eq_right h.le]

/-- `vet_entry` rejects where nothing is left, and otherwise resizes to what
is left at the bar's mark. -/
theorem vetEntry_spec (hmark : 0 < mark)
    (hfloor : 0 < limits.minLiqDistance + limits.maintenanceRate) :
    ∃ v, vetEntry intent mark snap limits pending = .ok v ∧
      (v.rejects = true ↔
        snap.equity ≤ 0 ∨ entryRoom limits snap pending ≤ 0) ∧
      (v.rejects = false → v = .within intent.notional
        (entryRoom limits snap pending)
        (roundDown quantityUnit (entryRoom limits snap pending / mark))) := by
  unfold vetEntry
  by_cases heq : snap.equity ≤ 0
  · rw [if_pos heq]
    exact ⟨_, rfl, iff_of_true rfl (Or.inl heq), nofun⟩
  rw [if_neg heq]
  have hlev : limits.maxLeverage * snap.equity -
      ((snap.positions.map PositionView.notional).sum +
        ((pending.filter fun i => !i.reduceOnly).map Intent.notional).sum) =
      leverageRoom limits snap pending := rfl
  have hdist : 1 / (limits.minLiqDistance + limits.maintenanceRate) *
      snap.equity - ((snap.positions.map PositionView.notional).sum +
        ((pending.filter fun i => !i.reduceOnly).map Intent.notional).sum) =
      distanceRoom limits snap pending := by
    rw [one_div_mul_eq_div]
    rfl
  dsimp only
  rw [hlev]
  by_cases h1 : leverageRoom limits snap pending ≤ 0
  · rw [if_pos h1]
    exact ⟨_, rfl, iff_of_true rfl (Or.inr (min_le_of_left_le h1)), nofun⟩
  rw [if_neg h1, divide_of_ne_zero hfloor.ne']
  show ∃ v, (if 1 / (limits.minLiqDistance + limits.maintenanceRate) *
      snap.equity - _ ≤ 0 then _ else _) = _ ∧ _
  rw [hdist]
  by_cases h2 : distanceRoom limits snap pending ≤ 0
  · rw [if_pos h2]
    exact ⟨_, rfl, iff_of_true rfl (Or.inr (min_le_of_right_le h2)), nofun⟩
  rw [if_neg h2]
  have hpos : ¬ (snap.equity ≤ 0 ∨ entryRoom limits snap pending ≤ 0) := by
    rw [not_or, not_le, not_le]
    exact ⟨not_le.mp heq, lt_min (not_le.mp h1) (not_le.mp h2)⟩
  by_cases h3 : intent.notional ≤ entryRoom limits snap pending
  · have h4 : intent.notional ≤
        min (min intent.notional (leverageRoom limits snap pending))
          (distanceRoom limits snap pending) := by
      rw [min_assoc]
      exact le_min le_rfl h3
    rw [if_pos h4]
    exact ⟨_, rfl, iff_of_false nofun hpos, fun _ => (if_pos h3).symm⟩
  · have h4 : min (min intent.notional (leverageRoom limits snap pending))
        (distanceRoom limits snap pending) = entryRoom limits snap pending :=
      min_min_of_lt (not_le.mp h3)
    rw [h4, if_neg h3, divide_of_ne_zero hmark.ne']
    exact ⟨_, rfl, iff_of_false nofun hpos, fun _ => (if_neg h3).symm⟩

/-- `vet_exposure` does so at the intent's own mark, which it cannot tell of
an intent for nothing. -/
theorem vetExposure_spec (hnotional : 0 < intent.notional)
    (hquantity : 0 < snap.equity →
      0 < exposureRoom exposure categories intent.instrumentId intent.side
        snap pending →
      exposureRoom exposure categories intent.instrumentId intent.side snap
        pending < intent.notional → intent.quantity ≠ 0) :
    ∃ v, vetExposure intent snap.positions snap.equity categories exposure
        pending = .ok v ∧
      (v.rejects = true ↔ snap.equity ≤ 0 ∨
        exposureRoom exposure categories intent.instrumentId intent.side snap
          pending ≤ 0) ∧
      (v.rejects = false → v = .within intent.notional
        (exposureRoom exposure categories intent.instrumentId intent.side snap
          pending)
        (roundDown quantityUnit
          (exposureRoom exposure categories intent.instrumentId intent.side
            snap pending / (intent.notional / intent.quantity)))) := by
  unfold vetExposure
  by_cases heq : snap.equity ≤ 0
  · rw [if_pos heq]
    exact ⟨_, rfl, iff_of_true rfl (Or.inl heq), nofun⟩
  rw [if_neg heq]
  have hgross : exposure.gross * snap.equity -
      ((snap.positions.map PositionView.notional).sum +
        ((pending.filter fun i => !i.reduceOnly).map Intent.notional).sum) =
      grossRoom exposure snap pending := rfl
  have hcluster : exposure.clusterNet * snap.equity -
      intent.side.sign * clusterNet categories intent.instrumentId snap
        pending =
      clusterRoom exposure categories intent.instrumentId intent.side snap
        pending := rfl
  unfold clusterNet at hcluster
  dsimp only
  rw [hgross, hcluster]
  by_cases h1 : grossRoom exposure snap pending ≤ 0
  · rw [if_pos h1]
    exact ⟨_, rfl, iff_of_true rfl (Or.inr (min_le_of_left_le h1)), nofun⟩
  rw [if_neg h1]
  by_cases h2 : clusterRoom exposure categories intent.instrumentId
      intent.side snap pending ≤ 0
  · rw [if_pos h2]
    exact ⟨_, rfl, iff_of_true rfl (Or.inr (min_le_of_right_le h2)), nofun⟩
  rw [if_neg h2]
  have hroom : 0 < exposureRoom exposure categories intent.instrumentId
      intent.side snap pending := lt_min (not_le.mp h1) (not_le.mp h2)
  have hpos := not_or.mpr ⟨heq, not_le.mpr hroom⟩
  by_cases h3 : intent.notional ≤ exposureRoom exposure categories
      intent.instrumentId intent.side snap pending
  · have h4 : intent.notional ≤
        min (min intent.notional (grossRoom exposure snap pending))
          (clusterRoom exposure categories intent.instrumentId intent.side
            snap pending) := by
      rw [min_assoc]
      exact le_min le_rfl h3
    rw [if_pos h4]
    exact ⟨_, rfl, iff_of_false nofun hpos, fun _ => (if_pos h3).symm⟩
  · have h4 : min (min intent.notional (grossRoom exposure snap pending))
          (clusterRoom exposure categories intent.instrumentId intent.side
            snap pending) = exposureRoom exposure categories
              intent.instrumentId intent.side snap pending :=
      min_min_of_lt (not_le.mp h3)
    have hq := hquantity (not_le.mp heq) hroom (not_le.mp h3)
    have hown : intent.notional / intent.quantity ≠ 0 :=
      div_ne_zero hnotional.ne' hq
    rw [h4, if_neg h3, divide_of_ne_zero hq]
    refine ⟨.resize _, ?_, iff_of_false nofun hpos,
      fun _ => (if_neg h3).symm⟩
    · show (divide _ _ >>= fun q => pure (Verdict.resize _)) = _
      rw [divide_of_ne_zero hown]
      rfl

/-- It raises where it needs that mark. -/
theorem vetExposure_raises (heq : 0 < snap.equity)
    (hroom : 0 < exposureRoom exposure categories intent.instrumentId
      intent.side snap pending)
    (hlt : exposureRoom exposure categories intent.instrumentId intent.side
      snap pending < intent.notional) (hquantity : intent.quantity = 0) :
    ∃ e, vetExposure intent snap.positions snap.equity categories exposure
      pending = .error e := by
  have h1 : ¬ grossRoom exposure snap pending ≤ 0 :=
    not_le.mpr (lt_min_iff.mp hroom).1
  have h2 : ¬ clusterRoom exposure categories intent.instrumentId intent.side
      snap pending ≤ 0 := not_le.mpr (lt_min_iff.mp hroom).2
  have h4 : min (min intent.notional (grossRoom exposure snap pending))
        (clusterRoom exposure categories intent.instrumentId intent.side
          snap pending) = exposureRoom exposure categories
            intent.instrumentId intent.side snap pending :=
    min_min_of_lt hlt
  unfold vetExposure
  rw [if_neg (not_le.mpr heq)]
  have hgross : exposure.gross * snap.equity -
      ((snap.positions.map PositionView.notional).sum +
        ((pending.filter fun i => !i.reduceOnly).map Intent.notional).sum) =
      grossRoom exposure snap pending := rfl
  have hcluster : exposure.clusterNet * snap.equity -
      intent.side.sign * clusterNet categories intent.instrumentId snap
        pending =
      clusterRoom exposure categories intent.instrumentId intent.side snap
        pending := rfl
  unfold clusterNet at hcluster
  dsimp only
  rw [hgross, hcluster, if_neg h1, if_neg h2, h4, if_neg (not_le.mpr hlt),
    divide, if_pos hquantity]
  exact ⟨_, rfl⟩

theorem applyGuards_pair {n m : String} {v u : Verdict} :
    applyGuards intent [(n, v), (m, u)] =
      if v.rejects || u.rejects then
        .ok (none, [(n, verdictLabel v), (m, verdictLabel u)])
      else if v.limit (u.limit intent.quantity) = intent.quantity then
        .ok (some intent, [(n, verdictLabel v), (m, verdictLabel u)])
      else do
        let notional ← divide
          (intent.notional * v.limit (u.limit intent.quantity)) intent.quantity
        return (some
          { intent with
            quantity := v.limit (u.limit intent.quantity)
            notional := roundHalfEven cent notional },
          [(n, verdictLabel v), (m, verdictLabel u)]) := by
  cases v <;> cases u <;> rfl

/-- The merge: no order if a guard rejects, else the intent at the smallest of
the three quantities. -/
theorem applyGuards_spec {n m : String} {v u : Verdict}
    (hquantity : v.rejects = false → u.rejects = false →
      v.limit (u.limit intent.quantity) ≠ intent.quantity →
        intent.quantity ≠ 0) :
    ∃ final labels, applyGuards intent [(n, v), (m, u)] = .ok (final, labels) ∧
      (final = none ↔ v.rejects = true ∨ u.rejects = true) ∧
      ∀ o, final = some o →
        o.quantity = v.limit (u.limit intent.quantity) := by
  rw [applyGuards_pair]
  cases hr : v.rejects || u.rejects with
  | true =>
      rw [Bool.or_eq_true] at hr
      exact ⟨none, _, rfl, iff_of_true rfl hr, nofun⟩
  | false =>
      rw [Bool.or_eq_false_iff] at hr
      have hnot : ¬ (v.rejects = true ∨ u.rejects = true) := by
        rw [hr.1, hr.2]
        nofun
      rw [if_neg nofun]
      split
      · next h =>
          refine ⟨some intent, _, rfl, iff_of_false nofun hnot, ?_⟩
          rintro o ⟨⟩
          exact h.symm
      · next h =>
          rw [divide_of_ne_zero (hquantity hr.1 hr.2 h)]
          refine ⟨some _, _, rfl, iff_of_false nofun hnot, ?_⟩
          rintro o ⟨⟩
          rfl

/-! ## What `on_bar` makes of a target -/

/-- The entry of a bar, up to its order. -/
def vetted (iid : InstrumentId) (side : Side) (mark : Decimal)
    (snap : AccountSnapshot) (limits : RiskLimits)
    (categories : List (InstrumentId × String)) (exposure : ExposureLimits)
    (pending : List Intent) :
    Except Exc (Option Intent × List (String × String)) := do
  let perContract ← divide limits.notionalUsd mark
  let intent : Intent :=
    { instrumentId := iid, side
      quantity := roundDown quantityUnit perContract
      notional := limits.notionalUsd
      reduceOnly := false, reason := "strategy" }
  let entryVerdict ← vetEntry intent mark snap limits pending
  let exposureVerdict ← vetExposure intent snap.positions snap.equity
    categories exposure pending
  applyGuards intent
    [("vet_entry", entryVerdict), ("vet_exposure", exposureVerdict)]

theorem ofExcept_bind {V μ α β : Type} {x : Except Exc α}
    {f : α → Except Exc β} :
    (Prog.ofExcept (x >>= f) : Act V μ β) =
      Prog.ofExcept x >>= fun a => Prog.ofExcept (f a) := by
  cases x <;> rfl

/-- What `on_bar` does with the outcome of the vetting. -/
def follow {V S : Type} (ex : Executor V) (target : Decimal)
    (labels : List (String × String)) :
    Option Intent → Act V (InstrumentRouter S) Unit
  | none =>
      InstrumentRouter.record ex (some target) labels none none "rejected"
  | some final => InstrumentRouter.send ex final (some target) labels

/-- The side of a target. -/
def sideOf (target : Decimal) : Side := if 0 < target then .buy else .sell

/-- The entry a flat router vets on a bar. -/
def InstrumentRouter.vetted {S : Type} (r : InstrumentRouter S)
    (target mark : Decimal) (snap : AccountSnapshot) (pending : List Intent) :
    Except Exc (Option Intent × List (String × String)) :=
  Polyperps.vetted r.instrumentId (sideOf target) mark snap r.limits
    r.categories r.exposure pending

/-- A flat router vets an entry, and sends what comes of it. -/
theorem enter_vets {V S : Type} (ex : Executor V) {target : Decimal}
    {kill : KillAction} (htarget : target ≠ 0) (hkill : kill ≠ .pause) :
    (InstrumentRouter.enter ex mark target snap kill pending :
        Act V (InstrumentRouter S) Unit) =
      Prog.mem >>= fun r =>
        Prog.ofExcept (r.vetted target mark snap pending) >>= fun vetting =>
          follow ex target vetting.2 vetting.1 := by
  unfold InstrumentRouter.enter InstrumentRouter.vetted vetted
  rw [if_neg (not_or.mpr ⟨htarget, hkill⟩)]
  simp only [ofExcept_bind, Prog.bind_assoc]
  rfl

/-- The quantity two guards leave of an intent for `q`. -/
def sized (notional entryRoom exposureRoom mark q : Decimal) : Decimal :=
  (Verdict.within notional entryRoom
    (roundDown quantityUnit (entryRoom / mark))).limit
    ((Verdict.within notional exposureRoom
      (roundDown quantityUnit (exposureRoom / (notional / q)))).limit q)

theorem Verdict.limit_within {notional room quantity q : Decimal} :
    (Verdict.within notional room quantity).limit q =
      if room < notional then min quantity q else q := by
  unfold Verdict.within
  by_cases h : notional ≤ room
  · rw [if_pos h, if_neg (not_lt.mpr h)]
    rfl
  · rw [if_neg h, if_pos (not_le.mp h)]
    rfl

theorem sized_zero {notional entryRoom exposureRoom : Decimal}
    (hmark : 0 < mark) (hentry : 0 < entryRoom) :
    sized notional entryRoom exposureRoom mark 0 = 0 := by
  have h1 : 0 ≤ roundDown quantityUnit (entryRoom / mark) :=
    roundDown_nonneg quantityUnit_pos (div_nonneg hentry.le hmark.le)
  have h2 : roundDown quantityUnit (exposureRoom / (notional / 0)) = 0 := by
    rw [div_zero, div_zero]
    decide +kernel
  rw [sized, h2, Verdict.limit_within, Verdict.limit_within, min_self, ite_self]
  split
  · exact min_eq_right h1
  · rfl

/-- Unless the intent is for nothing and its mark is asked for, the vetting
returns: no order where nothing is left, else one of the size the rooms
leave. -/
theorem vetted_returns (iid : InstrumentId) (hmark : 0 < mark)
    (hnotional : 0 < limits.notionalUsd)
    (hfloor : 0 < limits.minLiqDistance + limits.maintenanceRate)
    (hquantity : 0 < snap.equity →
      0 < exposureRoom exposure categories iid side snap pending →
      exposureRoom exposure categories iid side snap pending <
        limits.notionalUsd →
      roundDown quantityUnit (limits.notionalUsd / mark) ≠ 0) :
    ∃ final labels,
      vetted iid side mark snap limits categories exposure pending =
        .ok (final, labels) ∧
      (final = none ↔ snap.equity ≤ 0 ∨ entryRoom limits snap pending ≤ 0 ∨
        exposureRoom exposure categories iid side snap pending ≤ 0) ∧
      ∀ o, final = some o → o.quantity =
        sized limits.notionalUsd (entryRoom limits snap pending)
          (exposureRoom exposure categories iid side snap pending) mark
          (roundDown quantityUnit (limits.notionalUsd / mark)) := by
  have hq : 0 ≤ roundDown quantityUnit (limits.notionalUsd / mark) :=
    roundDown_nonneg quantityUnit_pos (div_nonneg hnotional.le hmark.le)
  obtain ⟨v, hv, hvr, hvw⟩ : ∃ v,
      vetEntry (entryIntent iid side mark limits) mark snap limits pending =
        .ok v ∧ _ := vetEntry_spec hmark hfloor
  obtain ⟨u, hu, hur, huw⟩ : ∃ u,
      vetExposure (entryIntent iid side mark limits) snap.positions
        snap.equity categories exposure pending = .ok u ∧ _ :=
    vetExposure_spec hnotional hquantity
  obtain ⟨final, labels, hmerge, hnone, hsize⟩ : ∃ final labels,
      applyGuards (entryIntent iid side mark limits)
        [("vet_entry", v), ("vet_exposure", u)] = .ok (final, labels) ∧ _ :=
    applyGuards_spec fun hv' hu' hne h0 => by
      have hroom : 0 < entryRoom limits snap pending := by
        by_contra hle
        rw [hvr.mpr (Or.inr (not_lt.mp hle))] at hv'
        cases hv'
      rw [hvw hv', huw hu', h0] at hne
      exact hne (sized_zero hmark hroom)
  refine ⟨final, labels, ?_, ?_, fun o ho => ?_⟩
  · unfold vetted
    rw [divide_of_ne_zero hmark.ne']
    show (vetEntry (entryIntent iid side mark limits) mark snap limits pending
      >>= fun v => _) = _
    rw [hv]
    show (vetExposure (entryIntent iid side mark limits) snap.positions
      snap.equity categories exposure pending >>= fun u => _) = _
    rw [hu]
    exact hmerge
  · rw [hnone, hvr, hur, or_or_or_comm, or_self]
    rfl
  · have hrej : v.rejects = false ∧ u.rejects = false := by
      have hn : ¬ (v.rejects = true ∨ u.rejects = true) := by
        rw [← hnone, ho]
        nofun
      simpa using hn
    rw [hsize o ho, hvw hrej.1, huw hrej.2]
    rfl

/-! ## The bounds -/

/-- What the rooms leave costs no more than any of them. -/
theorem sized_le {notional entryRoom exposureRoom q : Decimal}
    (hmark : 0 < mark) (hnotional : 0 < notional) (hq : 0 < q)
    (hcost : q * mark ≤ notional) (hentry : 0 < entryRoom)
    (hexposure : 0 < exposureRoom) :
    let size := sized notional entryRoom exposureRoom mark q
    size * mark ≤ notional ∧ size * mark ≤ entryRoom ∧
      size * mark ≤ exposureRoom := by
  intro size
  have hle : size ≤ q := by
    show sized notional entryRoom exposureRoom mark q ≤ q
    rw [sized, Verdict.limit_within, Verdict.limit_within]
    split <;> split <;> simp
  have hsize : size * mark ≤ notional :=
    (mul_le_mul_of_nonneg_right hle hmark.le).trans hcost
  refine ⟨hsize, ?_, ?_⟩
  · rcases le_or_gt notional entryRoom with h | h
    · exact hsize.trans h
    · -- resized at the bar's mark
      have hmin : size ≤ entryRoom / mark := by
        refine le_trans ?_ (roundDown_le quantityUnit_pos
          (div_nonneg hentry.le hmark.le))
        show sized notional entryRoom exposureRoom mark q ≤ _
        rw [sized, Verdict.limit_within, if_pos h]
        exact min_le_left _ _
      rwa [le_div_iff₀ hmark] at hmin
  · rcases le_or_gt notional exposureRoom with h | h
    · exact hsize.trans h
    · -- resized at the intent's own mark, which is no lower
      have hown : mark ≤ notional / q := by
        rw [le_div_iff₀ hq, mul_comm]
        exact hcost
      have hmin : size ≤ exposureRoom / (notional / q) := by
        refine le_trans ?_ (roundDown_le quantityUnit_pos
          (div_nonneg hexposure.le (div_pos hnotional hq).le))
        show sized notional entryRoom exposureRoom mark q ≤ _
        rw [sized, Verdict.limit_within, Verdict.limit_within, if_pos h]
        split
        · exact (min_le_right _ _).trans (min_le_left _ _)
        · exact min_le_left _ _
      calc size * mark ≤ exposureRoom / (notional / q) * mark :=
            mul_le_mul_of_nonneg_right hmin hmark.le
        _ ≤ exposureRoom / mark * mark := by
            refine mul_le_mul_of_nonneg_right ?_ hmark.le
            exact div_le_div_of_nonneg_left hexposure.le hmark hown
        _ = exposureRoom := div_mul_cancel₀ _ hmark.ne'

/-- **The guards bound the order.** Where the notional buys at least the
smallest quantity, the vetting of an entry returns; it gives no order exactly
if the equity or what a cap leaves is used up, and an order it gives costs, at
the mark, no more than the notional and than what each cap leaves. -/
theorem guards_bound (hmark : 0 < mark)
    (hfloor : 0 < limits.minLiqDistance + limits.maintenanceRate)
    (hunit : quantityUnit ≤ limits.notionalUsd / mark) :
    ∃ final labels,
      vetted iid side mark snap limits categories exposure pending =
        .ok (final, labels) ∧
      (∀ o, final = some o →
        o.quantity * mark ≤ limits.notionalUsd ∧
        o.quantity * mark ≤ leverageRoom limits snap pending ∧
        o.quantity * mark ≤ distanceRoom limits snap pending ∧
        o.quantity * mark ≤ grossRoom exposure snap pending ∧
        o.quantity * mark ≤
          clusterRoom exposure categories iid side snap pending) ∧
      (final = none ↔ snap.equity ≤ 0 ∨
        leverageRoom limits snap pending ≤ 0 ∨
        distanceRoom limits snap pending ≤ 0 ∨
        grossRoom exposure snap pending ≤ 0 ∨
        clusterRoom exposure categories iid side snap pending ≤ 0) := by
  have hnotional : 0 < limits.notionalUsd := by
    have h := lt_of_lt_of_le quantityUnit_pos hunit
    exact (div_pos_iff_of_pos_right hmark).mp h
  have hq : 0 < roundDown quantityUnit (limits.notionalUsd / mark) :=
    roundDown_pos quantityUnit_pos hunit
  have hcost : roundDown quantityUnit (limits.notionalUsd / mark) * mark ≤
      limits.notionalUsd := by
    rw [← le_div_iff₀ hmark]
    exact roundDown_le quantityUnit_pos (div_pos hnotional hmark).le
  obtain ⟨final, labels, hret, hnone, hsize⟩ := vetted_returns iid hmark
    hnotional hfloor fun _ _ _ => hq.ne'
  refine ⟨final, labels, hret, fun o ho => ?_, ?_⟩
  · have hrooms : ¬ (snap.equity ≤ 0 ∨ entryRoom limits snap pending ≤ 0 ∨
        exposureRoom exposure categories iid side snap pending ≤ 0) := by
      rw [← hnone, ho]
      nofun
    rw [not_or, not_or, not_le, not_le, not_le] at hrooms
    obtain ⟨-, hentry, hexposure⟩ := hrooms
    obtain ⟨h1, h2, h3⟩ := sized_le hmark hnotional hq hcost hentry hexposure
    rw [← hsize o ho] at h1 h2 h3
    exact ⟨h1, h2.trans (min_le_left _ _), h2.trans (min_le_right _ _),
      h3.trans (min_le_left _ _), h3.trans (min_le_right _ _)⟩
  · rw [hnone, entryRoom, exposureRoom, min_le_iff, min_le_iff, or_assoc]

/-! ## Orders for nothing -/

/-- What the rooms leave is something where the notional, and each room
smaller than it, buys the smallest quantity. -/
theorem sized_pos_iff {notional entryRoom exposureRoom q : Decimal}
    (hmark : 0 < mark) (hnotional : 0 < notional) (hentry : 0 < entryRoom)
    (hexposure : 0 < exposureRoom) (hq : 0 ≤ q) :
    0 < sized notional entryRoom exposureRoom mark q ↔
      0 < q ∧ (entryRoom < notional → quantityUnit ≤ entryRoom / mark) ∧
        (exposureRoom < notional →
          quantityUnit ≤ exposureRoom / (notional / q)) := by
  have h1 := roundDown_pos_iff quantityUnit_pos
    (div_nonneg hentry.le hmark.le)
  have h2 := roundDown_pos_iff quantityUnit_pos
    (div_nonneg hexposure.le (div_nonneg hnotional.le hq))
  rw [sized, Verdict.limit_within, Verdict.limit_within, ← h1, ← h2]
  by_cases he : entryRoom < notional <;> by_cases hx : exposureRoom < notional
  · simp only [he, hx, if_true, lt_min_iff, forall_const]
    tauto
  · simp only [he, hx, if_true, if_false, lt_min_iff, forall_const,
      false_imp_iff, and_true]
    tauto
  · simp only [he, hx, if_true, if_false, lt_min_iff, forall_const,
      false_imp_iff, true_and]
    tauto
  · simp only [he, hx, if_false, false_imp_iff, and_true]

/-- Where the entry can be sized: the equity or the exposure caps are used up;
or the other caps are, and the intent's own mark is not asked for or can be
told; or the notional and each room smaller than it buy the smallest
quantity. -/
def Sizable (iid : InstrumentId) (side : Side) (mark : Decimal)
    (snap : AccountSnapshot) (limits : RiskLimits)
    (categories : List (InstrumentId × String)) (exposure : ExposureLimits)
    (pending : List Intent) : Prop :=
  let entry := entryRoom limits snap pending
  let left := exposureRoom exposure categories iid side snap pending
  let own := limits.notionalUsd /
    roundDown quantityUnit (limits.notionalUsd / mark)
  snap.equity ≤ 0 ∨ left ≤ 0 ∨
    (entry ≤ 0 ∧ (limits.notionalUsd ≤ left ∨
      quantityUnit ≤ limits.notionalUsd / mark)) ∨
    (quantityUnit ≤ limits.notionalUsd / mark ∧
      (entry < limits.notionalUsd → quantityUnit ≤ entry / mark) ∧
      (left < limits.notionalUsd → quantityUnit ≤ left / own))

/-- The vetting raises where it needs the mark of an intent for nothing. -/
theorem vetted_raises (hmark : 0 < mark)
    (hfloor : 0 < limits.minLiqDistance + limits.maintenanceRate)
    (heq : 0 < snap.equity)
    (hroom : 0 < exposureRoom exposure categories iid side snap pending)
    (hlt : exposureRoom exposure categories iid side snap pending <
      limits.notionalUsd)
    (hq : roundDown quantityUnit (limits.notionalUsd / mark) = 0) :
    ∃ e, vetted iid side mark snap limits categories exposure pending =
      .error e := by
  obtain ⟨v, hv, -⟩ : ∃ v,
      vetEntry (entryIntent iid side mark limits) mark snap limits pending =
        .ok v ∧ _ := vetEntry_spec hmark hfloor
  obtain ⟨e, he⟩ : ∃ e,
      vetExposure (entryIntent iid side mark limits) snap.positions
        snap.equity categories exposure pending = .error e :=
    vetExposure_raises heq hroom hlt hq
  refine ⟨e, ?_⟩
  unfold vetted
  rw [divide_of_ne_zero hmark.ne']
  show (vetEntry (entryIntent iid side mark limits) mark snap limits pending
    >>= fun v => _) = _
  rw [hv]
  show (vetExposure (entryIntent iid side mark limits) snap.positions
    snap.equity categories exposure pending >>= fun u => _) = _
  rw [he]
  rfl

/-- The vetting returns, and gives no order for nothing, exactly where the
entry is `Sizable`. -/
theorem vetted_something_iff (hmark : 0 < mark)
    (hnotional : 0 < limits.notionalUsd)
    (hfloor : 0 < limits.minLiqDistance + limits.maintenanceRate) :
    (∃ final labels,
      vetted iid side mark snap limits categories exposure pending =
        .ok (final, labels) ∧ ∀ o, final = some o → 0 < o.quantity) ↔
      Sizable iid side mark snap limits categories exposure pending := by
  have hq0 : 0 ≤ roundDown quantityUnit (limits.notionalUsd / mark) :=
    roundDown_nonneg quantityUnit_pos (div_nonneg hnotional.le hmark.le)
  have hqpos := roundDown_pos_iff quantityUnit_pos
    (div_nonneg hnotional.le hmark.le)
  unfold Sizable
  dsimp only
  by_cases hraise : 0 < snap.equity ∧
      0 < exposureRoom exposure categories iid side snap pending ∧
      exposureRoom exposure categories iid side snap pending <
        limits.notionalUsd ∧
      roundDown quantityUnit (limits.notionalUsd / mark) = 0
  · obtain ⟨heq, hroom, hlt, hq⟩ := hraise
    obtain ⟨e, he⟩ := vetted_raises hmark hfloor heq hroom hlt hq
    rw [he, ← hqpos, hq]
    refine iff_of_false nofun ?_
    simp [not_le.mpr heq, not_le.mpr hroom, not_le.mpr hlt]
  · obtain ⟨final, labels, hret, hnone, hsize⟩ := vetted_returns iid hmark
      hnotional hfloor fun h1 h2 h3 h4 => hraise ⟨h1, h2, h3, h4⟩
    cases final with
    | none =>
        refine iff_of_true ⟨none, labels, hret, nofun⟩ ?_
        rcases hnone.mp rfl with h | h | h
        · exact Or.inl h
        · by_cases heq : snap.equity ≤ 0
          · exact Or.inl heq
          by_cases hroom :
              exposureRoom exposure categories iid side snap pending ≤ 0
          · exact Or.inr (Or.inl hroom)
          -- no division was made, or one by the intent's own mark
          refine Or.inr (Or.inr (Or.inl ⟨h, ?_⟩))
          by_contra hno
          rw [not_or, not_le, ← hqpos, not_lt] at hno
          exact hraise ⟨not_le.mp heq, not_le.mp hroom, hno.1,
            le_antisymm hno.2 hq0⟩
        · exact Or.inr (Or.inl h)
    | some o =>
        have hrooms := mt hnone.mpr nofun
        rw [not_or, not_or, not_le, not_le, not_le] at hrooms
        obtain ⟨heq, hentry, hexposure⟩ := hrooms
        have hpos := sized_pos_iff hmark hnotional hentry hexposure hq0
        rw [← hsize o rfl, hqpos] at hpos
        constructor
        · rintro ⟨final, labels', hret', hall⟩
          rw [hret] at hret'
          cases hret'
          exact Or.inr (Or.inr (Or.inr (hpos.mp (hall o rfl))))
        · rintro (h | h | ⟨h, -⟩ | h)
          · exact absurd heq (not_lt.mpr h)
          · exact absurd hexposure (not_lt.mpr h)
          · exact absurd hentry (not_lt.mpr h)
          · refine ⟨some o, labels, hret, ?_⟩
            rintro o' ⟨⟩
            exact hpos.mpr h

end Guards

/-- A contract of the cluster that takes all but five hundredths of a cent. -/
def crowded : AccountSnapshot where
  equity := 1000
  positions :=
    [{ instrumentId := 2, size := 1, entryPrice := 600
       notional := 600 - 5 / 10000, leverage := 1, liquidationPrice := none
       unrealisedPnl := 0, cumulativeFunding := 0 }]
  openOrders := []
  stops := []
  inLiquidation := false
  ts := 0

/-- A router of another instrument. -/
def newcomer : World (Durable Unit) (InstrumentRouter Unit) where
  mem := InstrumentRouter.fresh "run" 1
    { warmup := 0, target := fun s _ => (1, s), onFlatten := none
      onRecover := none } () [] limitsDefault exposureDefault
  disk := ⟨Db.empty, (), [], []⟩
  past := []

/-- A venue that accepts what it is sent. -/
def accepting : Executor Unit where
  name := "live"
  submit req _ := (.ok ⟨req.clientOrderId, none, .accepted, "", 0⟩, ())
  cancel _ _ := (.ok (), ())
  placeStop _ _ _ := (.ok (), ())
  cancelStop _ _ := (.ok (), ())
  snapshot _ := (.ok crowded, ())
  clock _ := 0

/-- At a mark of a hundred it is the room's worth. -/
theorem guards_bound_crowded :
    ∃ final labels,
      vetted 1 .buy 100 crowded limitsDefault [] exposureDefault [] =
        .ok (final, labels) ∧
      (∀ o, final = some o →
        o.quantity * 100 ≤ limitsDefault.notionalUsd ∧
        o.quantity * 100 ≤ leverageRoom limitsDefault crowded [] ∧
        o.quantity * 100 ≤ distanceRoom limitsDefault crowded [] ∧
        o.quantity * 100 ≤ grossRoom exposureDefault crowded [] ∧
        o.quantity * 100 ≤
          clusterRoom exposureDefault [] 1 .buy crowded []) ∧
      (final = none ↔ crowded.equity ≤ 0 ∨
        leverageRoom limitsDefault crowded [] ≤ 0 ∨
        distanceRoom limitsDefault crowded [] ≤ 0 ∨
        grossRoom exposureDefault crowded [] ≤ 0 ∨
        clusterRoom exposureDefault [] 1 .buy crowded [] ≤ 0) :=
  guards_bound (by norm_num) (by norm_num [limitsDefault])
    (by norm_num [quantityUnit, limitsDefault])

end Polyperps
