import Polyperps.Proofs.ClientOrderIds
import Polyperps.Proofs.RecoverySteps

/-!
# The orders recovery cancels

Recovery cancels what rests under an id that does not start with its run's
name and a dash. Of the orders of other runs these are all but those of a run
whose own name starts so, or of a run whose name, a dash and the instrument
make the name of this one.
-/

namespace Polyperps

open ProgramLogic

/-! ## The text of an id -/

/-- A name and a dash, at the front of another name, a dash and a tail. -/
theorem dash_prefix_iff {l m t : List Char} :
    l ++ ['-'] <+: m ++ '-' :: t ↔
      l ++ ['-'] <+: m ∨ l = m ∨ ∃ s, l = m ++ '-' :: s ∧ s ++ ['-'] <+: t := by
  induction m generalizing l with
  | nil =>
      cases l with
      | nil => simp
      | cons c l =>
          simp only [List.cons_append, List.nil_append, List.cons_prefix_cons,
            List.prefix_nil, List.cons.injEq, reduceCtorEq, false_or]
          constructor
          · rintro ⟨rfl, h⟩
            exact ⟨l, ⟨rfl, rfl⟩, h⟩
          · rintro ⟨s, ⟨rfl, rfl⟩, h⟩
            exact ⟨rfl, h⟩
  | cons a m ih =>
      cases l with
      | nil => simp
      | cons c l =>
          simp only [List.cons_append, List.cons_prefix_cons, List.cons.injEq,
            ih]
          constructor
          · rintro ⟨rfl, h | rfl | ⟨s, rfl, h⟩⟩
            · exact Or.inl ⟨rfl, h⟩
            · exact Or.inr (Or.inl ⟨rfl, rfl⟩)
            · exact Or.inr (Or.inr ⟨s, ⟨rfl, rfl⟩, h⟩)
          · rintro (⟨rfl, h⟩ | ⟨rfl, rfl⟩ | ⟨s, ⟨rfl, rfl⟩, h⟩)
            · exact ⟨rfl, Or.inl h⟩
            · exact ⟨rfl, Or.inr (Or.inl rfl)⟩
            · exact ⟨rfl, Or.inr (Or.inr ⟨s, rfl, h⟩)⟩

/-- Between two texts without one, there is one dash to end at. -/
theorem dash_prefix_digits {s i d : List Char} (hi : '-' ∉ i) (hd : '-' ∉ d) :
    s ++ ['-'] <+: i ++ '-' :: d ↔ s = i := by
  rw [dash_prefix_iff]
  refine ⟨?_, fun h => Or.inr (Or.inl h)⟩
  rintro (h | h | ⟨u, -, h⟩)
  · exact absurd (h.subset (by simp)) hi
  · exact h
  · exact absurd (h.subset (by simp)) hd

/-- Behind a leading dash there is a second place. -/
theorem dash_prefix_negative {s i d : List Char} (hi : '-' ∉ i)
    (hd : '-' ∉ d) :
    s ++ ['-'] <+: '-' :: (i ++ '-' :: d) ↔ s = '-' :: i ∨ s = [] := by
  cases s with
  | nil => simp
  | cons c s =>
      rw [List.cons_append, List.cons_prefix_cons, dash_prefix_digits hi hd,
        List.cons.injEq, or_iff_left (List.cons_ne_nil c s)]

/-- The orders of the run `other` for the instrument pass for those of
`runId`: its name starts with `runId` and a dash, or is `runId` without a last
part that reads as the instrument. -/
def PassesFor (runId other : String) (iid : InstrumentId) : Prop :=
  runId.toList ++ ['-'] <+: other.toList ∨
    runId = other ++ "-" ++ iid.repr ∨ iid < 0 ∧ runId = other ++ "-"

/-- Whose an order of another run is taken to be. -/
theorem ownedBy_iff {runId other : String} (hne : other ≠ runId)
    (iid : InstrumentId) (n : ℕ) :
    ownedBy runId (clientOrderId other iid n) = true ↔
      PassesFor runId other iid := by
  have hdash : "-".toList = ['-'] := rfl
  have hdigits : ∀ k, '-' ∉ Nat.toDigits 10 k := dash_notMem_toDigits
  unfold ownedBy PassesFor
  rw [List.isPrefixOf_iff_prefix, toList_clientOrderId, String.toList_append,
    hdash, List.append_assoc, List.cons_append, dash_prefix_iff]
  refine or_congr Iff.rfl ?_
  rw [or_iff_right fun h => hne (String.toList_inj.mp h.symm)]
  simp only [← String.toList_inj, String.toList_append, hdash]
  cases iid with
  | ofNat k =>
      have hneg : ¬ (Int.ofNat k < 0) := by simp
      simp only [hneg, false_and, or_false, Int.repr, Nat.toList_repr,
        dash_prefix_digits (hdigits k) (hdigits n)]
      simp
  | negSucc k =>
      -- its text is a dash and digits, so there are two dashes to end at
      have hneg : Int.negSucc k < 0 := Int.negSucc_lt_zero k
      have htext : (Int.negSucc k).repr.toList =
          '-' :: Nat.toDigits 10 (k + 1) := by
        simp [Int.repr, Nat.toList_repr]
      simp only [hneg, true_and, htext, List.cons_append,
        dash_prefix_negative (hdigits (k + 1)) (hdigits n)]
      constructor
      · rintro ⟨s, h, rfl | rfl⟩
        · exact Or.inl (by simpa using h)
        · exact Or.inr h
      · rintro (h | h)
        · exact ⟨_, by simpa using h, Or.inl rfl⟩
        · exact ⟨[], h, Or.inr rfl⟩

/-- An order of the run itself. -/
theorem ownedBy_own (runId : String) (iid : InstrumentId) (n : ℕ) :
    ownedBy runId (clientOrderId runId iid n) = true := by
  unfold ownedBy
  rw [List.isPrefixOf_iff_prefix, toList_clientOrderId, String.toList_append]
  exact ⟨iid.repr.toList ++ '-' :: Nat.toDigits 10 n, by simp⟩

/-! ## The calls -/

/-- The executor, with the ids it was asked to cancel. -/
def recording {V : Type} (ex : Executor V) :
    Executor (V × List ClientOrderId) where
  name := ex.name
  submit req v := ((ex.submit req v.1).1, (ex.submit req v.1).2, v.2)
  cancel oid v := ((ex.cancel oid v.1).1, (ex.cancel oid v.1).2, v.2 ++ [oid])
  placeStop iid trigger v :=
    ((ex.placeStop iid trigger v.1).1, (ex.placeStop iid trigger v.1).2, v.2)
  cancelStop iid v := ((ex.cancelStop iid v.1).1, (ex.cancelStop iid v.1).2, v.2)
  snapshot v := ((ex.snapshot v.1).1, (ex.snapshot v.1).2, v.2)
  clock v := ex.clock v.1

section Calls

variable {V S : Type} {ex : Executor V} {snap : AccountSnapshot}
  {runId : String}

theorem guarded_recording {iid : InstrumentId} {due : Option Decimal}
    {v : V × List ClientOrderId} :
    (guarded (recording ex) iid due v).2 = v.2 := by
  cases due <;> rfl

theorem Classified.venue_eq {rows : List PositionLocalRow} {o : OrderRow}
    {w w' : World (Durable V) (Recovery S)}
    (h : Classified ex snap rows o w w') :
    w'.disk.venue = w.disk.venue ∧ w'.mem.pf.runId = w.mem.pf.runId := by
  cases h with
  | done h => exact ⟨rfl, rfl⟩
  | relabelled rep status h hstatus hno => exact ⟨rfl, rfl⟩
  | restored rep st r db h hrests hst hr hdb => exact ⟨rfl, rfl⟩

/-- The resting orders whose turn is still to come. -/
def Stage.resting (snap : AccountSnapshot) : Stage → List ClientOrderId
  | .foreign rest => rest
  | _ => snap.openOrders

/-- The orders that are not the run's. -/
def foreign (runId : String) (oids : List ClientOrderId) :
    List ClientOrderId := oids.filter fun oid => !ownedBy runId oid

/-- Where recovery stands: of the orders that had their turn, those that are
not the run's were cancelled, and no others. -/
structure Cancels (runId : String) (snap : AccountSnapshot) (st : Stage)
    (w : World (Durable (V × List ClientOrderId)) (Recovery S)) : Prop where
  named : w.mem.pf.runId = runId
  calls : ∃ visited, snap.openOrders = visited ++ st.resting snap ∧
    w.disk.venue.2 = foreign runId visited

section Turns

variable {st st' : Stage}
  {w w' : World (Durable (V × List ClientOrderId)) (Recovery S)}

/-- What cancels nothing. -/
theorem Cancels.next (h : Cancels runId snap st w)
    (hrun : w'.mem.pf.runId = w.mem.pf.runId)
    (hcalls : w'.disk.venue.2 = w.disk.venue.2)
    (hresting : st'.resting snap = st.resting snap) :
    Cancels runId snap st' w' where
  named := hrun.trans h.named
  calls := by
    rw [hcalls, hresting]
    exact h.calls

/-- One turn of the cancel loop. -/
theorem Cancelled.cancels {oid : ClientOrderId} {rest : List ClientOrderId}
    (h : Cancelled (recording ex) oid w w')
    (hc : Cancels runId snap (.foreign (oid :: rest)) w) :
    Cancels runId snap (.foreign rest) w' where
  named := by
    rw [h.pf]
    exact hc.named
  calls := by
    obtain ⟨visited, hopen, hcalls⟩ := hc.calls
    refine ⟨visited ++ [oid], ?_, ?_⟩
    · rw [hopen]
      simp [Stage.resting]
    · rw [foreign, List.filter_append, h.venue, hc.named]
      cases howned : ownedBy runId oid with
      | true =>
          rw [if_pos rfl, hcalls]
          simp [foreign, howned]
      | false =>
          rw [if_neg nofun]
          show w.disk.venue.2 ++ [oid] = _
          rw [hcalls]
          simp [foreign, howned]

theorem recovers_cancels {rows : List PositionLocalRow} :
    Recovers (recording ex) snap rows runId
      (Cancels (S := S) runId snap) (fun _ => True) where
  calm := fun hc h => hc.next (by rw [h.pf]) (by rw [h.venue]) rfl
  turn := fun hc h => hc.next (by rw [h.pf]; rfl)
    (by rw [h.venue]; exact guarded_recording) rfl
  unknown := fun hc => hc.next rfl rfl rfl
  guard := fun hc h => hc.next (by rw [h.pf])
    (by rw [h.venue]; exact guarded_recording) rfl
  orders := fun hc => hc.next rfl rfl rfl
  classify := fun hc h => hc.next h.venue_eq.2 (by rw [h.venue_eq.1]) rfl
  foreign := fun hc => hc.next rfl rfl rfl
  cancel := fun hc h => h.cancels hc
  turnRaised := fun _ _ _ => trivial
  guardRaised := fun _ _ _ _ _ => trivial
  cancelRaised := fun _ _ _ => trivial
  raised := fun _ _ => trivial

end Turns

end Calls

/-! ## The result -/

/-- An order some run sent, under the id its router gave it. -/
structure Issued where
  runId : String
  instrumentId : InstrumentId
  seq : ℕ

def Issued.cid (o : Issued) : ClientOrderId :=
  clientOrderId o.runId o.instrumentId o.seq

namespace Site

section Result

variable {V S : Type} {ex : Executor V} {snap : AccountSnapshot}
  {c : Recovery S} {d : Durable (V × List ClientOrderId)}

/-- A recovery that returned cancelled the resting orders it does not own. -/
theorem recover_cancels (hcalls : d.venue.2 = [])
    (hsnap : (ex.snapshot d.venue.1).1 = .ok snap)
    (hok : (recovering (recording ex) d c).1 = .ok ()) :
    (recovering (recording ex) d c).2.disk.venue.2 =
      foreign c.pf.runId snap.openOrders := by
  have hwp : Prog.wp (recover (recording ex))
      (fun _ w' => Cancels c.pf.runId snap (.foreign []) w')
      (fun _ _ => True) ⟨c, d, []⟩ := by
    refine recover_rule (w := ⟨c, d, []⟩)
      (I := Cancels c.pf.runId snap) (E := fun _ => True) rfl rfl rfl
      (fun _ _ => trivial) fun snap' hsnap' => ?_
    have heq : Except.ok snap' = (Except.ok snap : Except Exc _) :=
      (show (ex.snapshot d.venue.1).1 = .ok snap' from hsnap').symm.trans hsnap
    obtain rfl := Except.ok.inj heq
    exact ⟨⟨rfl, [], rfl, hcalls⟩, recovers_cancels⟩
  obtain ⟨-, visited, hopen, hvisited⟩ := Prog.wp_returned hwp hok
  have hall : snap.openOrders = visited := hopen.trans (List.append_nil _)
  rw [hall]
  exact hvisited

/-- **Recovery cancels the orders of other runs, but for those that pass for
its own.** Of the orders resting on the venue, whichever runs sent them, a
recovery that returns cancelled exactly those of other runs if and only if none
of these passes for an order of the run that recovers. -/
theorem foreign_cancelled_iff {orders : List Issued} (hcalls : d.venue.2 = [])
    (hsnap : (ex.snapshot d.venue.1).1 = .ok snap)
    (hopen : snap.openOrders = orders.map Issued.cid)
    (hok : (recovering (recording ex) d c).1 = .ok ()) :
    (∀ o ∈ orders,
      o.cid ∈ (recovering (recording ex) d c).2.disk.venue.2 ↔
        o.runId ≠ c.pf.runId) ↔
      ∀ o ∈ orders, o.runId ≠ c.pf.runId →
        ¬ PassesFor c.pf.runId o.runId o.instrumentId := by
  have hmem : ∀ o ∈ orders,
      (o.cid ∈ (recovering (recording ex) d c).2.disk.venue.2 ↔
        ownedBy c.pf.runId o.cid = false) := by
    intro o ho
    have hresting : o.cid ∈ snap.openOrders := by
      rw [hopen]
      exact List.mem_map_of_mem ho
    rw [recover_cancels hcalls hsnap hok, foreign, List.mem_filter]
    simp [hresting]
  refine forall₂_congr fun o ho => ?_
  rw [hmem o ho]
  by_cases hrun : o.runId = c.pf.runId
  · have hown : ownedBy c.pf.runId o.cid = true := by
      rw [Issued.cid, hrun]
      exact ownedBy_own _ _ _
    simp [hown, hrun]
  · have hiff : ownedBy c.pf.runId o.cid = true ↔ _ :=
      ownedBy_iff hrun o.instrumentId o.seq
    rw [← hiff]
    simp [hrun]

end Result

/-! ### A run and its sibling -/

section Siblings

/-- A venue that shows what it is and takes every call. -/
def showing : Executor AccountSnapshot where
  name := "live"
  submit req v := (.ok ⟨req.clientOrderId, none, .accepted, "", 0⟩, v)
  cancel _ v := (.ok (), v)
  placeStop _ _ v := (.ok (), v)
  cancelStop _ v := (.ok (), v)
  snapshot v := (.ok v, v)
  clock _ := 0

/-- The venue where the orders rest. -/
def restingOn (orders : List Issued) :
    Durable (AccountSnapshot × List ClientOrderId) where
  db := Db.empty
  venue := (⟨1000, [], orders.map Issued.cid, [], false, 0⟩, [])
  submitted := []
  refusedDecisions := []

/-- The main run, with no routers to recover. -/
def mainRun : Recovery Unit where
  pf :=
    { runId := "main", startEquity := none, ids := []
      router := fun iid => InstrumentRouter.fresh "main" iid
        { warmup := 0, target := fun s _ => (0, s), onFlatten := none
          onRecover := none } () [] limitsDefault exposureDefault
      lastPnlLevel := none, fundingSeen := fun _ => none
      refusedReported := [] }
  rep := .empty

/-- The order of a hypothesis's run beside the main one. -/
def siblingOrder : Issued := ⟨"main-h3", 1, 1⟩

theorem mainRun_returns :
    (recovering (recording showing) (restingOn [siblingOrder]) mainRun).1 =
      .ok () := Prog.ok_of_toBool (by decide +kernel)

/-- It passes for the main run's, and is left resting. -/
theorem sibling_left_resting :
    ¬ ∀ (orders : List Issued),
      (recovering (recording showing) (restingOn orders) mainRun).1 = .ok () →
      ∀ o ∈ orders,
        o.cid ∈ (recovering (recording showing) (restingOn orders)
          mainRun).2.disk.venue.2 ↔ o.runId ≠ "main" := by
  intro hall
  have h := hall [siblingOrder] mainRun_returns siblingOrder
    (List.mem_singleton.mpr rfl)
  have hnone : (recovering (recording showing) (restingOn [siblingOrder])
      mainRun).2.disk.venue.2 = [] := by
    decide +kernel
  rw [hnone] at h
  exact absurd (h.mpr (by decide)) nofun

theorem foreign_cancelled_sibling :
    (∀ o ∈ [siblingOrder],
      o.cid ∈ (recovering (recording showing) (restingOn [siblingOrder])
        mainRun).2.disk.venue.2 ↔ o.runId ≠ mainRun.pf.runId) ↔
      ∀ o ∈ [siblingOrder], o.runId ≠ mainRun.pf.runId →
        ¬ PassesFor mainRun.pf.runId o.runId o.instrumentId :=
  foreign_cancelled_iff rfl rfl rfl mainRun_returns

end Siblings

end Site

end Polyperps
