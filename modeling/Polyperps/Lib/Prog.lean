import Mathlib

/-!
# Programs that raise, and the durable part of what they touch

A `Prog` runs on a state and either returns or raises; the state it leaves is
there in both cases, because an assignment made before an exception stays
made. `wp` is the weakest precondition of a program for two postconditions,
one for returning and one for raising, and the rules below compute it
constructor by constructor.

A `World` splits the state in two. The memory dies with the process; the disk
does not, and the only way a program changes it is `commit`, one indivisible
write at a time. `past` keeps what the disk held before each commit, oldest
first, so the disks a process stop can leave behind are exactly the ones
`moments` lists: `past`, and the disk at the end. `Ordered` is the statement
about all of them at once: a transitive relation every commit of a run
respects (`Along`) holds between any earlier and any later moment of it.
-/

namespace ProgramLogic

/-- A program: from a state, a result or an exception, and the state left. -/
def Prog (ε σ α : Type) : Type := σ → Except ε α × σ

namespace Prog

variable {ε σ τ α β ι : Type}

instance : Monad (Prog ε σ) where
  pure a := fun s => (.ok a, s)
  bind m f := fun s =>
    match m s with
    | (.ok a, s') => f a s'
    | (.error e, s') => (.error e, s')

def get : Prog ε σ σ := fun s => (.ok s, s)

def modify (f : σ → σ) : Prog ε σ Unit := fun s => (.ok (), f s)

def raise (e : ε) : Prog ε σ α := fun s => (.error e, s)

def ofExcept (x : Except ε α) : Prog ε σ α := fun s => (x, s)

/-- `try m except e: h e`. What `m` changed before it raised stays. -/
def catching (m : Prog ε σ α) (h : ε → Prog ε σ α) : Prog ε σ α := fun s =>
  match m s with
  | (.ok a, s') => (.ok a, s')
  | (.error e, s') => h e s'

/-- `try m` with what it raised handed on as a value. -/
def attempt (m : Prog ε σ α) : Prog ε σ (Except ε α) := fun s =>
  (.ok (m s).1, (m s).2)

/-- A loop over a list, in order. -/
def forEach : List ι → (ι → Prog ε σ Unit) → Prog ε σ Unit
  | [], _ => pure ()
  | x :: xs, body => do
      body x
      forEach xs body

/-- The weakest precondition: `Q` if the program returns, `E` if it raises. -/
def wp (m : Prog ε σ α) (Q : α → σ → Prop) (E : ε → σ → Prop) (s : σ) :
    Prop :=
  match m s with
  | (.ok a, s') => Q a s'
  | (.error e, s') => E e s'

/-- A result that is no exception. -/
theorem ok_of_toBool {x : Except ε Unit} (h : x.toBool = true) : x = .ok () := by
  cases x with
  | ok _ => rfl
  | error e => cases h

section Rules

variable {Q : α → σ → Prop} {E : ε → σ → Prop} {s : σ}

@[simp] theorem wp_pure {a : α} :
    wp (pure a : Prog ε σ α) Q E s = Q a s := rfl

@[simp] theorem wp_bind {m : Prog ε σ β} {f : β → Prog ε σ α} :
    wp (m >>= f) Q E s = wp m (fun b s' => wp (f b) Q E s') E s := by
  show (match (bind m f : Prog ε σ α) s with
    | (.ok a, s') => Q a s'
    | (.error e, s') => E e s') = _
  simp only [bind, wp]
  cases m s with
  | mk r s' => cases r <;> rfl

@[simp] theorem wp_get {Q : σ → σ → Prop} :
    wp (get : Prog ε σ σ) Q E s = Q s s := rfl

@[simp] theorem wp_modify {f : σ → σ} {Q : Unit → σ → Prop} :
    wp (modify f : Prog ε σ Unit) Q E s = Q () (f s) := rfl

@[simp] theorem wp_raise {e : ε} :
    wp (raise e : Prog ε σ α) Q E s = E e s := rfl

@[simp] theorem wp_ofExcept_ok {a : α} :
    wp (ofExcept (.ok a) : Prog ε σ α) Q E s = Q a s := rfl

@[simp] theorem wp_ofExcept_error {e : ε} :
    wp (ofExcept (.error e) : Prog ε σ α) Q E s = E e s := rfl

@[simp] theorem wp_catching {m : Prog ε σ α} {h : ε → Prog ε σ α} :
    wp (catching m h) Q E s = wp m Q (fun e s' => wp (h e) Q E s') s := by
  simp only [catching, wp]
  cases m s with
  | mk r s' => cases r <;> rfl

@[simp] theorem wp_attempt {m : Prog ε σ α}
    {Q : Except ε α → σ → Prop} {E : ε → σ → Prop} :
    wp (attempt m) Q E s =
      wp m (fun a s' => Q (.ok a) s') (fun e s' => Q (.error e) s') s := by
  simp only [attempt, wp]
  cases m s with
  | mk r s' => cases r <;> rfl

theorem wp_of_ok {m : Prog ε σ α} {a : α} {s' : σ}
    (h : m s = (.ok a, s')) : wp m Q E s = Q a s' := by
  simp only [wp, h]

theorem wp_of_error {m : Prog ε σ α} {e : ε} {s' : σ}
    (h : m s = (.error e, s')) : wp m Q E s = E e s' := by
  simp only [wp, h]

theorem ite_apply {c : Prop} [Decidable c] {m n : Prog ε σ α} :
    (if c then m else n) s = if c then m s else n s := by
  split <;> rfl

@[simp] theorem wp_ite {c : Prop} [Decidable c] {m n : Prog ε σ α} :
    wp (if c then m else n) Q E s =
      if c then wp m Q E s else wp n Q E s := by
  split <;> rfl

/-- Consequence: both postconditions may be weakened. -/
theorem wp_mono {m : Prog ε σ α} {Q' : α → σ → Prop} {E' : ε → σ → Prop}
    (h : wp m Q' E' s) (hQ : ∀ a s', Q' a s' → Q a s')
    (hE : ∀ e s', E' e s' → E e s') : wp m Q E s := by
  unfold wp at h ⊢
  split at h
  · exact hQ _ _ h
  · exact hE _ _ h

theorem wp_and {m : Prog ε σ α} {Q' : α → σ → Prop} {E' : ε → σ → Prop}
    (h : wp m Q E s) (h' : wp m Q' E' s) :
    wp m (fun a s' => Q a s' ∧ Q' a s') (fun e s' => E e s' ∧ E' e s') s := by
  unfold wp at h h' ⊢
  split at h
  · next heq => rw [heq] at h'; exact ⟨h, h'⟩
  · next heq => rw [heq] at h'; exact ⟨h, h'⟩

/-- What a specification says of a run that returned. -/
theorem wp_returned {m : Prog ε σ α} {a : α} (h : wp m Q E s)
    (hok : (m s).1 = .ok a) : Q a (m s).2 := by
  unfold wp at h
  split at h
  · next heq =>
      rw [heq] at hok ⊢
      rw [← Except.ok.inj hok]
      exact h
  · next heq => rw [heq] at hok; cases hok

/-- A run that cannot raise returns what its specification says. -/
theorem wp_returns {m : Prog ε σ α} (h : wp m Q E s) (hE : ∀ e s', ¬ E e s') :
    ∃ a s', m s = (.ok a, s') ∧ Q a s' := by
  unfold wp at h
  split at h
  · next a s' heq => exact ⟨a, s', heq, h⟩
  · exact absurd h (hE _ _)

/-- A postcondition that does not look at the outcome is about the state. -/
theorem wp_state {m : Prog ε σ α} {P : σ → Prop} :
    wp m (fun _ => P) (fun _ => P) s ↔ P (m s).2 := by
  unfold wp
  split <;> next heq => rw [heq]

/-- The loop rule: an invariant of the iterations still to come and those
done, kept by one iteration, with whatever an exception leaves. -/
theorem wp_forEach {xs : List ι} {body : ι → Prog ε σ Unit}
    {E : ε → σ → Prop} (I : List ι → σ → Prop)
    (hstep : ∀ x rest s, I (x :: rest) s →
      wp (body x) (fun _ s' => I rest s') E s) :
    ∀ {s}, I xs s → wp (forEach xs body) (fun _ s' => I [] s') E s := by
  induction xs with
  | nil => intro s h; exact h
  | cons x rest ih =>
      intro s h
      rw [forEach, wp_bind]
      exact wp_mono (hstep x rest s h) (fun _ _ hi => ih hi)
        (fun _ _ he => he)

/-- The loop rule for an invariant that only needs the loop's own items. -/
theorem wp_forEach_mem {xs : List ι} {body : ι → Prog ε σ Unit}
    {E : ε → σ → Prop} (I : σ → Prop)
    (hstep : ∀ x ∈ xs, ∀ s, I s → wp (body x) (fun _ s' => I s') E s)
    (h : I s) : wp (forEach xs body) (fun _ s' => I s') E s := by
  induction xs generalizing s with
  | nil => exact h
  | cons x rest ih =>
      rw [forEach, wp_bind]
      refine wp_mono (hstep x (by simp) s h) (fun _ s' hi => ?_)
        (fun _ _ he => he)
      exact ih (fun y hy => hstep y (by simp [hy])) hi

end Rules

/-- Returning a function of the result leaves the same state. -/
@[simp] theorem bind_pure_snd {m : Prog ε σ β} {f : β → α} {s : σ} :
    ((m >>= fun b => pure (f b) : Prog ε σ α) s).2 = (m s).2 := by
  show ((Bind.bind m _ : Prog ε σ α) s).2 = _
  simp only [Bind.bind]
  cases m s with
  | mk r s' => cases r <;> rfl

/-! Equations of programs. -/

theorem bind_of_ok {m : Prog ε σ β} {f : β → Prog ε σ α} {s s' : σ} {b : β}
    (h : m s = (.ok b, s')) : (m >>= f) s = f b s' := by
  show (Bind.bind m f : Prog ε σ α) s = f b s'
  simp only [Bind.bind, h]

theorem bind_of_error {m : Prog ε σ β} {f : β → Prog ε σ α} {s s' : σ} {e : ε}
    (h : m s = (.error e, s')) : (m >>= f) s = (.error e, s') := by
  show (Bind.bind m f : Prog ε σ α) s = (.error e, s')
  simp only [Bind.bind, h]

/-- A sequence that returned, taken apart. -/
theorem bind_returned {m : Prog ε σ β} {f : β → Prog ε σ α} {s s'' : σ} {a : α}
    (h : (m >>= f) s = (.ok a, s'')) :
    ∃ b s', m s = (.ok b, s') ∧ f b s' = (.ok a, s'') := by
  cases hm : m s with
  | mk r s' =>
      cases r with
      | ok b => exact ⟨b, s', rfl, (bind_of_ok hm).symm.trans h⟩
      | error e =>
          rw [bind_of_error hm] at h
          cases h

theorem bind_assoc {γ : Type} {m : Prog ε σ α} {f : α → Prog ε σ β}
    {g : β → Prog ε σ γ} :
    ((m >>= f) >>= g : Prog ε σ γ) = m >>= fun a => f a >>= g := by
  funext s
  simp only [Bind.bind]
  cases m s with
  | mk r s' => cases r <;> rfl

theorem forEach_append {body : ι → Prog ε σ Unit} (xs ys : List ι) :
    forEach (xs ++ ys) body = forEach xs body >>= fun _ => forEach ys body := by
  induction xs with
  | nil => rfl
  | cons x rest ih =>
      rw [List.cons_append, forEach, forEach, ih, bind_assoc]

theorem forEach_congr {xs : List ι} {body body' : ι → Prog ε σ Unit}
    (h : ∀ x ∈ xs, body x = body' x) : forEach xs body = forEach xs body' := by
  induction xs with
  | nil => rfl
  | cons x rest ih =>
      rw [forEach, forEach, h x (by simp),
        ih fun y hy => h y (List.mem_cons_of_mem x hy)]

/-- The run of `m` from `s` relates `s` to the state it leaves, returning or
raising. -/
def Steps (R : σ → σ → Prop) (m : Prog ε σ α) (s : σ) : Prop := R s (m s).2

/-! A preorder that the parts of a program respect is respected by the whole:
these are the frame rules. The rule for `bind` hands the second part the very
state the first one leaves, so what the first did to it can be used. -/

section Frame

variable {R : σ → σ → Prop} {s : σ}

theorem Steps.pure [Std.Refl R] {a : α} :
    Steps R (Pure.pure a : Prog ε σ α) s := refl_of R s

theorem Steps.raise [Std.Refl R] {e : ε} :
    Steps R (Prog.raise e : Prog ε σ α) s := refl_of R s

theorem Steps.ofExcept [Std.Refl R] {x : Except ε α} :
    Steps R (Prog.ofExcept x : Prog ε σ α) s := refl_of R s

theorem Steps.bind [IsTrans σ R] {m : Prog ε σ β} {f : β → Prog ε σ α}
    (hm : Steps R m s) (hf : ∀ b, Steps R (f b) (m s).2) :
    Steps R (m >>= f) s := by
  show R s ((Bind.bind m f : Prog ε σ α) s).2
  unfold Steps at hm hf
  simp only [Bind.bind]
  cases hms : m s with
  | mk r s' =>
      rw [hms] at hm hf
      cases r with
      | ok b => exact trans_of R hm (hf b)
      | error e => exact hm

/-- Where the first part is known to return, only what it returns matters. -/
theorem Steps.bind_ok [IsTrans σ R] {m : Prog ε σ β} {f : β → Prog ε σ α}
    {b : β} {s' : σ} (h : m s = (.ok b, s')) (hm : Steps R m s)
    (hf : Steps R (f b) s') : Steps R (m >>= f) s := by
  show R s ((Bind.bind m f : Prog ε σ α) s).2
  unfold Steps at hm
  rw [h] at hm
  simp only [Bind.bind, h]
  exact trans_of R hm hf

theorem Steps.bind_error {m : Prog ε σ β} {f : β → Prog ε σ α} {e : ε}
    {s' : σ} (h : m s = (.error e, s')) (hm : Steps R m s) :
    Steps R (m >>= f) s := by
  show R s ((Bind.bind m f : Prog ε σ α) s).2
  unfold Steps at hm
  rw [h] at hm
  simp only [Bind.bind, h]
  exact hm

theorem Steps.catching [IsTrans σ R] {m : Prog ε σ α} {h : ε → Prog ε σ α}
    (hm : Steps R m s) (hh : ∀ e, Steps R (h e) (m s).2) :
    Steps R (Prog.catching m h) s := by
  unfold Steps at hm hh ⊢
  simp only [Prog.catching]
  cases hms : m s with
  | mk r s' =>
      rw [hms] at hm hh
      cases r with
      | ok b => exact hm
      | error e => exact trans_of R hm (hh e)

theorem Steps.attempt {m : Prog ε σ α} (hm : Steps R m s) :
    Steps R (Prog.attempt m) s := hm

/-- A loop, with an invariant of the items still to come and the state. -/
theorem Steps.forEach [Std.Refl R] [IsTrans σ R] {xs : List ι}
    {body : ι → Prog ε σ Unit} (I : List ι → σ → Prop)
    (h : ∀ x rest s, I (x :: rest) s →
      Steps R (body x) s ∧ I rest (body x s).2) (hs : I xs s) :
    Steps R (Prog.forEach xs body) s := by
  induction xs generalizing s with
  | nil => exact Steps.pure
  | cons x rest ih =>
      rw [Prog.forEach]
      obtain ⟨hx, hrest⟩ := h x rest s hs
      exact Steps.bind hx fun _ => ih hrest

theorem Steps.wp {m : Prog ε σ α} (h : Steps R m s) :
    Prog.wp m (fun _ s' => R s s') (fun _ s' => R s s') s :=
  wp_state.mpr h

theorem Steps.mono {R' : σ → σ → Prop} {m : Prog ε σ α} (h : Steps R m s)
    (hR : ∀ s', R s s' → R' s s') : Steps R' m s := hR _ h

end Frame

end Prog

/-- What a process works on: memory that dies with it, a disk that does not,
and what the disk held before each commit made so far. -/
structure World (δ μ : Type) where
  mem : μ
  disk : δ
  past : List δ

namespace World

variable {δ μ : Type}

/-- Every value the disk has had, oldest first: what a process stopped at any
point leaves behind. -/
def moments (w : World δ μ) : List δ := w.past ++ [w.disk]

/-- `R` relates every earlier moment to every later one. -/
def Ordered (R : δ → δ → Prop) (w : World δ μ) : Prop := w.moments.Pairwise R

/-- One commit along `R`, with any change of memory, or a change of memory
alone. -/
inductive Write (R : δ → δ → Prop) : World δ μ → World δ μ → Prop
  | memory {w : World δ μ} (m : μ) : Write R w { w with mem := m }
  | commit {w : World δ μ} (m : μ) (d : δ) (h : R w.disk d) :
      Write R w { mem := m, disk := d, past := w.past ++ [w.disk] }

/-- A chain of commits, each along `R`. -/
def Along (R : δ → δ → Prop) : World δ μ → World δ μ → Prop :=
  Relation.ReflTransGen (Write R)

/-- What a run leaves in the end is related by `R` to everything it passed
through on the way. -/
def Ends (R : δ → δ → Prop) (w w' : World δ μ) : Prop :=
  R w.disk w'.disk ∧ ∀ d ∈ w'.moments, d ∈ w.moments ∨ R d w'.disk

variable {R : δ → δ → Prop}

instance : Std.Refl (Along R : World δ μ → World δ μ → Prop) :=
  inferInstanceAs (Std.Refl (Relation.ReflTransGen _))

instance : IsTrans (World δ μ) (Along R) :=
  inferInstanceAs (IsTrans _ (Relation.ReflTransGen _))

theorem mem_moments_self (w : World δ μ) : w.disk ∈ w.moments := by
  simp [moments]

theorem moments_commit (w : World δ μ) (m : μ) (d : δ) :
    World.moments { mem := m, disk := d, past := w.past ++ [w.disk] } =
      w.moments ++ [d] := rfl

theorem Along.memory {w : World δ μ} (m : μ) :
    Along R w { w with mem := m } := .single (.memory m)

theorem Along.commit {w : World δ μ} (m : μ) (d : δ) (h : R w.disk d) :
    Along R w { mem := m, disk := d, past := w.past ++ [w.disk] } :=
  .single (.commit m d h)

theorem Along.mono {R' : δ → δ → Prop} {w w' : World δ μ}
    (hR : ∀ d d', R d d' → R' d d') (h : Along R w w') : Along R' w w' := by
  refine Relation.ReflTransGen.mono (fun _ _ hw => ?_) _ _ h
  cases hw with
  | memory m => exact .memory m
  | commit m d hd => exact .commit m d (hR _ _ hd)

/-- The memory plays no part in it. -/
theorem Along.remember {ν : Type} {w w' : World δ μ} (h : Along R w w')
    (m m' : ν) :
    Along R (⟨m, w.disk, w.past⟩ : World δ ν) ⟨m', w'.disk, w'.past⟩ := by
  induction h generalizing m' with
  | refl => exact .memory m'
  | tail _ hw ih =>
      cases hw with
      | memory _ => exact ih m'
      | commit _ d hd => exact (ih m).tail (.commit m' d hd)

/-- Commits along a transitive relation extend an ordered history. -/
theorem Along.ordered [IsTrans δ R] {w w' : World δ μ} (h : Along R w w')
    (hw : w.Ordered R) : w'.Ordered R := by
  induction h with
  | refl => exact hw
  | tail _ hstep ih =>
      cases hstep with
      | memory _ => exact ih
      | commit m d hd =>
          unfold Ordered at ih ⊢
          rw [moments_commit, List.pairwise_append]
          refine ⟨ih, by simp, fun a ha b hb => ?_⟩
          rw [List.mem_singleton.mp hb]
          rw [moments, List.pairwise_append] at ih
          rcases List.mem_append.mp ha with hpast | hlast
          · exact trans_of R (ih.2.2 a hpast _ (by simp)) hd
          · rw [List.mem_singleton.mp hlast]; exact hd

/-- What a chain of commits passes through lies between its ends. -/
theorem Along.between [Std.Refl R] [IsTrans δ R] {w w' : World δ μ}
    (h : Along R w w') : R w.disk w'.disk ∧ ∀ d ∈ w'.moments,
      d ∈ w.moments ∨ (R w.disk d ∧ R d w'.disk) := by
  induction h with
  | refl => exact ⟨refl_of R _, fun d hd => Or.inl hd⟩
  | tail _ hstep ih =>
      cases hstep with
      | memory _ => exact ih
      | commit m d hd =>
          have hall := trans_of R ih.1 hd
          refine ⟨hall, fun a ha => ?_⟩
          rw [moments_commit] at ha
          rcases List.mem_append.mp ha with hold | hnew
          · rcases ih.2 a hold with h1 | h1
            · exact Or.inl h1
            · exact Or.inr ⟨h1.1, trans_of R h1.2 hd⟩
          · rw [List.mem_singleton.mp hnew]
            exact Or.inr ⟨hall, refl_of R d⟩

theorem Along.ends [Std.Refl R] [IsTrans δ R] {w w' : World δ μ}
    (h : Along R w w') : Ends R w w' :=
  ⟨h.between.1, fun d hd => (h.between.2 d hd).imp_right And.right⟩

theorem Along.moments_prefix {w w' : World δ μ} (h : Along R w w') :
    w.moments <+: w'.moments := by
  induction h with
  | refl => exact List.prefix_rfl
  | tail _ hstep ih =>
      cases hstep with
      | memory _ => exact ih
      | commit m d _ => exact ih.trans (List.prefix_append _ [d])

/-- A run cut short at some moment leaves a disk that every moment passed
through, and the disk it started from, is related to. -/
theorem Along.cut [Std.Refl R] [IsTrans δ R] {m : μ} {d d' : δ}
    {w' : World δ μ} {ms : List δ} (h : Along R ⟨m, d, []⟩ w')
    (hcut : ms ++ [d'] <+: w'.moments) : ∀ a ∈ d :: (ms ++ [d']), R a d' := by
  have hord : w'.Ordered R := h.ordered (List.pairwise_singleton R d)
  have hpre : [d] <+: ms ++ [d'] :=
    List.prefix_of_prefix_length_le h.moments_prefix hcut (by simp)
  have hms : ∀ a ∈ ms ++ [d'], R a d' := by
    intro a ha
    rcases List.mem_append.mp ha with h1 | h1
    · exact (List.pairwise_append.mp (hord.sublist hcut.sublist)).2.2 a h1 d'
        (by simp)
    · rw [List.mem_singleton.mp h1]; exact refl_of R d'
  intro a ha
  rcases List.mem_cons.mp ha with rfl | ha
  · exact hms a (hpre.subset (List.mem_singleton_self a))
  · exact hms a ha

/-- A whole run leaves a disk that everything it passed through, and what it
started from, is related to. -/
theorem Ends.all {m : μ} {d : δ} {w' : World δ μ} (h : Ends R ⟨m, d, []⟩ w') :
    ∀ a ∈ d :: w'.moments, R a w'.disk := by
  intro a ha
  rcases List.mem_cons.mp ha with rfl | ha
  · exact h.1
  · rcases h.2 a ha with h1 | h1
    · rw [show a = d by simpa [moments] using h1]; exact h.1
    · exact h1

theorem Ends.mono {R' : δ → δ → Prop} {w w' : World δ μ} (h : Ends R w w')
    (hR : ∀ d d', R d d' → R' d d') : Ends R' w w' :=
  ⟨hR _ _ h.1, fun d hd => (h.2 d hd).imp_right (hR _ _)⟩

theorem Ends.trans [IsTrans δ R] {w w' w'' : World δ μ} (h : Ends R w w')
    (h' : Ends R w' w'') : Ends R w w'' := by
  refine ⟨trans_of R h.1 h'.1, fun d hd => ?_⟩
  rcases h'.2 d hd with h1 | h1
  · rcases h.2 d h1 with h2 | h2
    · exact Or.inl h2
    · exact Or.inr (trans_of R h2 h'.1)
  · exact Or.inr h1

end World

/-! ## Programs over a world -/

section OverWorld

variable {ε δ μ ν α β : Type}

namespace Prog

def mem : Prog ε (World δ μ) μ := fun w => (.ok w.mem, w)

def modifyMem (f : μ → μ) : Prog ε (World δ μ) Unit := fun w =>
  (.ok (), { w with mem := f w.mem })

/-- Reading the disk changes nothing and is no place to stop at. -/
def disk (f : δ → α) : Prog ε (World δ μ) α := fun w => (.ok (f w.disk), w)

/-- One write, or one call that leaves the process: indivisible. -/
def commit (f : δ → Except ε α × δ) : Prog ε (World δ μ) α := fun w =>
  ((f w.disk).1, { w with disk := (f w.disk).2, past := w.past ++ [w.disk] })

/-- Run a program on one part of the memory. -/
def focus (part : μ → ν) (put : ν → μ → μ) (m : Prog ε (World δ ν) α) :
    Prog ε (World δ μ) α := fun w =>
  let (r, w') := m { mem := part w.mem, disk := w.disk, past := w.past }
  (r, { mem := put w'.mem w.mem, disk := w'.disk, past := w'.past })

section Rules

variable {w : World δ μ}

@[simp] theorem wp_mem {Q : μ → World δ μ → Prop} {E : ε → World δ μ → Prop} :
    wp (mem : Prog ε (World δ μ) μ) Q E w = Q w.mem w := rfl

@[simp] theorem wp_modifyMem {f : μ → μ} {Q : Unit → World δ μ → Prop}
    {E : ε → World δ μ → Prop} :
    wp (modifyMem f : Prog ε (World δ μ) Unit) Q E w =
      Q () { w with mem := f w.mem } := rfl

@[simp] theorem wp_disk {f : δ → α} {Q : α → World δ μ → Prop}
    {E : ε → World δ μ → Prop} :
    wp (disk f : Prog ε (World δ μ) α) Q E w = Q (f w.disk) w := rfl

theorem wp_commit {f : δ → Except ε α × δ} {Q : α → World δ μ → Prop}
    {E : ε → World δ μ → Prop} :
    wp (commit f : Prog ε (World δ μ) α) Q E w =
      match f w.disk with
      | (.ok a, d) => Q a { w with disk := d, past := w.past ++ [w.disk] }
      | (.error e, d) =>
          E e { w with disk := d, past := w.past ++ [w.disk] } := by
  simp only [wp, commit]
  cases f w.disk with
  | mk r d => cases r <;> rfl

/-- A commit that cannot fail. -/
@[simp] theorem wp_commit_ok {g : δ → α} {f : δ → δ}
    {Q : α → World δ μ → Prop} {E : ε → World δ μ → Prop} :
    wp (commit fun d => (.ok (g d), f d) : Prog ε (World δ μ) α) Q E w =
      Q (g w.disk)
        { w with disk := f w.disk, past := w.past ++ [w.disk] } := rfl

@[simp] theorem wp_focus {part : μ → ν} {put : ν → μ → μ}
    {m : Prog ε (World δ ν) α} {Q : α → World δ μ → Prop}
    {E : ε → World δ μ → Prop} :
    wp (focus part put m) Q E w =
      wp m
        (fun a w' => Q a
          { mem := put w'.mem w.mem, disk := w'.disk, past := w'.past })
        (fun e w' => E e
          { mem := put w'.mem w.mem, disk := w'.disk, past := w'.past })
        { mem := part w.mem, disk := w.disk, past := w.past } := by
  simp only [wp, focus]
  cases m { mem := part w.mem, disk := w.disk, past := w.past } with
  | mk r w' => cases r <;> rfl

theorem disk_bind_apply {g : δ → β} {f : β → Prog ε (World δ μ) α} :
    (disk g >>= f) w = f (g w.disk) w := rfl

theorem mem_bind_apply {f : μ → Prog ε (World δ μ) α} :
    (mem >>= f) w = f w.mem w := rfl

/-! Reading changes nothing, so a frame fact of what follows is one of the
whole, with the value read in place. -/

theorem Steps.mem_bind {R : World δ μ → World δ μ → Prop}
    {f : μ → Prog ε (World δ μ) α} (h : Steps R (f w.mem) w) :
    Steps R (mem >>= f) w := h

theorem Steps.disk_bind {R : World δ μ → World δ μ → Prop} {g : δ → β}
    {f : β → Prog ε (World δ μ) α} (h : Steps R (f (g w.disk)) w) :
    Steps R (disk g >>= f) w := h

end Rules

end Prog

end OverWorld

end ProgramLogic
