import Mathlib

/-!
# The proleptic Gregorian calendar

Days are counted from 1 January of the year 1, which is day 1. `ymd2ord` is
the count of a date and `ord2ymd` the date of a count; the second divides off
400-year, 100-year, 4-year and 1-year cycles, and finds the month by an
estimate that is at most one too high. They are inverse to each other, and the
count orders dates as year, month and day do.
-/

namespace Calendar

def isLeap (year : ℕ) : Bool :=
  year % 4 = 0 && (year % 100 ≠ 0 || year % 400 = 0)

/-- Days in the years before `year`. -/
def daysBeforeYear (year : ℕ) : ℕ :=
  let y := year - 1
  y * 365 + y / 4 - y / 100 + y / 400

/-- Days in a month of a year that is a leap year or not. -/
def daysInMonth (leap : Bool) (month : ℕ) : ℕ :=
  if month = 2 then if leap then 29 else 28
  else if month = 4 ∨ month = 6 ∨ month = 9 ∨ month = 11 then 30
  else 31

/-- Days in the months before `month`. -/
def daysBeforeMonth (leap : Bool) (month : ℕ) : ℕ :=
  [0, 0, 31, 59, 90, 120, 151, 181, 212, 243, 273, 304, 334].getD month 365
    + if 2 < month ∧ leap then 1 else 0

structure Date where
  year : ℕ
  month : ℕ
  day : ℕ
deriving DecidableEq

namespace Date

def Valid (d : Date) : Prop :=
  1 ≤ d.year ∧ 1 ≤ d.month ∧ d.month ≤ 12 ∧ 1 ≤ d.day ∧
    d.day ≤ daysInMonth (isLeap d.year) d.month

instance (d : Date) : Decidable d.Valid :=
  inferInstanceAs (Decidable (_ ∧ _))

/-- Earlier by year, then by month, then by day. -/
def Before (d e : Date) : Prop :=
  d.year < e.year ∨ (d.year = e.year ∧
    (d.month < e.month ∨ (d.month = e.month ∧ d.day < e.day)))

end Date

def ymd2ord (d : Date) : ℕ :=
  daysBeforeYear d.year + daysBeforeMonth (isLeap d.year) d.month + d.day

/-- The month of day `n` of a year, which starts with day 0, and its day. -/
def monthOf (leap : Bool) (n : ℕ) : ℕ × ℕ :=
  let month := (n + 50) / 32
  if n < daysBeforeMonth leap month then
    (month - 1, n - daysBeforeMonth leap (month - 1) + 1)
  else (month, n - daysBeforeMonth leap month + 1)

def ord2ymd (ordinal : ℕ) : Date :=
  let n := ordinal - 1
  let n400 := n / 146097
  let n := n % 146097
  let n100 := n / 36524
  let n := n % 36524
  let n4 := n / 1461
  let n := n % 1461
  let n1 := n / 365
  let n := n % 365
  let year := n400 * 400 + n100 * 100 + n4 * 4 + n1 + 1
  if n1 = 4 ∨ n100 = 4 then ⟨year - 1, 12, 31⟩
  else
    let leap := n1 = 3 ∧ (n4 ≠ 24 ∨ n100 = 3)
    let md := monthOf leap n
    ⟨year, md.1, md.2⟩

/-! ## Years -/

theorem daysBeforeYear_succ {year : ℕ} (h : 1 ≤ year) :
    daysBeforeYear (year + 1) =
      daysBeforeYear year + 365 + if isLeap year then 1 else 0 := by
  obtain ⟨k, rfl⟩ := Nat.exists_eq_add_of_le' h
  have h4 : (k + 1) / 4 = k / 4 + if (k + 1) % 4 = 0 then 1 else 0 := by
    split <;> omega
  have h100 : (k + 1) / 100 = k / 100 + if (k + 1) % 100 = 0 then 1 else 0 := by
    split <;> omega
  have h400 : (k + 1) / 400 = k / 400 + if (k + 1) % 400 = 0 then 1 else 0 := by
    split <;> omega
  have hleast : k / 100 ≤ k / 4 := Nat.div_le_div_left (by decide) (by decide)
  have h25 : (k + 1) % 100 = 0 → (k + 1) % 4 = 0 := by omega
  have h4' : (k + 1) % 400 = 0 → (k + 1) % 100 = 0 := by omega
  unfold daysBeforeYear isLeap
  simp only [Nat.add_sub_cancel, h4, h100, h400, Bool.and_eq_true,
    Bool.or_eq_true, decide_eq_true_eq]
  generalize k / 4 = q4 at *
  generalize k / 100 = q100 at *
  generalize k / 400 = q400 at *
  split_ifs <;> omega

theorem daysBeforeYear_mono {y z : ℕ} (hy : 1 ≤ y) (h : y ≤ z) :
    daysBeforeYear y ≤ daysBeforeYear z := by
  induction z, h using Nat.le_induction with
  | base => exact le_rfl
  | succ z hz ih =>
      rw [daysBeforeYear_succ (hy.trans hz)]
      omega

/-- A year's days by its cycles of 400, 100, 4 and 1 years. -/
theorem daysBeforeYear_cycles {a b c d : ℕ} (hb : b ≤ 3) (hc : c ≤ 24)
    (hd : d ≤ 3) : daysBeforeYear (a * 400 + b * 100 + c * 4 + d + 1) =
      a * 146097 + b * 36524 + c * 1461 + d * 365 := by
  unfold daysBeforeYear
  dsimp only
  omega

theorem isLeap_cycles {a b c d : ℕ} (hb : b ≤ 3) (hc : c ≤ 24) (hd : d ≤ 3) :
    isLeap (a * 400 + b * 100 + c * 4 + d + 1) =
      decide (d = 3 ∧ (c ≠ 24 ∨ b = 3)) := by
  unfold isLeap
  rw [Bool.eq_iff_iff]
  simp only [Bool.and_eq_true, Bool.or_eq_true, decide_eq_true_eq]
  omega

/-! ## Months -/

theorem daysBeforeMonth_succ (leap : Bool) {month : ℕ} (h : 1 ≤ month)
    (h' : month ≤ 11) : daysBeforeMonth leap (month + 1) =
      daysBeforeMonth leap month + daysInMonth leap month := by
  interval_cases month <;> cases leap <;> rfl

theorem daysInMonth_le (leap : Bool) (month : ℕ) :
    daysInMonth leap month ≤ 31 := by
  unfold daysInMonth
  split_ifs <;> omega

theorem daysBeforeMonth_mono (leap : Bool) {m k : ℕ} (h : 1 ≤ m) (hmk : m ≤ k)
    (hk : k ≤ 12) : daysBeforeMonth leap m ≤ daysBeforeMonth leap k := by
  induction k, hmk using Nat.le_induction with
  | base => exact le_rfl
  | succ k hmk ih =>
      rw [daysBeforeMonth_succ leap (by omega) (by omega)]
      have hprev := ih (by omega)
      omega

/-- The months of a year fill it. -/
theorem daysBeforeMonth_december (leap : Bool) :
    daysBeforeMonth leap 12 + daysInMonth leap 12 =
      365 + if leap then 1 else 0 := by
  cases leap <;> rfl

/-- A day of a month is a day of its year. -/
theorem day_le_year {leap : Bool} {month day : ℕ} (hm : 1 ≤ month)
    (hm' : month ≤ 12) (hd : day ≤ daysInMonth leap month) :
    daysBeforeMonth leap month + day ≤ 365 + if leap then 1 else 0 := by
  rw [← daysBeforeMonth_december]
  rcases Nat.lt_or_ge month 12 with hlt | hge
  · have hsucc := daysBeforeMonth_succ leap hm (Nat.le_of_lt_succ hlt)
    have hmono := daysBeforeMonth_mono leap (m := month + 1) (k := 12)
      (by omega) hlt le_rfl
    omega
  · obtain rfl : month = 12 := le_antisymm hm' hge
    omega

/-- The estimate finds the month. -/
theorem monthOf_spec (leap : Bool) {n : ℕ}
    (h : n < 365 + if leap then 1 else 0) :
    1 ≤ (monthOf leap n).1 ∧ (monthOf leap n).1 ≤ 12 ∧
      1 ≤ (monthOf leap n).2 ∧
      (monthOf leap n).2 ≤ daysInMonth leap (monthOf leap n).1 ∧
      daysBeforeMonth leap (monthOf leap n).1 + (monthOf leap n).2 = n + 1 := by
  have hall : ∀ leap : Bool, ∀ n < 366, n < 365 + (if leap then 1 else 0) →
      1 ≤ (monthOf leap n).1 ∧ (monthOf leap n).1 ≤ 12 ∧
        1 ≤ (monthOf leap n).2 ∧
        (monthOf leap n).2 ≤ daysInMonth leap (monthOf leap n).1 ∧
        daysBeforeMonth leap (monthOf leap n).1 + (monthOf leap n).2 =
          n + 1 := by
    decide +kernel
  refine hall leap n ?_ h
  cases leap <;> simp at h <;> omega

/-! ## Counts and dates -/

/-- The count orders valid dates. -/
theorem ymd2ord_lt {d e : Date} (hd : d.Valid) (he : e.Valid)
    (h : d.Before e) : ymd2ord d < ymd2ord e := by
  obtain ⟨hy, hm, hm', -, hday⟩ := hd
  obtain ⟨-, hm₂, hm₂', hday₂, -⟩ := he
  unfold ymd2ord
  rcases h with hyear | ⟨hyear, hmonth | ⟨hmonth, hlt⟩⟩
  · have hin := day_le_year hm hm' hday
    have hsucc := daysBeforeYear_succ hy
    have hmono : daysBeforeYear (d.year + 1) ≤ daysBeforeYear e.year :=
      daysBeforeYear_mono (by omega) hyear
    omega
  · rw [hyear] at hday ⊢
    have hsucc := daysBeforeMonth_succ (isLeap e.year) hm (by omega)
    have hmono := daysBeforeMonth_mono (isLeap e.year) (m := d.month + 1)
      (by omega) hmonth hm₂'
    omega
  · rw [hyear, hmonth]
    omega

theorem Date.trichotomy (d e : Date) : d.Before e ∨ d = e ∨ e.Before d := by
  unfold Before
  obtain ⟨y, m, day⟩ := d
  obtain ⟨y', m', day'⟩ := e
  simp only [Date.mk.injEq]
  omega

/-- The last day of a leap year. -/
theorem december_31 {a b c : ℕ} (hb : b ≤ 3) (hc : c ≤ 24)
    (hleap : c ≠ 24 ∨ b = 3) :
    Date.Valid ⟨a * 400 + b * 100 + c * 4 + 3 + 1, 12, 31⟩ ∧
      ymd2ord ⟨a * 400 + b * 100 + c * 4 + 3 + 1, 12, 31⟩ =
        a * 146097 + b * 36524 + c * 1461 + 3 * 365 + 366 := by
  have hcycles : isLeap (a * 400 + b * 100 + c * 4 + 3 + 1) = true := by
    rw [isLeap_cycles hb hc le_rfl]
    simpa using hleap
  have hmonth : daysBeforeMonth true 12 = 335 := rfl
  refine ⟨⟨Nat.succ_le_succ (Nat.zero_le _), show 1 ≤ 12 by decide,
    show 12 ≤ 12 by decide, show 1 ≤ 31 by decide, ?_⟩, ?_⟩
  · rw [hcycles]
    exact show 31 ≤ 31 by decide
  · show daysBeforeYear _ + daysBeforeMonth _ 12 + 31 = _
    rw [hcycles, hmonth, daysBeforeYear_cycles hb hc le_rfl]

/-- The date of a count is valid, and its count is the count. -/
theorem ord2ymd_spec {n : ℕ} (h : 1 ≤ n) :
    (ord2ymd n).Valid ∧ ymd2ord (ord2ymd n) = n := by
  obtain ⟨m, rfl⟩ := Nat.exists_eq_add_of_le' h
  unfold ord2ymd
  simp only [Nat.add_sub_cancel]
  have h400 := Nat.div_add_mod m 146097
  have hr1 := Nat.mod_lt m (show 0 < 146097 by decide)
  generalize m / 146097 = a at *
  generalize m % 146097 = r1 at *
  have h100 := Nat.div_add_mod r1 36524
  have hr2 := Nat.mod_lt r1 (show 0 < 36524 by decide)
  generalize r1 / 36524 = b at *
  generalize r1 % 36524 = r2 at *
  have h4 := Nat.div_add_mod r2 1461
  have hr3 := Nat.mod_lt r2 (show 0 < 1461 by decide)
  generalize r2 / 1461 = c at *
  generalize r2 % 1461 = r3 at *
  have h1 := Nat.div_add_mod r3 365
  have hr4 := Nat.mod_lt r3 (show 0 < 365 by decide)
  generalize r3 / 365 = d at *
  generalize r3 % 365 = r4 at *
  have hc : c ≤ 24 := by omega
  split
  · next hlast =>
    by_cases hb : b = 4
    · -- the day after four centuries ends the last of their years
      obtain ⟨rfl, rfl, rfl⟩ : c = 0 ∧ d = 0 ∧ r4 = 0 := by omega
      have hcount : a * 146097 + 3 * 36524 + 24 * 1461 + 3 * 365 + 366 =
          m + 1 := by omega
      subst hb
      have hyear : a * 400 + 3 * 100 + 24 * 4 + 3 + 1 =
          a * 400 + 4 * 100 + 0 * 4 + 0 := by ring
      have hday := december_31 (a := a) (b := 3) (c := 24) le_rfl le_rfl
        (.inr rfl)
      rw [hyear] at hday
      exact ⟨hday.1, hday.2.trans hcount⟩
    · have hd : d = 4 := by omega
      have hleap : c ≠ 24 ∨ b = 3 := by omega
      have hcount : a * 146097 + b * 36524 + c * 1461 + 3 * 365 + 366 =
          m + 1 := by omega
      have hb : b ≤ 3 := by omega
      subst hd
      have hyear : a * 400 + b * 100 + c * 4 + 3 + 1 =
          a * 400 + b * 100 + c * 4 + 4 := by ring
      have hday := december_31 (a := a) hb hc hleap
      rw [hyear] at hday
      exact ⟨hday.1, hday.2.trans hcount⟩
  · next hlast =>
    have hb : b ≤ 3 := by omega
    have hd : d ≤ 3 := by omega
    have hleap := isLeap_cycles (a := a) hb hc hd
    obtain ⟨hm, hm', hday, hday', hcount⟩ := monthOf_spec
      (decide (d = 3 ∧ (c ≠ 24 ∨ b = 3))) (n := r4) (by omega)
    refine ⟨⟨Nat.succ_le_succ (Nat.zero_le _), hm, hm', hday, ?_⟩, ?_⟩
    · rw [hleap]
      exact hday'
    · unfold ymd2ord
      dsimp only
      rw [hleap, daysBeforeYear_cycles hb hc hd]
      omega

end Calendar
