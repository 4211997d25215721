import Polyperps.Storage.Timestamps

/-!
# Stored timestamps sort like times

In UTC every text ends in `+00:00`, and before it stand fields of fixed width,
so two texts compare field by field as the times do. The one place where their
lengths differ is the fraction, and there the sign of the offset comes before
the decimal point. With any offset the text is read back as it was written.
-/

namespace Polyperps

namespace Timestamps

open Calendar FixedWidth

/-! ## Instants -/

theorem timeOfDay_lt {h m s us : ℕ} (hh : h < 24) (hm : m < 60) (hs : s < 60)
    (hus : us < 1000000) : timeOfDay h m s us < day := by
  unfold timeOfDay day hour minute second
  omega

theorem timeOfDay_nonneg {h m s us : ℕ} : 0 ≤ timeOfDay h m s us := by
  unfold timeOfDay hour minute second
  omega

/-- The time of a day orders its fields. -/
theorem timeOfDay_lt_iff {h m s us h' m' s' us' : ℕ} (hm : m < 60)
    (hs : s < 60) (hus : us < 1000000) (hm' : m' < 60) (hs' : s' < 60)
    (hus' : us' < 1000000) :
    timeOfDay h m s us < timeOfDay h' m' s' us' ↔
      h < h' ∨ (h = h' ∧ (m < m' ∨ (m = m' ∧
        (s < s' ∨ (s = s' ∧ us < us'))))) := by
  unfold timeOfDay hour minute second
  omega

/-- Days order first, then the times of the days. -/
theorem naive_lt_iff {a b : Fields} (ha : a.Valid) (hb : b.Valid) :
    naive a < naive b ↔ a.date.Before b.date ∨ (a.date = b.date ∧
      timeOfDay a.hour a.minute a.second a.microsecond <
        timeOfDay b.hour b.minute b.second b.microsecond) := by
  obtain ⟨⟨hd, -⟩, ⟨hh, hm, hs, hus⟩, -⟩ := ha
  obtain ⟨⟨hd', -⟩, ⟨hh', hm', hs', hus'⟩, -⟩ := hb
  have hlt := timeOfDay_lt hh hm hs hus
  have hlt' := timeOfDay_lt hh' hm' hs' hus'
  have hnn : 0 ≤ timeOfDay a.hour a.minute a.second a.microsecond :=
    timeOfDay_nonneg
  have hnn' : 0 ≤ timeOfDay b.hour b.minute b.second b.microsecond :=
    timeOfDay_nonneg
  have hday : day = 86400000000 := by decide
  unfold naive
  generalize timeOfDay a.hour a.minute a.second a.microsecond = t at *
  generalize timeOfDay b.hour b.minute b.second b.microsecond = t' at *
  rw [hday] at hlt hlt' ⊢
  rcases a.date.trichotomy b.date with h | h | h
  · have hord := ymd2ord_lt hd hd' h
    exact iff_of_true (by omega) (.inl h)
  · rw [h]
    constructor
    · intro hlt
      exact .inr ⟨rfl, by omega⟩
    · rintro (hb | ⟨-, hlt⟩)
      · exact absurd (ymd2ord_lt hd' hd' hb) (lt_irrefl _)
      · omega
  · have hord := ymd2ord_lt hd' hd h
    refine iff_of_false (by omega) ?_
    rintro (hb | ⟨hb, -⟩)
    · exact absurd (ymd2ord_lt hd hd' hb) hord.not_gt
    · rw [hb] at hord
      exact absurd hord (lt_irrefl _)

/-- The fields of an instant are those of the instant. -/
theorem naive_utcFields {t : ℤ} (h : Representable t) :
    naive (utcFields t) = t := by
  obtain ⟨hlo, -⟩ := h
  have hord := (ord2ymd_spec
    (show 1 ≤ (t / day + epochOrdinal).toNat by omega)).2
  have hdays : ((t / day + epochOrdinal).toNat : ℤ) - epochOrdinal = t / day := by
    omega
  have hrest : 0 ≤ t % day := Int.emod_nonneg t (by decide)
  have htime : timeOfDay (utcFields t).hour (utcFields t).minute
      (utcFields t).second (utcFields t).microsecond = t % day := by
    unfold timeOfDay utcFields hour minute second
    dsimp only
    omega
  unfold naive
  rw [htime]
  show ((ymd2ord (ord2ymd (t / day + epochOrdinal).toNat) : ℤ)
    - epochOrdinal) * day + t % day = t
  rw [hord, hdays, Int.ediv_mul_add_emod]

/-! ## The order of the texts -/

/-- The offset's sign comes before the decimal point. -/
theorem fraction_lt_iff {us us' : ℕ} (hus : us < 1000000)
    (hus' : us' < 1000000) :
    fractionText us ++ offsetText 0 < fractionText us' ++ offsetText 0 ↔
      us < us' := by
  have hsign : ∀ x y : FixedWidth.Text, '+' :: x < '.' :: y := by
    intro x y
    rw [List.cons_lt_cons_iff]
    exact .inl (by decide)
  have hplus : ∃ x, offsetText 0 = '+' :: x := ⟨_, rfl⟩
  obtain ⟨x, hx⟩ := hplus
  rw [hx]
  unfold fractionText
  split_ifs with h h' h'
  · rw [h, h']
    exact iff_of_false (lt_irrefl _) (lt_irrefl _)
  · exact iff_of_true (hsign _ _) (by omega)
  · exact iff_of_false (hsign _ _).not_gt (by omega)
  · rw [List.cons_append, List.cons_append, cons_lt_iff]
    exact pad_lt_iff hus hus'

/-- In UTC the texts compare as the fields do. -/
theorem isoformat_lt_iff {a b : Fields} (ha : a.Valid) (hb : b.Valid)
    (ha0 : a.utcoffset = 0) (hb0 : b.utcoffset = 0) :
    isoformat a < isoformat b ↔ naive a < naive b := by
  rw [naive_lt_iff ha hb]
  obtain ⟨⟨⟨-, -, hmo, -, hd⟩, hy⟩, ⟨hh, hm, hs, hus⟩, -⟩ := ha
  obtain ⟨⟨⟨-, -, hmo', -, hd'⟩, hy'⟩, ⟨hh', hm', hs', hus'⟩, -⟩ := hb
  have hd := hd.trans (daysInMonth_le _ _)
  have hd' := hd'.trans (daysInMonth_le _ _)
  unfold isoformat
  rw [ha0, hb0,
    pad_append_lt_iff (by omega) (by omega), cons_lt_iff,
    pad_append_lt_iff (by omega) (by omega), cons_lt_iff,
    pad_append_lt_iff (by omega) (by omega), cons_lt_iff,
    pad_append_lt_iff (by omega) (by omega), cons_lt_iff,
    pad_append_lt_iff (by omega) (by omega), cons_lt_iff,
    pad_append_lt_iff (by omega) (by omega), fraction_lt_iff hus hus',
    timeOfDay_lt_iff hm hs hus hm' hs' hus']
  have hdate : a.date = b.date ↔ a.date.year = b.date.year ∧
      a.date.month = b.date.month ∧ a.date.day = b.date.day := by
    cases a.date
    cases b.date
    simp
  rw [hdate]
  unfold Date.Before
  simp only [and_or_left, or_assoc, and_assoc]

/-! ## Reading back -/

theorem readFraction_text {us : ℕ} {rest : FixedWidth.Text} (h : us < 1000000)
    (hrest : ∀ x, rest ≠ '.' :: x) :
    readFraction (fractionText us ++ rest) = some (us, rest) := by
  unfold fractionText
  split
  · next h0 =>
    rw [h0, List.nil_append]
    match rest with
    | [] => rfl
    | c :: tail =>
        unfold readFraction
        split
        · next tail' heq => exact absurd heq (hrest tail')
        · rfl
  · rw [List.cons_append, readFraction, readDigits_pad h, Nat.zero_mul,
      Nat.zero_add]

theorem readSign_text {offset : ℤ} {rest : FixedWidth.Text} :
    readSign ((if offset < 0 then '-' else '+') :: rest) =
      some (if offset < 0 then -1 else 1, rest) := by
  split <;> rfl

/-- An offset shorter than a day is read back. -/
theorem readOffset_text {offset : ℤ} (h : -day < offset) (h' : offset < day) :
    readOffset (offsetText offset) = some offset := by
  have hday : day = 86400000000 := by decide
  have hn : offset.natAbs < 86400000000 := by omega
  have hsign : (if offset < 0 then -1 else 1) * (offset.natAbs : ℤ) = offset := by
    split <;> omega
  have htime : timeOfDay (offset.natAbs / 3600000000)
      (offset.natAbs / 60000000 % 60) (offset.natAbs / 1000000 % 60)
      (offset.natAbs % 1000000) = offset.natAbs := by
    unfold timeOfDay hour minute second
    omega
  unfold readOffset offsetText
  generalize offset.natAbs = n at *
  have hhour : n / 3600000000 < 10 ^ 2 := by omega
  have hminute : n / 60000000 % 60 < 10 ^ 2 := by omega
  have hsecond : n / 1000000 % 60 < 10 ^ 2 := by omega
  simp only [readSign_text, Option.bind_eq_bind, Option.bind_some,
    readDigits_pad hhour, readDigits_pad hminute, expect_cons, Nat.zero_mul,
    Nat.zero_add]
  split
  · next hzero =>
    obtain ⟨hs, hus⟩ := hzero
    rw [hs, hus] at htime
    rw [if_pos rfl, htime, hsign]
  · rw [if_neg (List.cons_ne_nil _ _), ← List.append_nil (fractionText _)]
    simp only [expect_cons, Option.bind_some, readDigits_pad hsecond,
      readFraction_text (Nat.mod_lt n (show 0 < 1000000 by decide))
        (show ∀ x, ([] : FixedWidth.Text) ≠ '.' :: x by simp), if_true, Nat.zero_mul,
      Nat.zero_add, htime, hsign]

theorem readDate_text {d : Date} {rest : FixedWidth.Text} (hy : d.year < 10 ^ 4)
    (hm : d.month < 10 ^ 2) (hd : d.day < 10 ^ 2) :
    readDate (pad 4 d.year ++ '-' :: (pad 2 d.month ++ '-' ::
      (pad 2 d.day ++ rest))) = some (d, rest) := by
  unfold readDate
  simp only [Option.bind_eq_bind, Option.bind_some, readDigits_pad hy,
    readDigits_pad hm, readDigits_pad hd, expect_cons, Nat.zero_mul,
    Nat.zero_add]

/-- What `isoformat` writes `fromisoformat` reads back. -/
theorem fromisoformat_isoformat (a : Aware) :
    fromisoformat (isoformat a.toFields) = some a := by
  obtain ⟨⟨⟨-, -, hmo, -, hd⟩, hy⟩, ⟨hh, hm, hs, hus⟩, hlo, hhi⟩ := a.valid
  have hd := hd.trans (daysInMonth_le _ _)
  have hplus : ∀ x, offsetText a.utcoffset ≠ '.' :: x := by
    intro x
    unfold offsetText
    split <;> simp
  have hread : readFields (isoformat a.toFields) = some a.toFields := by
    unfold readFields isoformat
    simp only [Option.bind_eq_bind, Option.bind_some,
      readDate_text (show a.date.year < 10 ^ 4 by omega)
        (show a.date.month < 10 ^ 2 by omega)
        (show a.date.day < 10 ^ 2 by omega),
      readDigits_pad (show a.hour < 10 ^ 2 by omega),
      readDigits_pad (show a.minute < 10 ^ 2 by omega),
      readDigits_pad (show a.second < 10 ^ 2 by omega), expect_cons,
      Nat.zero_mul, Nat.zero_add, readFraction_text hus hplus,
      readOffset_text hlo hhi]
  unfold fromisoformat
  rw [hread]
  show (if h : a.toFields.Valid then some (⟨a.toFields, h⟩ : Aware) else none) = _
  rw [dif_pos a.valid]

end Timestamps

open Timestamps

/-! ## What the tables hold -/

/-- The text of an instant in UTC. -/
def Timestamps.Aware.text (a : Aware) : FixedWidth.Text :=
  isoformat (utcFields a.instant)

section Stored

variable {a b : Aware} (ha : Representable a.instant)
  (hb : Representable b.instant)

include ha

theorem ts_eq : ts a = .ok a.text := by
  unfold ts astimezoneUtc
  rw [dif_pos ha]
  rfl

/-- A text is read back as the same instant in UTC. -/
theorem parseTs_text :
    ∃ a', parseTs a.text = some a' ∧ a'.instant = a.instant := by
  refine ⟨⟨utcFields a.instant, utcFields_valid ha⟩,
    fromisoformat_isoformat ⟨_, utcFields_valid ha⟩, ?_⟩
  show naive (utcFields a.instant) - 0 = a.instant
  rw [naive_utcFields ha, sub_zero]

/-- The text of a cutoff in UTC compares as its instant does. -/
theorem text_lt_isoformat {cutoff : Aware} (hc : cutoff.utcoffset = 0) :
    a.text < isoformat cutoff.toFields ↔ a.instant < cutoff.instant := by
  have hlt := isoformat_lt_iff (utcFields_valid ha) cutoff.valid rfl hc
  rw [naive_utcFields ha] at hlt
  unfold Aware.instant
  rw [hc, sub_zero]
  exact hlt

include hb

theorem text_lt_iff : a.text < b.text ↔ a.instant < b.instant := by
  have hlt := isoformat_lt_iff (utcFields_valid ha) (utcFields_valid hb) rfl rfl
  rw [naive_utcFields ha, naive_utcFields hb] at hlt
  exact hlt

theorem text_le_iff : a.text ≤ b.text ↔ a.instant ≤ b.instant := by
  rw [← not_lt, ← not_lt, text_lt_iff hb ha]

end Stored

/-- Texts of datetimes with a date in UTC are ordered as the instants are,
equal for equal instants, and read back as the instant. So on rows with such
datetimes `BETWEEN`, the cutoff of a prune run (a time in UTC, as the script
takes it), `ORDER BY`, `MIN` and `MAX` do with the texts what they would do
with the instants. -/
theorem ts_sorts {a b : Aware} {rows : List Aware} {cutoff : Aware}
    (ha : Representable a.instant) (hb : Representable b.instant)
    (hrows : ∀ r ∈ rows, Representable r.instant)
    (hc : cutoff.utcoffset = 0) :
    (ts a = .ok a.text ∧ ts b = .ok b.text ∧
      ∀ r ∈ rows, ts r = .ok r.text) ∧
    (a.instant < b.instant ↔ a.text < b.text) ∧
    (a.instant = b.instant → a.text = b.text) ∧
    (∃ a', parseTs a.text = some a' ∧ a'.instant = a.instant) ∧
    (rows.filter fun r => a.text ≤ r.text ∧ r.text ≤ b.text) =
      (rows.filter fun r => a.instant ≤ r.instant ∧ r.instant ≤ b.instant) ∧
    (rows.filter fun r => r.text < isoformat cutoff.toFields) =
      (rows.filter fun r => r.instant < cutoff.instant) ∧
    (rows.insertionSort fun r s => r.text ≤ s.text) =
      (rows.insertionSort fun r s => r.instant ≤ s.instant) ∧
    ∀ m ∈ rows,
      ((∀ r ∈ rows, m.text ≤ r.text) ↔ ∀ r ∈ rows, m.instant ≤ r.instant) ∧
      ((∀ r ∈ rows, r.text ≤ m.text) ↔ ∀ r ∈ rows, r.instant ≤ m.instant) := by
  refine ⟨⟨ts_eq ha, ts_eq hb, fun r hr => ts_eq (hrows r hr)⟩,
    (text_lt_iff ha hb).symm, ?_, parseTs_text ha, ?_, ?_, ?_, ?_⟩
  · intro heq
    unfold Aware.text
    rw [heq]
  · refine List.filter_congr fun r hr => ?_
    exact decide_eq_decide.mpr (and_congr (text_le_iff ha (hrows r hr))
      (text_le_iff (hrows r hr) hb))
  · refine List.filter_congr fun r hr => ?_
    exact decide_eq_decide.mpr (text_lt_isoformat (hrows r hr) hc)
  · have hsort := List.map_insertionSort (fun r s : Aware => r.text ≤ s.text)
      (fun r s : Aware => r.instant ≤ s.instant) id rows
      fun r hr s hs => text_le_iff (hrows r hr) (hrows s hs)
    rwa [List.map_id, List.map_id] at hsort
  · intro m hm
    constructor
    · exact forall₂_congr fun r hr => text_le_iff (hrows m hm) (hrows r hr)
    · exact forall₂_congr fun r hr => text_le_iff (hrows r hr) (hrows m hm)

/-- Half past eleven at night east of UTC, on the last day of February. -/
def Timestamps.lateFebruary : Aware :=
  ⟨⟨⟨2024, 2, 29⟩, 23, 30, 0, 0, 2 * hour⟩, by decide +kernel⟩

/-- A microsecond after it, given west of UTC. -/
def Timestamps.justAfter : Aware :=
  ⟨⟨⟨2024, 2, 29⟩, 16, 30, 0, 1, -5 * hour⟩, by decide +kernel⟩

/-- The hour in UTC at which both fall half past. -/
def Timestamps.utcCutoff : Aware :=
  ⟨⟨⟨2024, 2, 29⟩, 21, 30, 0, 0, 0⟩, by decide +kernel⟩

example : (ts lateFebruary).toOption.map String.ofList =
    some "2024-02-29T21:30:00+00:00" := by decide +kernel

theorem ts_sorts_offsets :
    lateFebruary.text < justAfter.text ∧
      justAfter.text = "2024-02-29T21:30:00.000001+00:00".toList := by
  have h := @ts_sorts lateFebruary justAfter [lateFebruary, justAfter] utcCutoff
    (show Representable lateFebruary.instant by decide +kernel)
    (show Representable justAfter.instant by decide +kernel)
    (by decide +kernel) rfl
  exact ⟨h.2.1.mp (by decide +kernel), by decide +kernel⟩

end Polyperps
