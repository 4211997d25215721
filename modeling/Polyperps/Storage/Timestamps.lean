import Polyperps.Lib.Calendar
import Polyperps.Lib.FixedWidth
import Polyperps.Storage.Market

/-!
# Timestamps as text

`_ts` and `_parse_ts` of `storage/db.py`: a timezone-aware `datetime` goes to
UTC and from there to the text that a column holds. `isoformat` leaves the
fraction of a second out when it is zero, so the texts have two lengths.
-/

namespace Polyperps

namespace Timestamps

open Calendar FixedWidth

/-- The fields of a `datetime`, and its `utcoffset()` in microseconds. -/
structure Fields where
  date : Date
  hour : ℕ
  minute : ℕ
  second : ℕ
  microsecond : ℕ
  utcoffset : ℤ
deriving DecidableEq

def Fields.Valid (s : Fields) : Prop :=
  (s.date.Valid ∧ s.date.year ≤ 9999) ∧
    (s.hour < 24 ∧ s.minute < 60 ∧ s.second < 60 ∧ s.microsecond < 1000000) ∧
    -day < s.utcoffset ∧ s.utcoffset < day

instance (s : Fields) : Decidable s.Valid :=
  inferInstanceAs (Decidable ((_ ∧ _) ∧ (_ ∧ _) ∧ _))

/-- A timezone-aware `datetime`. -/
structure Aware extends Fields where
  valid : toFields.Valid
deriving DecidableEq

/-- The ordinal of 1 January 1970. -/
def epochOrdinal : ℤ := 719163

/-- The ordinal of 31 December 9999. -/
def maxOrdinal : ℤ := 3652059

/-- Microseconds since midnight. -/
def timeOfDay (h m s us : ℕ) : ℤ := h * hour + m * minute + s * second + us

/-- The fields read as a time in UTC. -/
def naive (s : Fields) : ℤ :=
  (ymd2ord s.date - epochOrdinal) * day +
    timeOfDay s.hour s.minute s.second s.microsecond

def Aware.instant (a : Aware) : ℤ := naive a.toFields - a.utcoffset

/-- The instant has a date in UTC. -/
def Representable (t : ℤ) : Prop :=
  1 ≤ t / day + epochOrdinal ∧ t / day + epochOrdinal ≤ maxOrdinal

instance (t : ℤ) : Decidable (Representable t) :=
  inferInstanceAs (Decidable (_ ∧ _))

/-- The fields of an instant in UTC. -/
def utcFields (t : ℤ) : Fields :=
  let rest := (t % day).toNat
  { date := ord2ymd (t / day + epochOrdinal).toNat
    hour := rest / 3600000000
    minute := rest / 60000000 % 60
    second := rest / 1000000 % 60
    microsecond := rest % 1000000
    utcoffset := 0 }

theorem utcFields_valid {t : ℤ} (h : Representable t) :
    (utcFields t).Valid := by
  obtain ⟨hlo, hhi⟩ := h
  obtain ⟨hdate, hord⟩ := ord2ymd_spec
    (show 1 ≤ (t / day + epochOrdinal).toNat by omega)
  have hyear : (ord2ymd (t / day + epochOrdinal).toNat).year ≤ 9999 := by
    by_contra hlate
    have hmono := daysBeforeYear_mono (show 1 ≤ 10000 by decide)
      (show 10000 ≤ _ from not_le.mp hlate)
    have hlast : daysBeforeYear 10000 = 3652059 := by decide
    have hmax : maxOrdinal = 3652059 := rfl
    obtain ⟨-, -, -, hday, -⟩ := hdate
    unfold ymd2ord at hord
    omega
  have hrest : (t % day).toNat < 86400000000 := by
    unfold day hour minute second
    omega
  refine ⟨⟨hdate, hyear⟩, ⟨?_, ?_, ?_, ?_⟩, show -day < 0 by decide,
    show 0 < day by decide⟩
  · exact Nat.div_lt_of_lt_mul hrest
  · exact Nat.mod_lt _ (by decide)
  · exact Nat.mod_lt _ (by decide)
  · exact Nat.mod_lt _ (by decide)

/-- `astimezone(timezone.utc)`. -/
def astimezoneUtc (a : Aware) : Except Exc Aware :=
  if h : Representable a.instant then .ok ⟨utcFields a.instant, utcFields_valid h⟩
  else .error ⟨.other "OverflowError", "date value out of range"⟩

/-! ## Writing -/

/-- The fraction of a second, where there is one. -/
def fractionText (us : ℕ) : FixedWidth.Text :=
  if us = 0 then [] else '.' :: pad 6 us

/-- `+HH:MM`, with the seconds and their fraction where there are any. -/
def offsetText (offset : ℤ) : FixedWidth.Text :=
  let n := offset.natAbs
  let s := n / 1000000 % 60
  let us := n % 1000000
  (if offset < 0 then '-' else '+') ::
    (pad 2 (n / 3600000000) ++ ':' :: (pad 2 (n / 60000000 % 60) ++
      if s = 0 ∧ us = 0 then [] else ':' :: (pad 2 s ++ fractionText us)))

def isoformat (a : Fields) : FixedWidth.Text :=
  pad 4 a.date.year ++ '-' :: (pad 2 a.date.month ++ '-' ::
    (pad 2 a.date.day ++ 'T' :: (pad 2 a.hour ++ ':' ::
      (pad 2 a.minute ++ ':' :: (pad 2 a.second ++
        (fractionText a.microsecond ++ offsetText a.utcoffset))))))

/-- `isoformat` of an instant in UTC. -/
def isoText (t : ℤ) : String := String.ofList (isoformat (utcFields t))

/-! ## Reading -/

def readFraction : FixedWidth.Text → Option (ℕ × FixedWidth.Text)
  | '.' :: rest => readDigits 6 0 rest
  | rest => some (0, rest)

def readSign : FixedWidth.Text → Option (ℤ × FixedWidth.Text)
  | '+' :: rest => some (1, rest)
  | '-' :: rest => some (-1, rest)
  | _ => none

/-- An offset up to the end of the text. -/
def readOffset (text : FixedWidth.Text) : Option ℤ := do
  let (sign, rest) ← readSign text
  let (h, rest) ← readDigits 2 0 rest
  let rest ← expect ':' rest
  let (m, rest) ← readDigits 2 0 rest
  if rest = [] then some (sign * timeOfDay h m 0 0)
  else
    let rest ← expect ':' rest
    let (s, rest) ← readDigits 2 0 rest
    let (us, rest) ← readFraction rest
    if rest = [] then some (sign * timeOfDay h m s us) else none

def readDate (text : FixedWidth.Text) : Option (Date × FixedWidth.Text) := do
  let (year, rest) ← readDigits 4 0 text
  let rest ← expect '-' rest
  let (month, rest) ← readDigits 2 0 rest
  let rest ← expect '-' rest
  let (day, rest) ← readDigits 2 0 rest
  some (⟨year, month, day⟩, rest)

def readFields (text : FixedWidth.Text) : Option Fields := do
  let (date, rest) ← readDate text
  let rest ← expect 'T' rest
  let (hour, rest) ← readDigits 2 0 rest
  let rest ← expect ':' rest
  let (minute, rest) ← readDigits 2 0 rest
  let rest ← expect ':' rest
  let (second, rest) ← readDigits 2 0 rest
  let (microsecond, rest) ← readFraction rest
  let utcoffset ← readOffset rest
  some ⟨date, hour, minute, second, microsecond, utcoffset⟩

/-- `datetime.fromisoformat`, of a text of the form that `isoformat` writes;
`none` is a `ValueError`. -/
def fromisoformat (text : FixedWidth.Text) : Option Aware := do
  let s ← readFields text
  if h : s.Valid then some ⟨s, h⟩ else none

end Timestamps

open Timestamps

/-- `_ts`. -/
def ts (dt : Aware) : Except Exc FixedWidth.Text := do
  let utc ← astimezoneUtc dt
  return isoformat utc.toFields

/-- `_parse_ts`. -/
def parseTs (s : FixedWidth.Text) : Option Aware := fromisoformat s

end Polyperps
