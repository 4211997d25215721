import Polyperps.Lib.Dict
import Polyperps.Monitor.Alerts

/-!
# The health check

`scripts/healthcheck.py`, run every five minutes: what it reads of the machine,
`evaluate`, and `main` with the file that remembers the open problems between
two runs. The percentage and the ages are floating-point values in the source
and exact here. A run that cannot read the machine leaves the file alone; a
write that fails leaves it as it was or without a value, and is an alert, too.
-/

namespace Polyperps

namespace Health

open KeyedTable Rounding

/-- `UNITS`. -/
def units : List String :=
  ["polyperps-feed.service", "polyperps-paper.service",
    "polyperps-paper@h3.service", "polyperps-paper@h5.service"]

/-- `ONESHOTS`. -/
def oneshots : List String :=
  ["polyperps-prune.service", "polyperps-backfill.service",
    "polyperps-hl-backfill.service"]

/-- `unit_props`, what systemd says of a unit. -/
structure UnitProps where
  activeState : Option String
  nRestarts : Option ℕ
  result : Option String
deriving DecidableEq

/-- What one problem is about. -/
structure Finding where
  instrumentId : Option InstrumentId
  detail : List (String × String)
deriving DecidableEq

/-- The readings `evaluate` is handed. -/
structure Readings where
  now : DateTime
  diskPct : Decimal
  lastTicks : List (InstrumentId × Option DateTime)
  units : List (String × UnitProps)
  oneshotResults : List (String × String)
  diskLimit : Decimal
  staleS : Decimal

/-- `health-state.json`, an absent key read as empty. -/
structure HealthState where
  opened : List String
  restarts : List (String × ℕ)
deriving DecidableEq

def HealthState.empty : HealthState := ⟨[], []⟩

/-- `_alert`: the kind is the key up to its colon. -/
def alert (now : DateTime) (level : Level) (key : String) (f : Finding) :
    Alert where
  level := level
  kind := String.ofList (key.toList.takeWhile (· ≠ ':'))
  instrumentId := f.instrumentId
  detail := f.detail
  ts := now

/-- A float in JSON. -/
def floatText (x : Decimal) : String :=
  plainText x ++ if x.den = 1 then ".0" else ""

namespace Readings

/-- The seconds since a tick, as long ago as can be where there is none. -/
def age (r : Readings) (ts : Option DateTime) : Option Decimal :=
  ts.map fun ts => (r.now - ts : ℤ) / second

def diskFull (r : Readings) : List (String × Finding) :=
  if r.diskLimit ≤ r.diskPct then
    [("disk_full", ⟨none,
      [("used_pct", floatText (roundHalfEven (1 / 10) r.diskPct)),
        ("limit_pct", floatText r.diskLimit)]⟩)]
  else []

def ticksStale (r : Readings) : List (String × Finding) :=
  r.lastTicks.filterMap fun tick =>
    let age := r.age tick.2
    if age.all (r.staleS < ·) then
      some ("ticks_stale:" ++ toString tick.1, ⟨some tick.1,
        [("instrument_id", toString tick.1),
          ("age_s", (age.map fun a => plainText (roundHalfEven 1 a)).getD
            "None")]⟩)
    else none

def unitsDown (r : Readings) : List (String × Finding) :=
  r.units.filterMap fun u =>
    if u.2.activeState = some "active" then none
    else some ("unit_down:" ++ u.1, ⟨none,
      [("unit", u.1), ("state", u.2.activeState.getD "None")]⟩)

def oneshotsFailed (r : Readings) : List (String × Finding) :=
  r.oneshotResults.filterMap fun o =>
    if o.2 = "success" ∨ o.2 = "" then none
    else some ("oneshot_failed:" ++ o.1, ⟨none,
      [("unit", o.1), ("result", o.2)]⟩)

/-- `problems`, assigned one after the other. -/
def problems (r : Readings) : List (String × Finding) :=
  dictOf Prod.fst Prod.snd
    (r.diskFull ++ r.ticksStale ++ r.unitsDown ++ r.oneshotsFailed)

/-- `restarts`. -/
def restarts (r : Readings) : List (String × ℕ) :=
  r.units.map fun u => (u.1, u.2.nRestarts.getD 0)

/-- The units restarted since the last check, each with its counter and how far
that went up: a unit not seen before is the baseline, and a counter that went
down is passed over. -/
def restarted (r : Readings) (seen : List (String × ℕ)) :
    List (String × ℕ × ℕ) :=
  r.restarts.filterMap fun u =>
    let before := (seen.lookup u.1).getD u.2
    if before < u.2 then some (u.1, u.2, u.2 - before) else none

def restartAlert (r : Readings) (u : String × ℕ × ℕ) : Alert :=
  alert r.now .critical "unit_restarted" ⟨none,
    [("unit", u.1), ("restarts", toString u.2.1), ("new", toString u.2.2)]⟩

/-- `sorted(problems.keys() - was)`, each with its detail. -/
def appeared (r : Readings) (was : List String) : List (String × Finding) :=
  (((r.problems.map Prod.fst).filter (· ∉ was)).insertionSort
    (· ≤ ·)).filterMap fun key =>
      (r.problems.lookup key).map fun f => (key, f)

def problemAlert (r : Readings) (p : String × Finding) : Alert :=
  alert r.now .critical p.1 p.2

/-- `sorted(was - problems.keys())`. -/
def cleared (r : Readings) (was : List String) : List String :=
  (was.dedup.filter (· ∉ r.problems.map Prod.fst)).insertionSort (· ≤ ·)

def recoveredAlert (r : Readings) (key : String) : Alert :=
  alert r.now .info "recovered" ⟨none, [("problem", key)]⟩

/-- The state a check leaves. -/
def state (r : Readings) : HealthState where
  opened := (r.problems.map Prod.fst).insertionSort (· ≤ ·)
  restarts := r.restarts

def evaluate (r : Readings) (state : HealthState) :
    List Alert × HealthState :=
  ((r.restarted state.restarts).map r.restartAlert ++
    (r.appeared state.opened).map r.problemAlert ++
    (r.cleared state.opened).map r.recoveredAlert, r.state)

end Readings

/-! ## One run of the script -/

/-- The machine: the disk as `shutil` shows it, the newest tick of each
instrument and the units. -/
structure Machine where
  used : ℕ
  free : ℕ
  lastTick : InstrumentId → Option DateTime
  unitProps : String → UnitProps

/-- Percent full the way df shows it. -/
def diskUsedPct (m : Machine) : Except String Decimal :=
  if m.used + m.free = 0 then
    .error "ZeroDivisionError('division by zero')"
  else .ok (100 * m.used / (m.used + m.free))

/-- How the write of the file ends. -/
inductive Saved
  | written
  | refused (error : String)
  | cutShort (error : String)
deriving DecidableEq

/-- What a run of the script meets: the settings, the machine if it can be
read, and the end of the write. -/
structure Check where
  now : DateTime
  instrumentIds : List InstrumentId
  diskLimit : Decimal
  staleS : Decimal
  machine : Except String Machine
  saved : Saved

namespace Check

/-- The readings of `main`. -/
def readings (c : Check) : Except String Readings := do
  let m ← c.machine
  let diskPct ← diskUsedPct m
  return {
    now := c.now
    diskPct
    lastTicks := dictOf id m.lastTick c.instrumentIds
    units := units.map fun u => (u, m.unitProps u)
    oneshotResults := oneshots.map fun u => (u, (m.unitProps u).result.getD "")
    diskLimit := c.diskLimit
    staleS := c.staleS }

/-- The alert of a run that raises. -/
def failure (c : Check) (error : String) : Alert :=
  alert c.now .critical "healthcheck_error" ⟨none, [("error", error)]⟩

/-- The alerts that are sent and the file that is left; `none` is a file that
is missing or holds no value. -/
def main (c : Check) (file : Option HealthState) :
    List Alert × Option HealthState :=
  match c.readings with
  | .error e => ([c.failure e], file)
  | .ok r =>
      let after := r.evaluate (file.getD .empty)
      match c.saved with
      | .written => (after.1, some after.2)
      | .refused e => (after.1 ++ [c.failure e], file)
      | .cutShort e => (after.1 ++ [c.failure e], none)

end Check

/-- The file after some checks. -/
def fileAfter (file : Option HealthState) (checks : List Check) :
    Option HealthState :=
  checks.foldl (fun file c => (c.main file).2) file

end Health

end Polyperps
