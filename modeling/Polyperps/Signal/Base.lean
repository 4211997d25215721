import Polyperps.Execution.Types

/-!
# The validation gate

`load_validated` of `signal/base.py`: an approval file names a run, and the
gate opens if a record of that run passes every check made again from the
record, and no native record of the same hypothesis and instrument failed on a
later window.

A record is whatever JSON the log holds. What the gate does with text beyond
comparing it is Python's: `Text` stands for `str.lower`, `str.strip`, `str` of
a float or a container, and `datetime.fromisoformat`, of which nothing is
assumed.
-/

namespace Polyperps

/-- A parsed JSON value. A float is the text Python prints for it. -/
inductive Json
  | null
  | bool (b : Bool)
  | int (n : ℤ)
  | float (text : String)
  | str (s : String)
  | arr (items : List Json)
  | obj (fields : List (String × Json))

structure Text where
  lower : String → String
  strip : String → String
  /-- `str` of a value that is not a string, `None`, a bool or an int. -/
  repr : Json → String
  /-- The instant an aware text parses to; none for what raises or is naive. -/
  fromisoformat : String → Option DateTime

namespace Json

/-- `value is True`. -/
def isTrue : Json → Bool
  | .bool true => true
  | _ => false

/-- `value == s`, for a string `s`. -/
def isText (s : String) : Json → Bool
  | .str s' => s' = s
  | _ => false

/-- `type(value) is int and value == n`. -/
def isInt (n : ℤ) : Json → Bool
  | .int n' => n' = n
  | _ => false

/-- `str(value)`. -/
def text (py : Text) : Json → String
  | .null => "None"
  | .bool true => "True"
  | .bool false => "False"
  | .int n => toString n
  | .str s => s
  | other => py.repr other

end Json

/-- A log record, a dictionary of any fields. -/
abbrev Record := List (String × Json)

/-- `record.get(key)`, where a missing key is a null. -/
def Record.get (r : Record) (key : String) : Json := (r.lookup key).getD .null

/-- `HARNESS_VERSION`. -/
def harnessVersion : ℤ := 4

/-- `_NATIVE_VALUES`. -/
def nativeValues : List String := ["polymarket_ws", "polymarket_rest"]

namespace SignalBase

variable (py : Text)

/-- `_aware`: the instant of a text, none for anything missing, unparseable or
naive. -/
def aware : Json → Option DateTime
  | .str s => py.fromisoformat s
  | _ => none

/-- What `_record_passes` checks once the source is native. -/
def recordClears (r : Record) : Bool :=
  (match r.get "sufficiency" with
    | .obj fields => (Record.get fields "met").isTrue
    | _ => false) &&
  (r.get "robust_screened").isTrue &&
  (match r.get "end", r.get "hypothesis", r.get "instrument_id" with
    | .str _, .str _, .int _ => true
    | _, _, _ => false) &&
  (match aware py (r.get "end"), aware py (r.get "ts") with
    | some e, some ts => decide (e ≤ ts)
    | _, _ => false) &&
  match r.get "holdout" with
    | .obj fields => (Record.get fields "fills_at_hourly_open").isInt 0
    | _ => false

/-- `_record_passes`. A list or an object is no member of a set of strings,
and asking raises. -/
def recordPasses (r : Record) (runId : String) : Except Exc Bool :=
  if !(r.get "run_id").isText runId || !(r.get "passed").isTrue then .ok false
  else if !(r.get "harness_version").isInt harnessVersion then .ok false
  else
    match r.get "source_type" with
    | .arr _ => .error ⟨.other "TypeError", "unhashable type: 'list'"⟩
    | .obj _ => .error ⟨.other "TypeError", "unhashable type: 'dict'"⟩
    | .str s => .ok (decide (s ∈ nativeValues) && recordClears py r)
    | _ => .ok false

/-- The text a field holds, where it holds one. -/
def textOf (r : Record) (key : String) : String :=
  match r.get key with
  | .str s => s
  | _ => ""

/-- What makes a record speak about the approved one: a native record at the
current harness for the same hypothesis and instrument. -/
def sameSubject (later approved : Record) : Bool :=
  (match later.get "hypothesis" with
    | .null => false
    | h => decide (py.lower (h.text py) =
        py.lower (textOf approved "hypothesis"))) &&
  decide ((later.get "instrument_id").text py =
    (approved.get "instrument_id").text py) &&
  decide ((later.get "harness_version").text py = toString harnessVersion) &&
  decide (py.lower ((later.get "source_type").text py) ∈ nativeValues)

/-- Whether a window ends later than the approved one, or cannot be placed. -/
def laterWindow (later approved : Record) : Bool :=
  match aware py (later.get "end") with
  | none => true
  | some e =>
      match aware py (approved.get "end") with
      | some e' => decide (e' < e)
      | none => true

/-- `_revokes`. The approved record has passed, so its hypothesis is text and
its end an instant. -/
def revokes (later approved : Record) : Bool :=
  sameSubject py later approved && !(later.get "passed").isTrue &&
    laterWindow py later approved

/-- The approval file. -/
inductive ApprovalFile
  | missing
  | unreadable
  | content (j : Json)

/-- The run an approval names: all three texts there and not blank. -/
def approvedRun : ApprovalFile → Option String
  | .content (.obj fields) =>
      if ["run_id", "approved_by", "approved_at"].all fun k =>
          match Record.get fields k with
          | .str s => decide (py.strip s ≠ "")
          | _ => false
      then some (py.strip (textOf fields "run_id"))
      else none
  | _ => none

/-- `next((r for r in records if _record_passes(r, run_id)), None)`. -/
def firstPassing (runId : String) : List Record → Except Exc (Option Record)
  | [] => .ok none
  | r :: rest => do
      let passes ← recordPasses py r runId
      if passes then return some r else firstPassing runId rest

/-- The body of `load_validated`'s `try`. -/
def tryValidated (file : ApprovalFile) (log : Except Exc (List Record)) :
    Except Exc Bool :=
  match approvedRun py file with
  | none => .ok false
  | some runId => do
      let records ← log
      let approved ← firstPassing py runId records
      match approved with
      | none => return false
      | some approved =>
          return !(records.any fun r => revokes py r approved)

/-- `load_validated`: whatever raises leaves the gate closed. -/
def loadValidated (file : ApprovalFile) (log : Except Exc (List Record)) :
    Bool :=
  match tryValidated py file log with
  | .ok b => b
  | .error _ => false

end SignalBase

end Polyperps
