import ContractLint.Measure.Coverage

/-! Whether the result of a workload can be trusted: it is there, it is the same each time, it
depends on the size given, and most of the time goes into the measured code. -/

namespace ContractLint.Measure

open Json (Value)

inductive Verdict
  | ok
  | okUnsized
  | failed
  | returnsNothing
  | unstable
  | returnsInput
  | lowShare
  | tooFast
  | sizeInvariant
  | codeModified
deriving Repr, DecidableEq

def Verdict.text : Verdict → String
  | .ok => "ok"
  | .okUnsized => "ok-unparam"
  | .failed => "error"
  | .returnsNothing => "returns-none"
  | .unstable => "unstable"
  | .returnsInput => "returns-input"
  | .lowShare => "low-repo-time"
  | .tooFast => "too-fast"
  | .sizeInvariant => "param-invariant"
  | .codeModified => "repo-modified"

def Verdict.isGood (verdict : Verdict) : Bool := verdict = .ok || verdict = .okUnsized

/-- What was observed of a workload: the kind of its result, marks of the results of repeated runs,
of runs with several sizes and of the sizes themselves, the parts of the time spent in the measured
code, and that time in milliseconds. -/
structure Observation where
  kind : String
  repeated : List Value
  bySize : List Value
  sizes : List Value
  parts : List Float
  times : List Float

/-- The least part of the time that was spent in the measured code. -/
def Observation.part (observed : Observation) : Float := (least? observed.parts).getD 0.0

def Observation.time (observed : Observation) : Float := (median? observed.times).getD 0.0

def marks (values : List Value) : List String := (values.map (·.compact)).eraseDups

/-- A result counts as one of the sizes when its mark is among theirs. -/
def Observation.echoes (observed : Observation) : Bool :=
  (observed.repeated.head?.map (·.compact)).any (marks observed.sizes).contains

/-- The first thing that is wrong with a workload. -/
def Observation.verdict (observed : Observation) (isModified : Bool) : Verdict :=
  if isModified then .codeModified
  else if observed.kind = "?" || Text.startsWith observed.kind "<" then .failed
  else if observed.kind = "NoneType" then .returnsNothing
  else if 1 < (marks observed.repeated).length then .unstable
  else if observed.echoes then .returnsInput
  else if !observed.parts.isEmpty && observed.part < 0.5 then .lowShare
  else if !observed.times.isEmpty && observed.time < 1.0 then .tooFast
  else if observed.bySize.length < 2 then .okUnsized
  else if (marks observed.bySize).length = 1 then .sizeInvariant
  else .ok

structure Checked where
  name : String
  observed : Observation
  verdict : Verdict

def Checked.isGood (checked : Checked) : Bool := checked.verdict.isGood

def Checked.line (checked : Checked) : String :=
  "  " ++ (if checked.isGood then " " else "*") ++ " " ++ Text.padEnd checked.name 32 ++ " " ++
    Text.padEnd checked.verdict.text 16 ++ " (" ++ checked.observed.kind ++ ", repo " ++
    Decimal.fixedText (checked.observed.part * 100.0) 0 ++ "%) " ++
    Decimal.fixedText checked.observed.time 1 ++ "ms"

/-- What to do about each verdict. -/
def remedies : List String :=
  ["returns-none: run() has no return — collect and return the call results",
    "unstable: seed RNG in setup; avoid time/uuid/id in the return",
    "returns-input: return repo output, not the parameter value",
    "low-repo-time: <50% of run() time is in repo code — move glue to setup",
    "param-invariant: return something derived from run()'s work, not setup",
    "repo-modified: revert edits to repo files (git checkout -- <path>)"]

/-- At most so many changed files are listed. -/
def listedChanges : Nat := 10

def changeLines (changes : List String) : List String :=
  if changes.isEmpty then []
  else ["", "** repo modified (" ++ toString changes.length ++
    " file(s)) — revert these; only microbench.py is yours to edit:"] ++
    (changes.take listedChanges).map ("   " ++ ·)

/-- Those in need of a remedy come first. -/
def checkLines (changes : List String) (checked : List Checked) : List String :=
  if checked.isEmpty then []
  else changeLines changes ++ ["", "self-check (* = fix needed):"] ++ remedies.map ("  " ++ ·) ++
    (checked.filter fun one => !one.isGood).map (·.line) ++
    (checked.filter (·.isGood)).map (·.line)

end ContractLint.Measure
