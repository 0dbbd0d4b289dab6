import ContractLint.Measure.Checkpoint
import ContractLint.Measure.Plateau
import ContractLint.Measure.SelfCheck
import ContractLint.Measure.Share
import ContractLint.Measure.Tool
import ContractLint.Text.Identifier

/-! A round of measurements: coverage, shares of time and self-checks, reported and added to the
record. -/

namespace ContractLint.Measure

open Json (Value)

/-- How the run under coverage ended, and the report that it left, if it did. -/
structure CoverageRun where
  code : Int := 0
  output : String := ""
  errors : String := ""
  report : Option String := none

/-- What a round meets. A tool that is not installed has no run. -/
structure Setting where
  now : Value
  seconds : Float
  coverage : CoverageRun := {}
  workloads : Option String := none
  repositoryTime : Option ToolRun := none
  changes : ToolRun := .printed "" ""
  selfCheck : Option ToolRun := none
  canRecord : Bool := true
  nesting : Nat := 950

/-- What stays from round to round: the last coverage report and the record. -/
structure Kept where
  report : Option String := none
  record : String := ""

/-- A round, measured. -/
structure Round where
  number : Nat
  coverage : CoverageReport
  workloads : Nat
  shares : Shares
  checked : List Checked

/-- How many shares are too low, when any was measured. -/
def Round.countLow? (round : Round) : Option Nat :=
  if round.shares.any (isMeasured ·.2) then some round.shares.countLow else none

def Round.countBad (round : Round) : Nat := round.checked.countP fun one => !one.isGood

def Round.summary (round : Round) (seconds : Float) : String :=
  let shares := match round.countLow? with
    | some count =>
      ", " ++ toString count ++ "/" ++ toString round.shares.length ++ " below repo_time 45%"
    | none => ""
  let checks := if round.checked.isEmpty then ""
    else ", " ++ toString round.countBad ++ "/" ++ toString round.checked.length ++
      " not self-checking"
  "[round " ++ toString round.number ++ ": " ++ toString round.workloads ++ " benches, " ++
    Decimal.fixedText round.coverage.totals.percent 1 ++ "% covered" ++ shares ++ checks ++
    ", measured in " ++ Decimal.fixedText seconds 1 ++ "s]"

/-- What is added to the record. -/
def Round.entry (round : Round) (setting : Setting) (last : Option Value) : Value :=
  .object
    [("round", .nat round.number), ("ts", setting.now),
      ("wall_since_prev_s", sinceLast last setting.now),
      ("coverage_pct", .float round.coverage.totals.percent),
      ("covered_lines", .int round.coverage.totals.covered),
      ("num_statements", .int round.coverage.totals.statements),
      ("n_bench_fns", .nat round.workloads),
      ("n_bench_errors", .nat round.coverage.failedWorkloads),
      ("cov_measure_s", .float (rounded setting.seconds 3)),
      ("repo_time_pct", .object (round.shares.map fun (name, share) => (name, .float share))),
      ("n_below_repo_time", .ofOption .nat round.countLow?),
      ("semcheck", .object (round.checked.map fun one => (one.name, .string one.verdict.text))),
      ("n_not_self_checking", .nat round.countBad)]

/-- Rounds may end only when this much is covered, in percent. -/
def enoughCovered : Float := 60.0

/-- Why the rounds may end with this one. -/
def Round.settled? (round : Round) (earlier : List Value) : Option Settled :=
  if enoughCovered ≤ round.coverage.totals.percent then
    round.countLow?.bind (Measure.settled? (countsBelow earlier))
  else none

def stopLines : Option Settled → List String
  | none => []
  | some settled =>
    ["", ">>> STOP: repo_time converged (" ++ settled.text ++
      "). Finalize microbench.py now. <<<"]

def Round.lines (round : Round) (changes : List String) (setting : Setting)
    (earlier : List Value) : List String :=
  round.coverage.lines ++ round.shares.lines ++ checkLines changes round.checked ++
    ["", round.summary setting.seconds] ++ stopLines (round.settled? earlier)

/-- What a round answers with: how it ended, and what it added to the record. -/
structure Ending where
  result : Except Failure Nat
  added : Option String := none

end ContractLint.Measure
