import ContractLint.Measure.Number
import ContractLint.Text.Pad

/-! How much of the code was covered: totals and a table of files. -/

namespace ContractLint.Measure

open Json (Value)

structure Coverage where
  percent : Float
  covered : Int
  statements : Int
deriving Inhabited

/-- A row of the table. -/
structure CoveredFile where
  name : String
  statements : Int
  missed : Int
  percent : Float
  missing : List Int

structure CoverageReport where
  totals : Coverage
  files : List CoveredFile
  failedWorkloads : Nat

def fieldOr (value : Value) (key : String) (absent : Value) : Except Failure Value :=
  (value.getOr key absent).mapError .mismatch

/-- A part of a report, nothing when it is null. -/
def part (value : Value) (key : String) : Except Failure Value := do
  let found ← fieldOr value key (.object [])
  return if found.holds then found else .object []

/-- Joins neighbours to ranges; `first` and `last` are the ends of the range begun. -/
def rangesFrom (first last : Int) : List Int → List (Int × Int)
  | [] => [(first, last)]
  | line :: rest =>
    if line = last + 1 then rangesFrom first line rest
    else (first, last) :: rangesFrom line line rest

def ranges : List Int → List (Int × Int)
  | [] => []
  | line :: rest => rangesFrom line line rest

def rangeText : Int × Int → String
  | (first, last) =>
    if first = last then toString first else toString first ++ "-" ++ toString last

/-- The columns of a row: the name, the statements, those missed and the share of the others. -/
def row (width : Nat) (name : String) (statements missed : Int) (percent : Float) : String :=
  Text.padEnd name width ++ "  " ++ Text.padStart (toString statements) 5 ++ "  " ++
    Text.padStart (toString missed) 4 ++ "  " ++
    Text.padStart (Decimal.fixedText percent 0) 4 ++ "%"

def CoveredFile.row (width : Nat) (file : CoveredFile) : String :=
  Measure.row width file.name file.statements file.missed file.percent ++ "  " ++
    Text.joinWith ", " ((ranges file.missing).map rangeText)

def CoverageReport.lines (report : CoverageReport) : List String :=
  let width := report.files.foldl (fun width file => max width file.name.length) 4
  let rule := String.ofList (List.replicate (width + 42) '-')
  let totals := report.totals
  [Text.padEnd "Name" width ++ "  Stmts  Miss  Cover  Missing", rule] ++
    report.files.map (·.row width) ++
    [rule, row width "TOTAL" totals.statements (totals.statements - totals.covered) totals.percent]

end ContractLint.Measure
