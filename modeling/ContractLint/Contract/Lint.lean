import ContractLint.Report.Lint
import ContractLint.World.Basic

/-! The rules on contracts that are in files. -/

namespace ContractLint.Contract

open Files (Path)
open Lint (Diagnostic Finding)
open Report (LintReport)

def safety (path : Path) : Action (List Finding) := do
  return Lint.checkSafety (← Action.readLocal path)

def structureOf (path : Path) : Action (List Finding) := do
  return Lint.checkStructure (← Action.readLocal path)

/-- The report on a contract, read as the world has it. One that is not there has a report, one that
cannot be read has none. -/
def lint (path : Path) : Action LintReport := do
  if ← Action.has path then return .ofSource (← Action.readLocal path)
  else return .notFound path.text

def fileDiagnostic (path : Path) (rule message : String) : Diagnostic where
  rule := rule
  message := message
  severity := .error
  line := 1
  column := 0
  filename := some path.text
  suggestion := none

/-- What there is to say about a file in UTF-8, whether it can be read or not. -/
def diagnose (path : Path) : Action (List Diagnostic) := do
  if ← Action.has path then
    match ← (Action.readText path).outcome with
    | .ok source => return Lint.diagnose source (some path.text)
    | .error failure =>
      return [fileDiagnostic path "E101" ("Error reading file: " ++ failure.message)]
  else return [fileDiagnostic path "E100" ("File not found: " ++ path.text)]

end ContractLint.Contract
