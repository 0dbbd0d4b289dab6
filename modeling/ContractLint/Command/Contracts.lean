import ContractLint.Command.EditorOptions
import ContractLint.Command.Progress
import ContractLint.Contract.Lint
import ContractLint.Contract.Validate
import ContractLint.Report.Editor

/-! The commands that look at one contract. Each gives the exit code. -/

namespace ContractLint.Command

open Files (Path)
open Json (Value)
open Report (LintReport ValidationReport)

def exitCode (ok : Bool) : Nat := if ok then 0 else 1

def newline : Action Unit := Action.print "\n"

def lintContract (contract : Path) (json : Bool) : Action Nat := do
  let report ← Contract.lint contract
  if json then Action.printLine report.json.compact
  else Action.printLine (← Action.attempt report.text)
  return exitCode report.ok

/-- Validates a contract; unless the answer is for programs, it shows how far a download is. -/
def validated (soften : Bool) (contract : Path) (json : Bool) : Action ValidationReport := do
  if json then Contract.validate soften contract Release.silent
  else
    let report ← Contract.validate soften contract (sizeProgress "Downloading: ")
    newline
    return report

def validateContract (contract : Path) (json : Bool) : Action Nat := do
  let report ← validated false contract json
  if json then Action.printLine (← Action.attempt report.json).compact
  else Action.printLine (← Action.attempt report.text)
  return exitCode report.ok

/-- Lints and validates. Advice about types is no error here. -/
def checkContract (contract : Path) (json : Bool) : Action Nat := do
  let lint ← Contract.lint contract
  let validation ← validated true contract json
  let ok := lint.ok && validation.ok
  if json then
    let value := Value.object [("ok", .bool ok), ("lint", lint.json),
      ("validate", ← Action.attempt validation.json)]
    Action.printLine value.compact
  else
    Action.printLine (← Action.attempt lint.text)
    Action.printLine (← Action.attempt validation.text)
  return exitCode ok

def showFailure (report : ValidationReport) (json : Bool) : Action Nat := do
  if json then
    let value := Value.object [("ok", .bool false), ("errors", .array report.errors)]
    Action.printLine value.compact
  else Action.printLine (← Action.attempt report.text)
  return 1

/-- Shows the schema of a contract or writes it to a file. -/
def showSchema (contract : Path) (output : Option String) (json : Bool) : Action Nat := do
  let report ← validated false contract json
  if !report.ok then showFailure report json
  else
    match output.filter fun path => !path.isEmpty with
    | some path =>
      Action.writeText (.ofText path) report.schema.pretty
      Action.printLine ("Schema written to " ++ path)
    | none =>
      if json then
        let value := Value.object [("ok", .bool true), ("schema", report.schema)]
        Action.printLine value.compact
      else Action.printLine (← Action.attempt report.schemaText)
    return 0

/-- The entries of a report that an editor asked for. -/
def entriesFor (options : EditorOptions) (entries : List Value) : List Value :=
  let severe := if options.severity = some "error" then entries.filter Report.isErrorEntry
    else entries
  severe.filter fun entry =>
    match entry.field? "code" with
    | some (.string code) => !options.excluded.contains code
    | _ => true

/-- The report on a contract that an editor named and that is not there. -/
def missingForEditor (contract : String) : LintReport :=
  { ok := false
    entries := [.object [("code", .string "E001"),
      ("msg", .string ("File not found: " ++ contract)), ("line", .int 1)]] }

/-- Lints for an editor. What is left out of the answer still counts. -/
def lintForEditor (options : EditorOptions) : Action Nat := do
  let path := Path.ofText options.contract
  if ← Action.has path then
    let report ← Contract.lint path
    let shown := { report with entries := entriesFor options report.entries }
    match options.format with
    | .json => Action.printLine (← Action.attempt (Report.editorText shown none))
    | .text => Action.printLine (← Action.attempt shown.text)
    return exitCode report.ok
  else
    match options.format with
    | .json =>
      Action.printLine (← Action.attempt
        (Report.editorText (missingForEditor options.contract) none))
    | .text => Action.printLine ("Error: File not found: " ++ options.contract)
    return 1

end ContractLint.Command
