import ContractLint.Report.Validation

/-! Both reports in one list, as editors read it. -/

namespace ContractLint.Report

open Json (Value Mismatch)
open Lint (Severity)

structure EditorResult where
  rule : Value
  message : Value
  severity : Severity
  line : Value
  column : Value

def EditorResult.json (result : EditorResult) : Value :=
  .object [("rule_id", result.rule), ("message", result.message),
    ("severity", .string result.severity.text), ("line", result.line), ("column", result.column)]

/-- How severe a code is to editors. -/
def editorSeverity (code : String) : Severity :=
  if Text.startsWith code "E" || errorCodes.contains code then .error else .warning

def lintResult (entry : Value) : Except Mismatch EditorResult := do
  let code ← entry.getOr "code" (.string "W000")
  let name ← code.asText "startswith"
  return {
    rule := code
    message := ← entry.getOr "msg" (.string "Unknown issue")
    severity := editorSeverity name
    line := ← entry.getOr "line" (.int 1)
    column := ← entry.getOr "col" (.int 0) }

def validationResult (severity : Severity) (code message : String) (entry : Value) :
    Except Mismatch EditorResult := do
  return {
    rule := ← entry.getOr "code" (.string code)
    message := ← entry.getOr "msg" (.string message)
    severity := severity
    line := ← entry.getOr "line" (.int 1)
    column := .int 0 }

/-- The entries of a validation: its warnings and, where it failed, its errors. -/
def validationResults (report : ValidationReport) : Except Mismatch (List EditorResult) := do
  let warnings ← report.warnings.mapM (validationResult .warning "W000" "Validation warning")
  let errors ← if report.ok then pure []
    else report.errors.mapM (validationResult .error "E000" "Validation error")
  return warnings ++ errors

def countSeverity (severity : Severity) (results : List EditorResult) : Value :=
  .nat (results.countP (·.severity = severity))

def editorResults (lint : LintReport) (validation : Option ValidationReport) :
    Except Mismatch (List EditorResult) := do
  let first ← lint.entries.mapM lintResult
  let second ← match validation with
    | some report => validationResults report
    | none => pure []
  return first ++ second

def editorSummary (results : List EditorResult) : Value :=
  .object [("results", .array (results.map (·.json))),
    ("summary", .object [("total", .nat results.length),
      ("by_severity", .object [("error", countSeverity .error results),
        ("warning", countSeverity .warning results), ("info", .nat 0)])])]

def editorText (lint : LintReport) (validation : Option ValidationReport) :
    Except Mismatch String := do
  return (editorSummary (← editorResults lint validation)).spaced

end ContractLint.Report
