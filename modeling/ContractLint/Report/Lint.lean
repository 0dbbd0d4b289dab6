import ContractLint.Json.Access
import ContractLint.Lint.Diagnostic

/-! The report of the rules on one contract. Its entries are objects with the fields `code`, `msg`
and, where they are known, `line` and `col`. -/

namespace ContractLint.Report

open Json (Value Mismatch)
open Source (Fault)

structure LintReport where
  ok : Bool := true
  passed : Int := 0
  entries : List Value := []

def findingEntry (finding : Lint.Finding) : Value :=
  .object [("code", .string finding.code), ("msg", .string finding.message),
    ("line", .nat finding.line), ("col", .nat finding.column)]

def faultEntry (fault : Fault) : Value :=
  .object [("code", .string "E001"), ("msg", .string (Lint.faultMessage fault)),
    ("line", .nat (Lint.faultLine fault))]

/-- An entry without a place. -/
def plainEntry (code message : String) : Value :=
  .object [("code", .string code), ("msg", .string message)]

/-- Codes that are errors though they do not start like one. -/
def errorCodes : List String := ["GL-S03"]

/-- The code of an entry counts as an error. -/
def isErrorEntry (entry : Value) : Bool :=
  match entry.field? "code" with
  | some (.string code) => Text.startsWith code "E" || errorCodes.contains code
  | _ => false

/-- Three checks can pass: safety, structure and that the text can be read at all. -/
def LintReport.ofSource (source : String) : LintReport :=
  let safety := Lint.checkSafety source
  let structured := Lint.checkStructure source
  let faults := match Source.parse source with
    | .ok _ => []
    | .error fault => [faultEntry fault]
  let entries := (safety ++ structured).map findingEntry ++ faults
  { ok := !entries.any isErrorEntry
    passed := [safety.isEmpty, structured.isEmpty, faults.isEmpty].count true
    entries := entries }

/-- The report on a contract that is not there. -/
def LintReport.notFound (path : String) : LintReport :=
  { ok := false, passed := 0, entries := [plainEntry "E100" ("Contract not found: " ++ path)] }

def LintReport.json (report : LintReport) : Value :=
  .object ([("ok", .bool report.ok), ("passed", .int report.passed)] ++
    if report.entries.isEmpty then [] else [("warnings", .array report.entries)])

/-- An entry as a line of text, its line number in front where it has one. -/
def entryText (entry : Value) : Except Mismatch String := do
  let line ← entry.get "line"
  let message ← entry.require "msg"
  return (if line.holds then "line " ++ line.plain ++ ": " else "") ++ message.plain

/-- Entries as indented lines. -/
def entryLines (indent : String) (entries : List Value) : Except Mismatch (List String) :=
  entries.mapM fun entry => do return indent ++ (← entryText entry)

def joinLines (lines : List String) : String := Text.joinWith "\n" lines

def LintReport.text (report : LintReport) : Except Mismatch String := do
  if report.ok then
    let passed := "✓ Lint passed (" ++ (Value.int report.passed).plain ++ " checks)"
    if report.entries.isEmpty then return passed
    let lines ← entryLines "    " report.entries
    return joinLines (passed :: "  Warnings:" :: lines)
  else
    let lines ← entryLines "  " report.entries
    return joinLines ("✗ Lint failed" :: lines)

end ContractLint.Report
