import ContractLint.Report.Lint
import ContractLint.Report.Schema

/-! The report of the validation of one contract. -/

namespace ContractLint.Report

open Json (Value Mismatch Fields)

structure ValidationReport where
  ok : Bool := false
  contract : Option String := none
  schema : Value := .null
  warnings : List Value := []
  errors : List Value := []

/-- The name of the contract, if it is known and not empty. -/
def ValidationReport.contractName? (report : ValidationReport) : Option String :=
  report.contract.filter fun name => !name.isEmpty

/-- What a schema holds, in numbers. -/
def schemaCounts (schema : Value) : Except Mismatch Fields := do
  let methods ← schemaMethods schema
  let count ← methods.length
  let views ← countViews methods
  let parameters ← (← constructorParameters schema).length
  return [("methods", .nat count), ("view_methods", .nat views),
    ("write_methods", .nat (count - views)), ("ctor_params", .nat parameters)]

def ValidationReport.json (report : ValidationReport) : Except Mismatch Value := do
  let contract := match report.contractName? with
    | some name => [("contract", Value.string name)]
    | none => []
  let counts ← if report.schema.holds then schemaCounts report.schema else pure []
  let errors := if report.errors.isEmpty then [] else [("errors", Value.array report.errors)]
  let warnings :=
    if report.warnings.isEmpty then [] else [("warnings", Value.array report.warnings)]
  return .object ([("ok", .bool report.ok)] ++ contract ++ counts ++ errors ++ warnings)

def methodsLine (schema : Value) : Except Mismatch String := do
  let methods ← schemaMethods schema
  let views ← countViews methods
  let count ← methods.length
  return "  Methods: " ++ toString count ++ " (" ++ toString views ++ " view, " ++
    toString (count - views) ++ " write)"

/-- Notes have codes that start with an `I`. -/
def isNote (entry : Value) : Except Mismatch Bool := do
  let code ← (← entry.getOr "code" (.string "")).asText "startswith"
  return Text.startsWith code "I"

def noteLine (entry : Value) : Except Mismatch String := do
  return "  ℹ " ++ (← entry.require "msg").plain

def ValidationReport.text (report : ValidationReport) : Except Mismatch String := do
  if report.ok then
    let contract := match report.contractName? with
      | some name => ["  Contract: " ++ name]
      | none => []
    let methods ← if report.schema.holds then pure [← methodsLine report.schema] else pure []
    let marked ← report.warnings.mapM fun entry => do return (entry, ← isNote entry)
    let warnings := (marked.filter fun (_, isNote) => !isNote).map (·.1)
    let notes := (marked.filter (·.2)).map (·.1)
    let warningLines ← if warnings.isEmpty then pure []
      else do pure ("  Warnings:" :: (← entryLines "    " warnings))
    let noteLines ← notes.mapM noteLine
    return joinLines ("✓ Validation passed" :: contract ++ methods ++ warningLines ++ noteLines)
  else
    let lines ← entryLines "  " report.errors
    return joinLines ("✗ Validation failed" :: lines)

/-- The schema as text; without one, the report itself. -/
def ValidationReport.schemaText (report : ValidationReport) : Except Mismatch String := do
  if report.ok && report.schema.holds then
    return joinLines (← schemaLines report.contract report.schema)
  else report.text

end ContractLint.Report
