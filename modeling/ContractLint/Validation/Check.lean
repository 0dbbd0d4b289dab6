import ContractLint.Report.Validation
import ContractLint.Text.Blank
import ContractLint.Text.DecimalDigit
import ContractLint.Validation.Module

/-! Validation of a contract: its module is loaded with the SDK, its class is looked up and the
schema of that class is taken. -/

namespace ContractLint.Validation

open Json (Value)
open Report (ValidationReport plainEntry)

/-- What loading leads to: the notes of the SDK, the names of the module and the schema. -/
structure Loading where
  sdk : Except Trouble (List String)
  module : Except Trouble Module
  schema : Except Trouble Value

/-- The number at the start of a text. -/
def leadingNumber? (text : List Char) : Option Nat :=
  match (text.map Text.decimalDigit?).takeWhile (·.isSome) with
  | [] => none
  | digits => some (digits.foldl (fun value digit => value * 10 + digit.getD 0) 0)

def lineKey : List Char := "'line':".toList

/-- The line that a text names first. -/
def lineNamed? : List Char → Option Nat
  | [] => none
  | c :: rest =>
    let here :=
      if lineKey.isPrefixOf (c :: rest) then
        leadingNumber? (((c :: rest).drop lineKey.length).dropWhile Text.isBlank)
      else none
    here.or (lineNamed? rest)

/-- The complaint about floats is advice only. -/
def isAdvice (problem : String) : Bool :=
  let lower := String.ofList (problem.toList.map Char.toLower)
  Text.contains lower "use of 'float' type" && Text.contains lower "use decimal instead"

def failed (entry : Value) : ValidationReport := { ok := false, errors := [entry] }

def failedWith (code start : String) (trouble : Trouble) : ValidationReport :=
  failed (plainEntry code (start ++ trouble.message))

def notFound (path : String) : ValidationReport :=
  failed (plainEntry "E100" ("Contract not found: " ++ path))

def noteEntries (notes : List String) : List Value := notes.map (plainEntry "I200")

/-- An entry with the line that its text names, if it names one. -/
def typeEntry (code start problem : String) : Value :=
  let line := match lineNamed? problem.toList with
    | some line => [("line", Value.nat line)]
    | none => []
  .object ([("code", .string code), ("msg", .string (start ++ problem))] ++ line)

def moduleFailure : Trouble → ValidationReport
  | .unreadable problem _ line =>
    failed (.object [("code", .string "E102"), ("msg", .string ("Syntax error: " ++ problem)),
      ("line", .ofOption .int line)])
  | .notImported problem => failed (plainEntry "E103" ("Import error: " ++ problem))
  | other => failedWith "E104" "Failed to load contract: " other

def schemaFailure (soften : Bool) (contract : String) (notes : List String) :
    Trouble → ValidationReport
  | .wrongType problem =>
    if soften && isAdvice problem then
      { ok := true
        contract := some contract
        warnings := typeEntry "W106" "Type warning: " problem :: noteEntries notes }
    else failed (typeEntry "E106" "Type error: " problem)
  | other => failedWith "E107" "Schema extraction failed: " other

/-- Judges a contract by what loading it led to. Advice counts as a warning when `soften` is
set. -/
def judge (soften : Bool) (loading : Loading) : ValidationReport :=
  match loading.sdk with
  | .error trouble => failedWith "E101" "Failed to load SDK: " trouble
  | .ok notes =>
    match loading.module with
    | .error trouble => moduleFailure trouble
    | .ok module =>
      match contractClass? module with
      | none => failed (plainEntry "E105" "No contract class found")
      | some info =>
        match loading.schema with
        | .error trouble => schemaFailure soften info.own.name notes trouble
        | .ok schema =>
          { ok := true
            contract := some info.own.name
            schema := schema
            warnings := noteEntries notes }

/-- The schema of a contract that passes. -/
def schemaOf (loading : Loading) : Value :=
  let report := judge false loading
  if report.ok then report.schema else .null

end ContractLint.Validation
