import ContractLint.Sdk.Load

/-! Validation of contracts that are in files. -/

namespace ContractLint.Contract

open Files (Path)
open Release (Progress)
open Report (ValidationReport)
open Validation (Loading Module Trouble)

/-- Files with another ending are no modules. -/
def moduleEnding : String := ".py"

/-- A mark at the start that says how a text is encoded does not belong to it. -/
def withoutMark (source : String) : String :=
  match source.toList with
  | '\uFEFF' :: rest => String.ofList rest
  | _ => source

/-- Loads a module that defines nothing; all there is to find out is whether it can be read. -/
def loadModule (path : Path) (source : String) : Except Trouble Module :=
  if !Text.endsWith path.name moduleEnding then
    .error (.other ("Could not load contract: " ++ path.text))
  else match Source.parse (withoutMark source) with
    | .ok _ => .ok []
    | .error fault => .error (.unreadable fault.message path.name (fault.line.map Int.ofNat))

/-- What loading a contract leads to. -/
def load (path : Path) (report : Progress) : Action Loading := do
  match (← get).loading with
  | some loading => return loading
  | none =>
    match ← (Sdk.load path report).outcome with
    | .error failure =>
      return ⟨.error (.other failure.message), .ok [], .ok .null⟩
    | .ok loaded =>
      return ⟨.ok loaded.notes, loadModule path (← Action.readText path), .ok .null⟩

/-- The report on a contract; one that is not there has a report too. -/
def validate (soften : Bool) (path : Path) (report : Progress) : Action ValidationReport := do
  if ← Action.has path then return Validation.judge soften (← load path report)
  else return Validation.notFound path.text

end ContractLint.Contract
