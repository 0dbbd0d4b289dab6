import ContractLint.Measure.Number
import ContractLint.Text.Lines

/-! The programs that take measurements, and what they leave. -/

namespace ContractLint.Measure

open Json (Value)

inductive Tool
  | coverage
  | repositoryTime
  | changes
  | selfCheck
deriving Repr, DecidableEq

/-- Why a tool gave no measurement. -/
inductive Trouble
  | timedOut (seconds : Nat)
  | raised (kind reason : String)
  | unusable (found : Failure)

/-- How the kind of a failure is called in reports. -/
def category : Failure → String
  | .notJson ⟨.tooDeep _, _⟩ => "RecursionError"
  | .notJson ⟨.tooManyDigits _ _, _⟩ => "ValueError"
  | .notJson _ => "JSONDecodeError"
  | .notNumber _ | .notWhole _ => "ValueError"
  | .mismatch (.noAttribute _ _) => "AttributeError"
  | .mismatch (.missingKey _) => "KeyError"
  | _ => "TypeError"

def Trouble.text : Trouble → String
  | .timedOut seconds =>
    "TimeoutExpired: Command 'runner' timed out after " ++ toString seconds ++ " seconds"
  | .raised kind reason => kind ++ ": " ++ reason
  | .unusable found => category found ++ ": " ++ found.message

/-- How a tool ended. -/
inductive ToolRun
  | printed (output errors : String)
  | stopped (trouble : Trouble)

/-- What has been printed and started so far. -/
structure Log where
  output : String := ""
  errors : String := ""
  started : List Tool := []

abbrev Task := StateM Log

def start (tool : Tool) : Task Unit :=
  modify fun log => { log with started := log.started ++ [tool] }

end ContractLint.Measure
