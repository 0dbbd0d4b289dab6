import ContractLint.Lint.BlockOperation
import ContractLint.Lint.Hazard
import ContractLint.Lint.Header
import ContractLint.Lint.LooseCall
import ContractLint.Lint.Storage
import ContractLint.Lint.StrictEquality
import ContractLint.Source.Parse

/-! All rules over one source text. A text that cannot be read has only its header checked. -/

namespace ContractLint.Lint

open Source

def safetyFindings (module : Module) : List Finding :=
  hazards module ++ looseCalls module ++ forbiddenOperations module ++ strictMismatches module

def structureFindings (module : Module) : List Finding :=
  classFindings module ++ furtherContracts module ++ undeclaredClasses module

/-- Findings of a rule in a text; none in a text that cannot be read. -/
def findingsIn (rule : Module → List Finding) (source : String) : List Finding :=
  match parse source with
  | .ok module => rule module
  | .error _ => []

def checkSafety (source : String) : List Finding := findingsIn safetyFindings source

def checkStructure (source : String) : List Finding :=
  headerFindings source ++ findingsIn structureFindings source

end ContractLint.Lint
