import ContractLint.Lint.Check

/-! Findings as they are reported for one source text. -/

namespace ContractLint.Lint

open Source

structure Diagnostic where
  rule : String
  message : String
  severity : Severity
  line : Nat
  column : Nat
  filename : Option String
  suggestion : Option String
deriving Repr, DecidableEq

/-- One line of text: where, how severe, what, and by which rule. -/
def Diagnostic.text (diagnostic : Diagnostic) : String :=
  let place := match diagnostic.filename with
    | some filename => if filename.isEmpty then "" else filename ++ ":"
    | none => ""
  place ++ toString diagnostic.line ++ ":" ++ toString diagnostic.column ++ " " ++
    diagnostic.severity.text ++ ": " ++ diagnostic.message ++ " [" ++ diagnostic.rule ++ "]"

/-- A line that is not known, or is zero, counts as the first. -/
def faultLine (fault : Fault) : Nat :=
  match fault.line with
  | some line => if line = 0 then 1 else line
  | none => 1

def faultMessage (fault : Fault) : String := "Syntax error: " ++ fault.message

def Diagnostic.ofFinding (severityOf : String → Severity) (filename : Option String)
    (finding : Finding) : Diagnostic where
  rule := finding.code
  message := finding.message
  severity := severityOf finding.code
  line := finding.line
  column := finding.column
  filename := filename
  suggestion := suggestion? finding.code

def Diagnostic.ofFault (filename : Option String) (fault : Fault) : Diagnostic where
  rule := "E001"
  message := faultMessage fault
  severity := .error
  line := faultLine fault
  column := fault.offset.getD 0
  filename := filename
  suggestion := some "Fix the syntax error before other checks can run."

/-- A text that cannot be read has one diagnostic; else every finding has one. -/
def diagnose (source : String) (filename : Option String) : List Diagnostic :=
  match parse source with
  | .error fault => [.ofFault filename fault]
  | .ok _ => (checkSafety source).map (.ofFinding safetySeverity filename) ++
    (checkStructure source).map (.ofFinding structureSeverity filename)

end ContractLint.Lint
