import ContractLint.Command.Releases

/-! The type checker, started with the SDK that a contract asks for. -/

namespace ContractLint.Command

open Files (Path)
open Json (Value Mismatch)

/-- What the type checker is told. Complaints that the SDK provokes are left out unless all are
wanted. -/
def checkerSettings (paths : List String) (strict all : Bool) : Value :=
  .object ([("extraPaths", .array (paths.map .string)),
    ("typeCheckingMode", .string (if strict then "strict" else "basic")),
    ("reportMissingModuleSource", .bool false), ("pythonVersion", .string "3.12")] ++
    if all then []
    else ["reportAttributeAccessIssue", "reportArgumentType", "reportReturnType"].map
      (·, .string "none"))

/-- The diagnostics about a file among those of the type checker: the name of the file occurs in
theirs. -/
def diagnosticsFor (name : String) (output : Value) : Except Mismatch (List Value) := do
  let diagnostics ← (← output.getOr "generalDiagnostics" (.array [])).elements
  let marked ← diagnostics.mapM fun diagnostic => do
    return (diagnostic, ← (← diagnostic.getOr "file" (.string "")).mentions name)
  return (marked.filter (·.2)).map (·.1)

/-- How many diagnostics have a severity. -/
def countLevel (level : Int) (diagnostics : List Value) : Except Mismatch Nat := do
  let levels ← diagnostics.mapM (·.get "severity")
  return levels.countP (·.equalsInt level)

def levelName (level : Value) : Except Mismatch String := do
  let level ← level.hashable
  if level.equalsInt 1 then return "error"
  else if level.equalsInt 2 then return "warning"
  else if level.equalsInt 3 then return "info"
  else return "?"

def addOne : Value → Except Mismatch Value
  | .int value => .ok (.int (value + 1))
  | .bool value => .ok (.int (if value then 2 else 1))
  | .float value => .ok (.float (value + 1))
  | .string _ => .error .notConcatenable
  | .array _ => .error .notListConcatenable
  | other => .error (.notAddable other.kind)

/-- A diagnostic as a line of text. Lines count from zero in it. -/
def diagnosticLine (name : String) (diagnostic : Value) : Except Mismatch String := do
  let level ← levelName (← diagnostic.get "severity")
  let start ← (← diagnostic.getOr "range" (.object [])).getOr "start" (.object [])
  let line ← addOne (← start.getOr "line" (.int 0))
  let message ← diagnostic.getOr "message" (.string "")
  let rule ← diagnostic.getOr "rule" (.string "")
  return name ++ ":" ++ line.plain ++ ": " ++ level ++ ": " ++ message.plain ++ " [" ++
    rule.plain ++ "]"

def diagnosticsValue (diagnostics : List Value) : Except Mismatch Value := do
  return .object [("ok", .bool diagnostics.isEmpty), ("diagnostics", .array diagnostics),
    ("summary", .object [("errors", .nat (← countLevel 1 diagnostics)),
      ("warnings", .nat (← countLevel 2 diagnostics)),
      ("info", .nat (← countLevel 3 diagnostics))])]

def showDiagnostics (name : String) (diagnostics : List Value) : Action Unit := do
  if diagnostics.isEmpty then Action.printLine "✓ No type errors found"
  else
    diagnostics.forM fun diagnostic => do
      Action.printLine (← Action.attempt (diagnosticLine name diagnostic))
    let errors ← Action.attempt (countLevel 1 diagnostics)
    let warnings ← Action.attempt (countLevel 2 diagnostics)
    Action.printLine ("\n" ++ toString errors ++ " error(s), " ++ toString warnings ++
      " warning(s)")

/-- Says what went wrong, to programs or to people. -/
def failWith (json : Bool) (message : String) : Action Nat := do
  if json then Action.printLine (failureValue message).spaced else Action.complain message
  return 1

/-- What the type checker printed; nothing counts as an empty object. -/
def checkerOutput (nesting : Nat) (printed : String) : Except Json.ReadError Value :=
  if printed.isEmpty then .ok (.object []) else Json.load nesting printed

/-- Shows what the type checker found in a contract. -/
def reportDiagnostics (contract : Path) (json : Bool) (printed : String) : Action Nat := do
  match checkerOutput (← get).nesting printed with
  | .error problem =>
    -- Only what is no JSON is reported; a text that asks for too much fails the command.
    if problem.problem.isLimit then throw (.notJson problem)
    else failWith json ("Failed to parse pyright output: " ++ problem.message)
  | .ok output =>
    let diagnostics ← Action.attempt (diagnosticsFor contract.name output)
    if json then
      Action.printLine (← Action.attempt (diagnosticsValue diagnostics)).pretty
    else showDiagnostics contract.name diagnostics
    return exitCode diagnostics.isEmpty

/-- A path as it is seen from the root. -/
def absolute (path : Path) : Action Path := do
  return (Path.ofRoot (← get).here).join path

/-- Checks the types of a contract. -/
def checkTypes (contract : Path) (json strict all : Bool) : Action Nat := do
  if !json then Action.printLine ("Type checking " ++ contract.name ++ "...")
  let dependencies ← headerOf contract
  let progress := if json then Release.silent else percentProgress "  Downloading SDK: "
  match ← (Release.download .null progress).outcome with
  | .error failure => failWith json ("Failed to download SDK: " ++ failure.message)
  | .ok bundle =>
    if !json && !dependencies.isEmpty then newline
    let settings := checkerSettings (← modulesFor bundle dependencies) strict all
    Action.launch (.typeChecker settings (← absolute contract).text)
    match (← get).typeChecker with
    | none => failWith json "pyright not found. Install with: pip install pyright"
    | some printed => reportDiagnostics contract json printed

end ContractLint.Command
