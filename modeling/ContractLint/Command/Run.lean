import ContractLint.Command.Basic
import ContractLint.Command.TypeCheck

/-! The program: a command line is read and carried out. -/

namespace ContractLint.Command

open Files (Path)

/-- The exit code of a command line that makes no sense. -/
def usageExit : Nat := 2

/-- A path that is given for something that exists. A slash or a dot at its end asks for a
directory. -/
def isThere (path : String) : Action Bool := do
  let last := (Text.splitAt path '/').getLast?.getD ""
  if path.isEmpty then return false
  else if last = "" || last = "." then Action.hasDirectory (.ofText path)
  else Action.has (.ofText path)

/-- Does something with a path that has to be there. -/
def withPath (path : String) (act : Path → Action Nat) : Action Nat := do
  if ← isThere path then act (.ofText path) else return usageExit

def versionLine : String := "genvm-lint, version 0.10.0"

def helpLine : String := "Usage: genvm-lint [OPTIONS] COMMAND [ARGS]..."

def Request.run : Request → Action Nat
  | .help => do
    Action.printLine helpLine
    return 0
  | .version => do
    Action.printLine versionLine
    return 0
  | .check contract json => withPath contract fun path => checkContract path json
  | .lint contract json => withPath contract fun path => lintContract path json
  | .validate contract json => withPath contract fun path => validateContract path json
  | .schema contract output json => withPath contract fun path => showSchema path output json
  | .available => listAvailable
  | .downloaded => listDownloaded
  | .download wanted => downloadVersion wanted
  | .stubsList => listStubs
  | .stubs wanted output => makeStubs wanted output
  | .setup wanted none json => setUp wanted none json
  | .setup wanted (some contract) json =>
    withPath contract fun path => setUp wanted (some path) json
  | .typeCheck contract json strict all =>
    withPath contract fun path => checkTypes path json strict all
  | .cacheClean keep all true => previewClean keep all
  | .cacheClean keep all false => cleanCache keep all
  | .editor options => lintForEditor options

/-- Carries out a command line and gives the exit code. -/
def run (arguments : List String) : Action Nat :=
  match readCommand arguments with
  | .ok request => request.run
  | .error _ => return usageExit

end ContractLint.Command
