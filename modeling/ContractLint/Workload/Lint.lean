import ContractLint.Command.Run
import ContractLint.Lint.Diagnostic
import ContractLint.Workload.Basic

/-! Workloads over the rules. -/

namespace ContractLint.Workload

open Files (Path)
open Lint
open Sample
open Source

/-- How deep names are where nothing depends on it. -/
def usualDepth : Nat := 4

/-- A text that is no module. -/
def brokenSource : String := "def broken(:\n"

def namesIn (texts : List String) : List String :=
  texts.filterMap fun text =>
    match parseExpression text with
    | .ok node => dottedName node
    | .error _ => none

/-- Spells names of growing depth, and expressions of growing depth that are no names. -/
def spellNames (size : Nat) : Nat × Nat :=
  let deep (base : String) := (List.range size).map fun depth => deepName depth base
  ((namesIn (deep "gl")).length, (namesIn (deep "gl()")).length)

def chainName (index : Nat) : String := "f" ++ toString index

/-- Functions of which each calls the next one. -/
def chain (size : Nat) : CallGraph :=
  ⟨(List.range size).map fun index => (chainName index, [chainName (index + 1)])⟩

/-- Asks for every function of a chain from its start, and for one that is not there. -/
def followChain (size : Nat) : List Bool :=
  let graph := chain size
  ((List.range size).map chainName ++ ["missing"]).map fun target =>
    graph.reaches [chainName 0] target

/-- Counts findings in a contract against the rule, in one that keeps it, in a text that is no
module, and in the first one again when it is in a file. -/
def countFindings (check : String → List Finding) (checkFile : Path → Action (List Finding))
    (source : String) : Action (List Nat) := do
  let path := file "contract.py"
  placeText path source
  return [(check source).length, (check (plainContract 3)).length,
    (check brokenSource).length, (← checkFile path).length]

def checkSafetyOf (size : Nat) : Action (List Nat) :=
  countFindings checkSafety Contract.safety (riskyContract size usualDepth)

def checkStructureOf (size : Nat) : Action (List Nat) :=
  countFindings checkStructure Contract.structureOf (illFormedContract size usualDepth)

/-- What the rules on contract classes look at. -/
def inspectClasses (size : Nat) : List Nat :=
  match parse (illFormedContract size usualDepth) with
  | .error _ => []
  | .ok module =>
    [(classFindings module).length, (contractClasses module).length,
      (undeclaredClasses module).length]

/-- What the rules on safety look at in a module: hazards, functions, calls whose results differ,
functions that open blocks, and operations that blocks forbid. -/
def safetyCounts (module : Module) : List Nat :=
  [(hazards module).length, (CallGraph.ofModule module).names.length,
    (nondetCalls module).length, (EntryPoints.ofModule module).functions.length,
    (scopedOperations module).length]

def addCounts (first second : List Nat) : List Nat := first.zipWith (· + ·) second

/-- Looks at contracts with deeper and deeper names, at least one attribute deep, which makes no
difference to what is found. -/
def inspectSafety (size : Nat) : List Nat :=
  [riskyContract 3 (size + 1), ringContract 3 (size + 1)].foldl (fun counts source =>
    match parse source with
    | .ok module => addCounts counts (safetyCounts module)
    | .error _ => counts) [0, 0, 0, 0, 0]

/-- The codes of the mismatches in a contract, and how many there are in a text that is no
module. -/
def findMismatches (size : Nat) : List String × Nat :=
  ((findingsIn strictMismatches (strictContract size usualDepth)).map (·.code),
    (findingsIn strictMismatches brokenSource).length)

/-- Counts findings of the rules that follow calls, in a ring of calls and in a text that is no
module. -/
def followCalls (size : Nat) : List Nat :=
  let ring := ringContract size usualDepth
  [(findingsIn looseCalls ring).length, (findingsIn forbiddenOperations ring).length,
    (findingsIn looseCalls brokenSource).length,
    (findingsIn forbiddenOperations brokenSource).length,
    (findingsIn strictMismatches brokenSource).length,
    (findingsIn strictMismatches ring).length]

/-- Reports on a contract, on a file that is no module and on one that is not there. -/
structure ReportedFiles where
  contractOk : Bool
  contractEntries : Nat
  brokenOk : Bool
  brokenEntries : Nat
  missingOk : Bool

def reportFiles (size : Nat) : Action ReportedFiles := do
  let contract := file "contract.py"
  let broken := file "broken.py"
  placeText contract (riskyContract size usualDepth)
  placeText broken brokenSource
  let first ← Contract.lint contract
  let second ← Contract.lint broken
  let third ← Contract.lint (file "missing.py")
  return ⟨first.ok, first.entries.length, second.ok, second.entries.length, third.ok⟩

/-- Runs command lines and gives how much they print and their exit codes. -/
def runCommands (commands : List (List String)) : Action (Nat × List Nat) := do
  let before := (← get).output.length
  let codes ← commands.mapM Command.run
  return ((← get).output.length - before, codes)

/-- Lints a contract for people and for programs, and a file that is no module both ways that there
are to ask for it. -/
def lintByCommand (size : Nat) : Action (Nat × List Nat) := do
  placeText (file "contract.py") (riskyContract size usualDepth)
  placeText (file "broken.py") (header ++ "\n" ++ brokenSource)
  runCommands [["lint", "work/contract.py"], ["lint", "work/contract.py", "--json"],
    ["lint", "work/broken.py"], ["work/broken.py"]]

/-- What diagnoses of several contracts come to. -/
structure Diagnosed where
  total : Nat
  samples : List String
  suggestions : List (Option String)
  severity : Option Severity

def diagnosedSources (depth : Nat) : List String :=
  [riskyContract 2 depth, strictContract 2 depth, illFormedContract 2 depth, brokenSource]

/-- Rules of which some have a suggestion. -/
def suggestedRules : List String := ["W001", "E010", "E015", "GL-S03", "E026", "?"]

/-- Diagnoses contracts, and files of which one is missing and one cannot be read. -/
def diagnoseAll (depth : Nat) : Action Diagnosed := do
  let found := (diagnosedSources depth).map fun source => Lint.diagnose source (some "c.py")
  placeText (file "contract.py") (riskyContract 2 depth)
  place (file "unreadable.py") (.bytes [0xFF, 0xFE])
  let contract ← Contract.diagnose (file "contract.py")
  let missing ← Contract.diagnose (file "missing.py")
  let unreadable ← Contract.diagnose (file "unreadable.py")
  let all := found ++ [contract, missing, unreadable]
  let samples := found.flatMap fun diagnostics => (diagnostics.take 3).map (·.text)
  return {
    total := all.flatten.length
    samples := samples.mergeSort fun a b => a ≤ b
    suggestions := suggestedRules.map suggestion?
    severity := missing.head?.map (·.severity) }

end ContractLint.Workload
