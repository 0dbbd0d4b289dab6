import ContractLint.Workload.Releases

/-! Workloads over the SDK: loading it, making stubs of it, and validating contracts with it. -/

namespace ContractLint.Workload

open Files (Content Path)
open Json (Value)
open Report (ValidationReport)
open Sample
open Validation (Definition Loading Member Module Trouble)

def headerFor (dependencies : List (String × String)) : String :=
  "# \x7b \"Seq\": [ " ++ Text.joinWith ", " (dependencies.map fun (kind, hash) =>
    dependency kind hash) ++ " ] \x7d\n"

/-- What contracts ask for: nothing, the newest runner in several ways, an older one, and the
embeddings with either. -/
def askedFor : List (List (String × String)) :=
  let runner (hash : String) := ("py-genlayer", hash)
  let embeddings (hash : String) := ("py-lib-genlayer-embeddings", hash)
  [[], [runner "latest"], [runner "test"], [runner runnerHash], [runner olderRunnerHash],
    [runner "latest", embeddings "latest"], [runner olderRunnerHash, embeddings embeddingsHash]]

/-- Loads the SDK for a contract; counts what it asks for, what it gets and what it is told. -/
def loadOnce (dependencies : List (String × String)) : Action Nat := do
  let contract := file "contract.py"
  placeText contract (headerFor dependencies)
  let loaded ← Sdk.load contract Release.silent
  return dependencies.length + loaded.searchPaths.length + loaded.notes.length

def loadSdk : Job Nat where
  prepare _ := placeTree treePath (runners 4)
  run size := do
    let rounds := (List.replicate size askedFor).flatten
    let settings := [("GENVM_PREBUILT_DIR", treePath.text)]
    return total (← withSettings settings (rounds.mapM loadOnce))

/-- The stubs below a directory. -/
def countStubs (path : Path) : Action Nat :=
  Action.onTree fun tree here => do
    return (tree.below (← tree.locate here path)).countP fun (place, entry) =>
      !entry.isDirectory && Text.endsWith (place.getLast?.getD "") ".pyi"

/-- Makes the stubs of two versions in the cache, and those of one elsewhere as many times as
asked. Counts the files of one version, the versions, and the stubs elsewhere. -/
def makeAllStubs : Job Nat where
  prepare _ := do
    placeBundle (versionName 0) (bundle (runners 4))
    placeBundle (versionName 1) (bundle (runners 4))
  run size := do
    let first ← Stubs.generate (.string (versionName 0)) none Release.silent
    discard (Stubs.generate (.string (versionName 1)) none Release.silent)
    let counts ← (List.range size).mapM fun index => do
      let output := (file "stubs").child (toString index)
      countStubs (← Stubs.generate (.string (versionName 0)) (some output) Release.silent)
    return (← countBelow first) + (← Stubs.cachedVersions).length + total counts

/-- The module of a contract with public methods. -/
def contractModule (methods : Nat) : Except Trouble Module :=
  Module.ofDefinitions
    [("Contract", .class "Contract" [] []),
      ("Sample", .class "Sample" ["Contract"]
        ((List.range methods).map fun index => ("method" ++ toString index, Member.publicMethod)))]

def contractSchema (methods : Nat) : Value :=
  .object [("methods", .object ((List.range methods).map fun index =>
    ("method" ++ toString index, .object [("readonly", .bool (index % 2 = 0))])))]

/-- What loading a contract with so many methods leads to. -/
def goodLoading (methods : Nat) : Loading :=
  ⟨.ok [], contractModule methods, .ok (contractSchema methods)⟩

def countMethods (schema : Value) : Nat :=
  match schema.field? "methods" with
  | some (.object methods) => methods.length
  | _ => 0

def floatProblem : String := "use of 'float' type is not allowed, use Decimal instead"

/-- What loading leads to when something is wrong, and whether advice counts as a warning. -/
def badLoadings : List (Bool × Loading) :=
  let good := goodLoading 3
  let wrongType (problem : String) : Loading := { good with schema := .error (.wrongType problem) }
  let module (found : Except Trouble Module) : Loading := { good with module := found }
  let notes := ["py-genlayer: a newer runner is available", "py-lib-genlayer-embeddings: too"]
  [(false, wrongType "type is not supported"),
    (false, wrongType floatProblem),
    (true, { wrongType floatProblem with sdk := .ok notes }),
    (false, { good with schema := .error (.other "no schema") }),
    (false, module (.error (.unreadable "invalid syntax" "contract.py" (some 1)))),
    (false, module (.ok [])),
    (false, module (.error (.notImported "No module named 'missing'"))),
    (false, module (.error (.other "raised while loading")))]

/-- A report in short: whether the contract passes, which parts the report has, and the codes of its
errors and warnings. -/
structure ReportSummary where
  ok : Bool
  parts : List String
  errors : List Value
  warnings : List Value

def codesOf (entries : List Value) : List Value := entries.filterMap (·.field? "code")

def summarize (report : ValidationReport) : Action ReportSummary := do
  let fields ← Action.attempt (do (← report.json).fields "keys")
  return ⟨report.ok, (fields.map (·.1)).mergeSort fun a b => a ≤ b, codesOf report.errors,
    codesOf report.warnings⟩

/-- What validating many contracts comes to. -/
structure Validated where
  passed : List (Bool × Nat)
  failed : List ReportSummary
  withoutSdk : List Value
  hasSchema : Bool
  noSchema : Value
  advice : Bool
  error : Bool

/-- Validates contracts with more and more methods, and contracts with something wrong. -/
def validateAll (size : Nat) : Action Validated := do
  let passed := (List.range size).map fun index =>
    let report := Validation.judge false (goodLoading (3 + index % 5))
    (report.ok, countMethods report.schema)
  let reports := badLoadings.map fun (soften, loading) => Validation.judge soften loading
  let missing := Validation.notFound (file "missing.py").text
  let noSdk := { goodLoading 3 with sdk := .error (.other "no SDK") }
  return {
    passed
    failed := ← (reports ++ [missing]).mapM summarize
    withoutSdk := codesOf (Validation.judge false noSdk).errors
    hasSchema := (Validation.schemaOf (goodLoading 3)).holds
    noSchema := Validation.schemaOf noSdk
    advice := Validation.isAdvice floatProblem
    error := Validation.isAdvice "type is not supported" }

/-- Runs commands on a contract that leads to what is given when it is loaded. -/
def runLoaded (loading : Loading) (commands : List (List String)) : Action (List Nat) := do
  modify fun world => { world with loading := some loading }
  let (_, codes) ← runCommands commands
  modify fun world => { world with loading := none }
  return codes

/-- The commands on a contract that passes. -/
def contractCommands (contract : String) : List (List String) :=
  [["validate", contract], ["validate", contract, "--json"], ["check", contract],
    ["check", contract, "--json"], ["schema", contract], ["schema", contract, "--json"],
    ["schema", contract, "--output", "work/schema.json"]]

/-- Commands on contracts, on the SDK of a version in the cache, and on the cache, which is empty
in the end. -/
def validateByCommand : Job (List Nat) where
  prepare _ := do
    placeText (file "contract.py") (header ++ "\n")
    placeBundle (versionName 0) (bundle (runners 4))
  run size := do
    let contract := "work/contract.py"
    let passed ← (List.range size).mapM fun index =>
      runLoaded (goodLoading (3 + index % 5)) (contractCommands contract)
    let failed ← runLoaded { goodLoading 3 with module := .ok [] }
      [["validate", contract], ["schema", contract]]
    let version := versionName 0
    let (_, others) ← runCommands
      [["stubs", "--version", version, "--output", "work/stubs"],
        ["setup", "--version", version], ["setup", "--version", version, "--json"],
        ["setup", "--version", version, "--contract", contract], ["stubs", "--list"],
        ["stubs", "--version", version],
        ["typecheck", contract], ["typecheck", contract, "--json"],
        ["typecheck", contract, "--strict"],
        ["cache", "list"], ["cache", "clean", "--dry-run", "--all"], ["cache", "clean", "--all"]]
    return passed.flatten ++ failed ++ others

end ContractLint.Workload
