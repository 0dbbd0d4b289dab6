import ContractLint.Command.Contracts
import ContractLint.Release.Clean
import ContractLint.Stubs.Generate

/-! The commands about releases, their cache, and what is made from them. -/

namespace ContractLint.Command

open Files (Path)
open Json (Value)
open Release (AvailableRelease)

def availableLine (release : AvailableRelease) : String :=
  "  " ++ release.tag.plain ++ "  " ++ release.date.plain ++
    if release.isEarly.holds then " (pre-release)" else ""

def listAvailable : Action Nat := do
  match ← Release.availableVersions.outcome with
  | .ok [] =>
    Action.printLine "No releases found with genvm-universal.tar.xz"
    return 0
  | .ok releases =>
    Action.printLine "Available GenVM versions:"
    releases.forM fun release => Action.printLine (availableLine release)
    return 0
  | .error failure =>
    Action.complain ("Failed to fetch versions: " ++ failure.message)
    return 1

def listDownloaded : Action Nat := do
  match ← Release.cachedVersions with
  | [] => Action.printLine "No cached versions"
  | versions =>
    Action.printLine "Cached versions:"
    versions.forM fun version => Action.printLine ("  " ++ version)
  return 0

/-- The newest version, and what is said while it is looked up. -/
def announceLatest : Action Value := do
  Action.printLine "Fetching latest version..."
  let version ← Release.latestVersion
  Action.printLine ("Latest: " ++ version.plain)
  return version

/-- The version that was asked for, else the newest one. -/
def chosenVersion (version : Option String) : Action Value :=
  match version with
  | some version => pure (.string version)
  | none => announceLatest

def downloadVersion (version : Option String) : Action Nat := do
  let version ← chosenVersion version
  Action.printLine ("Downloading GenVM " ++ version.plain ++ "...")
  let result ← (Release.download version (sizeProgress "  ")).outcome
  newline
  match result with
  | .ok path =>
    Action.printLine ("✓ Downloaded to " ++ path.text)
    return 0
  | .error failure =>
    Action.complain ("✗ Download failed: " ++ failure.message)
    return 3

def listStubs : Action Nat := do
  match ← Stubs.cachedVersions with
  | [] => Action.printLine "No cached stubs"
  | versions =>
    Action.printLine "Cached stub versions:"
    versions.forM fun version => do
      Action.printLine ("  " ++ version ++ " -> " ++ (← Stubs.stubsPath (.string version)).text)
  return 0

def makeStubs (version output : Option String) : Action Nat := do
  let version ← chosenVersion version
  Action.printLine ("Generating stubs for GenVM " ++ version.plain ++ "...")
  let output := (output.filter fun path => !path.isEmpty).map Path.ofText
  let result ←
    (Stubs.generate version output (sizeProgress "  Downloading SDK: ")).outcome
  newline
  match result with
  | .ok path =>
    Action.printLine ("✓ Stubs generated at " ++ path.text)
    newline
    Action.printLine "To use in VS Code, add to settings.json:"
    Action.printLine ("  \"python.analysis.stubPath\": \"" ++ path.text ++ "\"")
    return 0
  | .error failure =>
    Action.complain ("✗ Stub generation failed: " ++ failure.message)
    return 1

/-- Where the SDK that a contract asks for has its modules. -/
def modulesFor (bundle : Path) (dependencies : List (String × String)) : Action (List String) := do
  let extracted ← Sdk.extract bundle dependencies
  return (← Sdk.modulesPaths extracted.paths).map (·.text)

def headerOf (contract : Path) : Action (List (String × String)) := do
  return Sdk.headerDependencies (← Action.readText contract)

/-- A bundle and the modules in it. -/
def prepare (version : Value) (contract : Option Path) (json : Bool) :
    Action (Path × List String) := do
  let progress := if json then Release.silent else sizeProgress "  Downloading: "
  let bundle ← Release.download version progress
  if !json then newline
  let dependencies ← match contract with
    | some contract => headerOf contract
    | none => pure []
  return (bundle, ← modulesFor bundle dependencies)

def showSettings (paths : List String) : Action Unit := do
  Action.printLine "✓ SDK ready"
  newline
  Action.printLine "Add to VS Code settings.json:"
  Action.printLine "  \"python.analysis.extraPaths\": ["
  paths.forM fun path => Action.printLine ("    \"" ++ path ++ "\",")
  Action.printLine "  ],"
  Action.printLine "  \"python.analysis.reportMissingModuleSource\": \"none\""

def failureValue (message : String) : Value :=
  .object [("ok", .bool false), ("error", .string message)]

/-- The version to set up. With a contract it may stay open until the download. -/
def setupVersion (version : Option String) (contract : Option Path) (json : Bool) :
    Action Value := do
  match version, contract with
  | some version, _ => return .string version
  | none, some _ => return .null
  | none, none => if json then Release.latestVersion else announceLatest

/-- Downloads the SDK and tells editors where it is. -/
def setUp (version : Option String) (contract : Option Path) (json : Bool) : Action Nat := do
  match contract with
  | some contract =>
    if (version.getD "").isEmpty then
      let dependencies ← headerOf contract
      if !json && (dependencies.lookup "py-genlayer").isSome then
        Action.printLine "Detected SDK from contract header"
  | none => pure ()
  let version ← setupVersion version contract json
  if !json then Action.printLine "Setting up GenVM SDK..."
  match ← (prepare version contract json).outcome with
  | .ok (bundle, paths) =>
    if json then
      let version := if version.holds then version else .string (Release.keptName bundle.name)
      let value := Value.object [("ok", .bool true), ("extraPaths", .array (paths.map .string)),
        ("version", version)]
      Action.printLine value.spaced
    else showSettings paths
    return 0
  | .error failure =>
    if json then Action.printLine (failureValue failure.message).spaced
    else
      newline
      Action.complain ("✗ Setup failed: " ++ failure.message)
    return 1

/-- Says what cleaning would do with a version. The newest one is looked up each time. -/
def previewVersion (keep : List String) (all : Bool) (version : String) : Action Unit := do
  if keep.contains version then Action.printLine ("Would keep: " ++ version)
  else if all then Action.printLine ("Would delete: " ++ version)
  else
    match ← Release.latestVersion with
    | .string latest =>
      if version != latest then Action.printLine ("Would delete: " ++ version)
    | _ => Action.printLine ("Would delete: " ++ version)

def previewClean (keep : List String) (all : Bool) : Action Nat := do
  let versions ← Release.cachedVersions
  if !all then
    Action.printLine ("Would keep latest: " ++ (← Release.latestVersion).plain)
  versions.forM (previewVersion keep all)
  return 0

def cleanCache (keep : List String) (all : Bool) : Action Nat := do
  let cleaned ← Release.clean keep !all
  if 0 < cleaned.files then
    Action.printLine ("✓ Cleaned " ++ toString cleaned.files ++ " files (" ++
      megabytes cleaned.bytes ++ " MB freed)")
  else Action.printLine "Nothing to clean"
  return 0

end ContractLint.Command
