import ContractLint.Sdk.Paths
import ContractLint.Release.Download
import ContractLint.Stubs.Text

/-! Stubs of the SDK, a directory for each version. -/

namespace ContractLint.Stubs

open Files (Path)
open Json (Value)
open Release (Progress)

def stubsDirectory : Action Path := do return (← get).cache.child "stubs"

/-- Where the stubs of a version are kept. -/
def stubsPath (version : Value) : Action Path := do
  match version with
  | .string name => return (← stubsDirectory).child name
  | other => throw (.notJoinable other.kind)

/-- Starts the generator. What it leaves behind stands in the output directory; whether it works
makes no difference. -/
def runGenerator (modules output : Path) : Action Unit := do
  Action.launch (.stubGenerator modules.text output.text)
  for (place, entry) in (← get).stubsLeft do
    Action.changeTree fun tree here => do
      return tree.put ((← tree.locate here output) ++ place) entry

/-- Writes a file and makes its directory first. -/
def writeStub (path : Path) (text : String) : Action Unit := do
  Action.makeDirectories path.parent
  Action.writeText path text

def versionText : Value → Action String
  | .string text => pure text
  | other => throw (.notWritable other.kind)

/-- Writes the stubs that are the same for all versions, and the version last. -/
def writeStubs (output : Path) (version : Value) : Action Unit := do
  let package := output.child "genlayer"
  let embeddings := output.child "genlayer_embeddings"
  Action.makeDirectories package
  writeStub ((package.child "py").child "types.pyi") typesStub
  writeStub ((package.child "gl").child "__init__.pyi") contractStub
  Action.writeText (package.child "__init__.pyi") packageStub
  Action.makeDirectories embeddings
  writeStub (embeddings.child "__init__.pyi") embeddingsStub
  Action.writeText (output.child "VERSION") (← versionText version)

/-- Makes the stubs of a version in a directory. -/
def generateIn (output : Path) (version : Value) (report : Progress) : Action Unit := do
  let bundle ← Release.download version report
  let extracted ← Sdk.extract bundle []
  match extracted.paths with
  | [] => throw .noPaths
  | library :: _ =>
    let modules ← Sdk.modulesPath library
    Action.makeDirectories output
    runGenerator modules output
    writeStubs output version

/-- The stubs of a version, null for the newest one. Those in the cache are used again; those that
are to go elsewhere are always made. -/
def generate (version : Value) (output : Option Path) (report : Progress) : Action Path := do
  let version ← match version with
    | .null => Release.latestVersion
    | version => pure version
  match output with
  | some output =>
    generateIn output version report
    return output
  | none =>
    let path ← stubsPath version
    if !(← Action.has path) then generateIn path version report
    return path

/-- The versions of the stubs in the cache, as the stubs themselves say. -/
def cachedVersions : Action (List String) := do
  let directory ← stubsDirectory
  if !(← Action.has directory) then return []
  let names ← Action.onTree fun tree here => do
    let place ← tree.locate here directory
    match tree.at? place with
    | some .directory => return tree.directoriesIn place
    | _ => Files.Tree.refuse directory .notDirectory
  let mut versions := []
  for name in names do
    let file := (directory.child name).child "VERSION"
    if ← Action.has file then
      let text ← Action.readText file
      versions := String.ofList (Text.strip text.toList) :: versions
  return versions.mergeSort fun a b => a ≤ b

end ContractLint.Stubs
