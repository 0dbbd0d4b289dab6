import ContractLint.Runner.Extract
import ContractLint.Sdk.Dependencies

/-! The directories of the SDK that a contract needs. -/

namespace ContractLint.Sdk

open Files (Path)

/-- Hashes that stand for the latest runner. -/
def isFloating (hash : String) : Bool := hash = "test" || hash = "latest"

/-- The latest hash is worth a note when another one is asked for. -/
def newerNote? (repository kind hash : String) (latest : Option String) : Option String :=
  match latest.filter fun found => !found.isEmpty && found != hash with
  | some found =>
    some (kind ++ ": a newer runner is available (" ++ found ++ "). See " ++
      Release.releasesUrl repository ++ " for changes.")
  | none => none

/-- The hash of the latest runner, which has to be there. -/
def requireLatest (source : Path) (kind : String) : Action String := do
  match (← Runner.findLatest? source kind).filter fun found => !found.isEmpty with
  | some hash => return hash
  | none => throw (.noRunner kind)

/-- The hash to use for a kind of runner, and a note if there is a newer one. -/
def chooseHash (source : Path) (kind : String) (wanted : Option String) :
    Action (String × Option String) := do
  match wanted.filter fun hash => !isFloating hash with
  | some hash =>
    let latest ← Runner.findLatest? source kind
    return (hash, newerNote? (← get).repository kind hash latest)
  | none => return (← requireLatest source kind, none)

structure Extracted where
  paths : List Path
  notes : List String

/-- Extracts the runner of contracts and gives the hash of the library that it names. -/
def libraryHash (source : Path) (hash : String) : Action String := do
  let directory ← Runner.extract source "py-genlayer" hash
  match (← Runner.dependenciesIn directory).lookup "py-lib-genlayer-std" with
  | some hash => return hash
  | none => throw .noLibrary

/-- The directory of the serialisation library, if the source has one. -/
def protobufPath? (source : Path) : Action (Option Path) := do
  match (← Runner.findLatest? source "py-lib-protobuf").filter fun hash => !hash.isEmpty with
  | some hash => return some (← Runner.extract source "py-lib-protobuf" hash)
  | none => return none

/-- Extracts what dependencies ask for: the library, what it needs, and the embeddings if they are
asked for. -/
def extract (source : Path) (dependencies : List (String × String)) : Action Extracted := do
  let (runner, runnerNote) ← chooseHash source "py-genlayer" (dependencies.lookup "py-genlayer")
  let library ← Runner.extract source "py-lib-genlayer-std" (← libraryHash source runner)
  let protobuf ← protobufPath? source
  match dependencies.lookup "py-lib-genlayer-embeddings" with
  | none => return ⟨library :: protobuf.toList, runnerNote.toList⟩
  | some wanted =>
    let (hash, note) ← chooseHash source "py-lib-genlayer-embeddings" (some wanted)
    let embeddings ← Runner.extract source "py-lib-genlayer-embeddings" hash
    return ⟨library :: protobuf.toList ++ [embeddings], runnerNote.toList ++ note.toList⟩

/-- Where the modules of an extracted runner are. -/
def modulesPath (path : Path) : Action Path := do
  let sources := path.child "src"
  if ← Action.has sources then return sources else return path

def modulesPaths (paths : List Path) : Action (List Path) := paths.mapM modulesPath

end ContractLint.Sdk
