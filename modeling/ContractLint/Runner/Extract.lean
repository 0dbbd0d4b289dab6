import ContractLint.Runner.Index
import ContractLint.Runner.Manifest

/-! Runners are extracted into the cache, one directory each. -/

namespace ContractLint.Runner

open Files (Content Members Path Place)

/-- What the directory of runners from a source is called. -/
def sourceName (source : Path) (isDirectory : Bool) : String :=
  if isDirectory then "prebuilt" else Text.removeAll source.stem Release.bundleStart

/-- The directory of the runners of a kind. -/
def kindDirectory (cache : Path) (source kind : String) : Path :=
  ((cache.child "extracted").child source).child kind

/-- The directory of a runner. -/
def runnerDirectory (cache : Path) (source kind hash : String) : Path :=
  (kindDirectory cache source kind).child hash

def placeText (place : Place) : String := "/" ++ Text.joinWith "/" place

/-- The parts of a member's name. Slashes at its start do not count; single dots stay. -/
def memberParts (name : String) : List String := (Text.splitAt name '/').filter (· != "")

/-- The path that a member is written to. -/
def memberPath (directory : Path) (name : String) : Path := directory.join ⟨0, memberParts name⟩

/-- Writes a member of an archive into a directory. A member that would leave it is refused; one
that leaves it on the way is not. -/
def writeMember (directory : Path) (name : String) (content : Option Content) : Action Unit := do
  let place ← Action.onTree fun tree here => tree.locate here directory
  let target := Files.lead place (memberParts name)
  if place.isPrefixOf target then
    Action.makeParents (memberPath directory name)
    match content with
    | none => Action.makeUnlessThere (memberPath directory name)
    | some content => Action.write (memberPath directory name) content
  else throw (.outside name (placeText target))

/-- Writes the members of an archive one by one. -/
def writeMembers (directory : Path) : Members → Action Unit
  | [] => pure ()
  | (name, content) :: rest => do
    writeMember directory name content
    writeMembers directory rest

/-- The members of a runner, which is itself a member of a bundle. -/
def runnerInBundle (bundle : Path) (name : String) : Action Members := do
  let members ← orNotArchive (← Action.read bundle).packedMembers
  match Files.memberNamed? members name with
  | none => throw (.noMember name)
  | some none => throw (.notExtractable name)
  | some (some content) => orNotArchive content.members

/-- The members of a runner in a tree of files. -/
def runnerInTree (root : Path) (name : String) : Action Members := do
  orNotArchive (← Action.read (root.child name)).members

/-- The members of a runner. -/
def runnerMembers (source : Path) (kind hash : String) : Action Members := do
  let name ← findPath source kind hash
  if ← Action.hasDirectory source then runnerInTree source name else runnerInBundle source name

def extractInto (source directory : Path) (kind hash : String) : Action Unit := do
  writeMembers directory (← runnerMembers source kind hash)

/-- A directory with something in it. -/
def isFilled (directory : Path) : Action Bool := do
  if ← Action.has directory then
    Action.onTree fun tree here => do
      let place ← tree.locate here directory
      match tree.at? place with
      | some .directory => return !(tree.children place).isEmpty
      | _ => Files.Tree.refuse directory .notDirectory
  else return false

/-- Extracts a runner into a directory that is there. When that fails, nothing stays. -/
def extractOrRemove (source directory : Path) (kind hash : String) : Action Path := do
  match ← (extractInto source directory kind hash).outcome with
  | .ok () => return directory
  | .error failure =>
    if ← Action.has directory then Action.removeTree directory
    throw failure

/-- Fills the directory of a runner unless something is in there already. -/
def fill (source directory : Path) (kind hash : String) : Action Path := do
  if ← isFilled directory then return directory
  else
    Action.makeDirectories directory
    extractOrRemove source directory kind hash

/-- The directory of a runner, extracted unless something is there already. -/
def extract (source : Path) (kind hash : String) : Action Path := do
  let name := sourceName source (← Action.hasDirectory source)
  fill source (runnerDirectory (← Release.cacheDirectory) name kind hash) kind hash

/-- What the runner in a directory depends on. -/
def dependenciesIn (directory : Path) : Action (List (String × String)) := do
  let path := directory.child "runner.json"
  if ← Action.has path then
    Action.attempt (manifestDependencies (← Action.parseJson (← Action.readText path)))
  else return []

end ContractLint.Runner
