import ContractLint.Entries
import ContractLint.Files.Archive
import ContractLint.Release.Cache
import ContractLint.Runner.Path

/-! The index of the runners in a bundle or in a tree of files: their paths by kind. -/

namespace ContractLint.Runner

open Files (Content Path Place Tree)
open Json (Value Mismatch)

/-- The paths of runners by kind, in the order in which they were found. -/
abbrev Index := List (String × List String)

def Index.add (index : Index) (kind path : String) : Index :=
  setEntry index kind ((index.lookup kind).getD [] ++ [path])

/-- The kind of the runner at a path, if there can be a runner. -/
def kindOf? (path : String) : Option String :=
  let parts := Text.splitAt path '/'
  if !Text.endsWith path ".tar" then none
  else if isCurrent path then if 4 ≤ parts.length then parts[1]? else none
  else if isLegacy path then
    if 6 ≤ parts.length && parts[2]? = some "legacy-runners" then parts[3]? else none
  else none

def Index.ofPaths (paths : List String) : Index :=
  paths.foldl (fun index path =>
    match kindOf? path with
    | some kind => index.add kind path
    | none => index) []

def Index.json (index : Index) : Value :=
  .object (index.map fun (kind, paths) => (kind, .array (paths.map .string)))

/-- The order of places: name by name. -/
def placeLe : Place → Place → Bool
  | [], _ => true
  | _ :: _, [] => false
  | a :: as, b :: bs => a < b || (a = b && placeLe as bs)

/-- The places below a directory that fit a pattern, name by name, in order. -/
def placesLike (tree : Tree) (directory : Place) (patterns : List String) : List Place :=
  let places := (tree.below directory).map fun (place, _) => place.drop directory.length
  let fitting := places.filter fun place =>
    place.length = patterns.length &&
      (place.zip patterns).all fun (name, pattern) => Text.matchesPattern pattern name
  fitting.mergeSort placeLe

/-- The paths of the runners in a tree of files, below its root. -/
def runnerPlaces (tree : Tree) (root : Place) : List Place :=
  (placesLike tree (root ++ ["runners"]) ["*", "*", "*.tar"]).map (["runners"] ++ ·) ++
    (placesLike tree (root ++ ["executor"]) ["*", "legacy-runners", "*", "*", "*.tar"]).map
      (["executor"] ++ ·)

def Index.ofTree (tree : Tree) (root : Place) : Index :=
  .ofPaths ((runnerPlaces tree root).map (Text.joinWith "/"))

/-- Where the index of a bundle is kept. -/
def indexPath (bundle : Path) : Path := bundle.withName (bundle.name ++ ".index-v2.json")

def orNotArchive {α : Type} : Except String α → Action α
  | .ok value => pure value
  | .error problem => throw (.notArchive problem)

/-- The index that a scan of a bundle gives. -/
def scanBundle (bundle : Path) : Action Value := do
  let members ← orNotArchive (← Action.read bundle).packedMembers
  return (Index.ofPaths (members.map (·.1))).json

/-- The index of a bundle. It is read from where it is kept, or else made and kept there. -/
def bundleIndex (bundle : Path) : Action Value := do
  let kept := indexPath bundle
  if ← Action.has kept then Action.parseJson (← Action.readText kept)
  else
    let index ← scanBundle bundle
    Action.writeText kept index.spaced
    return index

/-- The index of a bundle or, for a directory, of the tree of files in it. -/
def indexOf (source : Path) : Action Value := do
  if ← Action.hasDirectory source then
    Action.onTree fun tree here => do return (Index.ofTree tree (← tree.locate here source)).json
  else bundleIndex source

/-- The first legacy path of a runner, else the current one. -/
def legacyPathAmong (kind hash : String) : List Value → Except Mismatch String
  | [] => .ok (currentPath kind hash)
  | value :: rest => do
    let path ← value.asText "startswith"
    if isLegacy path && Text.endsWith path (legacyEnding kind hash) then return path
    else legacyPathAmong kind hash rest

/-- The path of a runner by an index that may hold anything. -/
def pathByIndex (index : Value) (kind hash : String) : Except Mismatch String := do
  let paths ← index.getOr kind (.array [])
  if ← paths.mentions (currentPath kind hash) then return currentPath kind hash
  else legacyPathAmong kind hash (← paths.elements)

/-- The path whose runner is the latest: the last current one, else the last one. -/
def latestPath? (paths : List String) : Option String :=
  ((paths.filter isCurrent).getLast?).or paths.getLast?

/-- The hash of the latest runner of a kind by an index that may hold anything. -/
def latestByIndex? (index : Value) (kind : String) : Except Mismatch (Option String) := do
  let paths ← index.getOr kind (.array [])
  if !paths.holds then return none
  else
    let paths ← (← paths.elements).mapM fun path => path.asText "startswith"
    match latestPath? paths with
    | none => return none
    | some path =>
      match hashOf? path with
      | some hash => return some hash
      | none => throw .outOfRange

def findPath (source : Path) (kind hash : String) : Action String := do
  Action.attempt (pathByIndex (← indexOf source) kind hash)

def findLatest? (source : Path) (kind : String) : Action (Option String) := do
  Action.attempt (latestByIndex? (← indexOf source) kind)

end ContractLint.Runner
