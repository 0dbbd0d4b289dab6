import ContractLint.Release.Cache

/-! Cleaning of the cache: bundles, extracted runners and stubs of versions that are not kept. -/

namespace ContractLint.Release

open Files (Content Entry Path Place Tree)
open Json (Value)

/-- What was taken away. -/
structure Cleaned where
  files : Nat := 0
  bytes : Nat := 0
deriving Repr, DecidableEq

def Cleaned.add (a b : Cleaned) : Cleaned := ⟨a.files + b.files, a.bytes + b.bytes⟩

/-- Counts files; directories do not count. -/
def countFiles (entries : List (Place × Entry)) : Cleaned :=
  entries.foldl (fun cleaned (_, entry) =>
    match entry with
    | .file content => ⟨cleaned.files + 1, cleaned.bytes + content.size⟩
    | .directory => cleaned) {}

/-- The bundles in a directory that are not kept. -/
def doomedBundles (tree : Tree) (place : Place) (keep : List String) : List String :=
  (tree.namesLike place (bundleStart ++ "*" ++ bundleEnding)).filter fun name =>
    !keep.contains (keptName name)

/-- The directories in a directory that are not kept. -/
def doomedDirectories (tree : Tree) (place : Place) (keep : List String) : List String :=
  (tree.directoriesIn place).filter fun name => !keep.contains name

/-- Takes away names in a directory, with what is below them. -/
def removeNames (tree : Tree) (place : Place) (names : List String) : Tree :=
  names.foldl (fun tree name => tree.remove (place ++ [name])) tree

/-- Counts the files at and below names in a directory. -/
def countNames (tree : Tree) (place : Place) (names : List String) : Cleaned :=
  countFiles (tree.entries.filter fun (other, _) =>
    names.any fun name => (place ++ [name]).isPrefixOf other)

/-- Takes the bundles away that are not kept, up to one that is a directory. -/
def cleanBundles (path : Path) (place : Place) (keep : List String) : Action Cleaned := do
  let tree := (← get).tree
  let doomed := doomedBundles tree place keep
  let files := doomed.takeWhile fun name =>
    !((tree.at? (place ++ [name])).any Entry.isDirectory)
  Action.changeTree fun tree _ => return removeNames tree place files
  match doomed.drop files.length with
  | name :: _ => throw (.file ⟨.isDirectory, (path.child name).text⟩)
  | [] => return countNames tree place files

/-- Takes the directories of versions away that are not kept. A file has no place where they
are. -/
def cleanVersions (path : Path) (place : Place) (keep : List String) (name : String) :
    Action Cleaned := do
  let tree := (← get).tree
  let directory := place ++ [name]
  match tree.at? directory with
  | some (.file _) => throw (.file ⟨.notDirectory, (path.child name).text⟩)
  | _ =>
    let doomed := doomedDirectories tree directory keep
    Action.changeTree fun tree _ => return removeNames tree directory doomed
    return countNames tree directory doomed

/-- Cleans a directory of all versions but those to keep. -/
def cleanDirectory (path : Path) (place : Place) (keep : List String) : Action Cleaned := do
  let bundles ← cleanBundles path place keep
  let extracted ← cleanVersions path place keep "extracted"
  let stubs ← cleanVersions path place keep "stubs"
  return (bundles.add extracted).add stubs

/-- The versions to keep, with the newest one if so asked. -/
def keptVersions (keep : List String) (keepLatest : Bool) : Action (List String) := do
  if keepLatest then
    match ← latestVersion with
    | .string version => return version :: keep
    | _ => return keep
  else return keep

/-- Cleans the cache of all versions but those to keep and, if so asked, the newest one. -/
def clean (keep : List String) (keepLatest : Bool) : Action Cleaned := do
  let keep ← keptVersions keep keepLatest
  let path ← cacheDirectory
  let place ← Action.onTree fun tree here => tree.locate here path
  cleanDirectory path place keep

end ContractLint.Release
