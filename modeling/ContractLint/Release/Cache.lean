import ContractLint.Release.Listing
import ContractLint.Release.Repository
import ContractLint.Release.Version
import ContractLint.World.Basic

/-! The cache of bundles, and which version is used. A version is what a listing gives as a tag:
mostly a text, but null when a listing has nothing better. -/

namespace ContractLint.Release

open Files (Path Place Tree)
open Json (Value)

/-- The directory of the cache. It is made when it is asked for. -/
def cacheDirectory : Action Path := do
  let path := (← get).cache
  Action.makeDirectories path
  return path

/-- Asks a server for a text, which is read at once. -/
def fetchText (url : String) : Action String := do
  let body ← Action.request url
  match body.readAll with
  | .error failure => throw failure
  | .ok content =>
    match Text.decodeUtf8 content.raw with
    | .ok text => return String.ofList text
    | .error fault => throw (.notText fault)

/-- What the listing of releases says about the newest one. -/
def listedVersion? : Action (Option Value) := do
  let url := listingUrl (← get).repository ++ "?per_page=100"
  let listing ← Action.parseJson (← fetchText url)
  let allowEarly := (← Action.setting? "GENVM_ALLOW_PRERELEASE") = some "1"
  Action.attempt (do newestTag? allowEarly .null (← listing.elements))

/-- The newest version. Whatever goes wrong, there is one to fall back to. -/
def latestVersion : Action Value := do
  let repository := (← get).repository
  match ← listedVersion?.outcome with
  | .ok (some tag) => return tag
  | .ok none =>
    Action.complain ("Warning: no release in " ++ repository ++ " ships a known runner bundle (" ++
      Text.joinWith ", " Failure.bundleAssets ++ "); falling back to " ++ fallbackVersion ++
      ", which may not exist in that repository")
    return .string fallbackVersion
  | .error failure =>
    Action.complain ("Warning: could not resolve latest GenVM version from " ++ repository ++
      " (" ++ failure.message ++ "); falling back to " ++ fallbackVersion)
    return .string fallbackVersion

def availableVersions : Action (List AvailableRelease) := do
  let listing ← Action.parseJson (← fetchText (listingUrl (← get).repository))
  Action.attempt (availableReleases listing)

/-- The versions whose bundles a directory holds for a repository, the newest first. -/
def versionsIn (tree : Tree) (place : Place) (repository : String) : List String :=
  newestFirst ((tree.namesLike place (repositoryStart repository ++ "*" ++ bundleEnding)).map
    (versionOf repository))

def cachedVersions : Action (List String) := do
  let path ← cacheDirectory
  let repository := (← get).repository
  Action.onTree fun tree here => do
    return versionsIn tree (← tree.locate here path) repository

/-- The version to use: the one that is set, else the newest in the cache, else the newest of
all. -/
def resolveVersion : Action Value := do
  match ← Action.given? "GENVM_VERSION" with
  | some version => return .string version
  | none =>
    match ← cachedVersions with
    | version :: _ => return .string version
    | [] => latestVersion

def bundlePath (version : Value) : Action Path := do
  return (← cacheDirectory).child (bundleName (← get).repository version.plain)

end ContractLint.Release
