import ContractLint.Command.Run
import ContractLint.Workload.Lint

/-! Workloads over releases, their cache and the runners in them. -/

namespace ContractLint.Workload

open Files (Content Path)
open Json (Value)
open Sample

def versionName (index : Nat) : String := "v0." ++ toString index ++ ".0"

/-- Fills the cache with versions: a bundle, an extracted file and a stub for each. -/
def fillCache (size : Nat) : Action Unit := do
  let cache ← Release.cacheDirectory
  (List.range size).forM fun index => do
    let version := versionName index
    place (cache.child (Release.bundleStart ++ version ++ Release.bundleEnding)) (.filler 64)
    place (((cache.child "extracted").child version).child "runner.py") (.filler 32)
    place (((cache.child "stubs").child version).child "stub.pyi") (.filler 32)

/-- Cleans a full cache of all versions but the first one, then of all. -/
def cleanVersions (size : Nat) : Action (Release.Cleaned × Release.Cleaned) := do
  emptyCache
  fillCache size
  let most ← Release.clean [versionName 0] false
  fillCache size
  let all ← Release.clean [] false
  return (most, all)

def treePath : Path := file "tree"

/-- The settings under which the SDK is looked for, and whether there is one. -/
def sourceSettings : List (List (String × String)) :=
  let tree := ("GENVM_PREBUILT_DIR", treePath.text)
  let root := ("GENVMROOT", treePath.text)
  let mode (name : String) := ("GENVM_SOURCE_MODE", name)
  let version := ("GENVM_VERSION", versionName 0)
  [[tree], [root], [mode "prebuilt", tree], [mode "release", tree, version], [version],
    [mode "unknown", tree], [mode "prebuilt"],
    [mode "prebuilt", ("GENVM_PREBUILT_DIR", (file "nowhere").text)]]

/-- The bundle of a version in the cache. -/
def placeBundle (version : String) (content : Content) : Action Unit := do
  place (← Release.bundlePath (.string version)) content

/-- Counts where the SDK was found and where not. -/
structure Resolved where
  found : Nat := 0
  refused : Nat := 0

def Resolved.add (counts : Resolved) (isFound : Bool) : Resolved :=
  if isFound then { counts with found := counts.found + 1 }
  else { counts with refused := counts.refused + 1 }

def prepareSources : Action Unit := do
  placeTree treePath (runners 4)
  placeBundle (versionName 0) (bundle (runners 4))

/-- Looks for the SDK under all settings, as many times as asked. -/
def resolveSources (size : Nat) : Action Resolved := do
  let rounds := (List.replicate size sourceSettings).flatten
  rounds.foldlM (fun counts settings => do
    match ← (withSettings settings (Sdk.resolve .null Release.silent)).outcome with
    | .ok _ => return counts.add true
    | .error _ => return counts.add false) {}

/-- The files below a directory. -/
def countBelow (path : Path) : Action Nat :=
  Action.onTree fun tree here => do
    return (tree.below (← tree.locate here path)).countP fun (_, entry) => !entry.isDirectory

/-- The runners of an index: kinds, and a hash for each path. -/
def indexedRunners (index : Value) : Action (List (String × String)) := Action.attempt do
  let kinds ← index.fields "items"
  let runners ← kinds.mapM fun (kind, paths) => do
    let paths ← (← paths.elements).mapM (·.asText "split")
    return (paths.filterMap Runner.hashOf?).map (kind, ·)
  return runners.flatten

/-- Extracts every runner of a source; counts the runners and their files. -/
def unpackOnce (source : Path) : Action Nat := do
  let runners ← indexedRunners (← Runner.indexOf source)
  let counts ← runners.mapM fun (kind, hash) => do
    return 1 + (← countBelow (← Runner.extract source kind hash))
  return total counts

/-- Extracts the runners of a source again and again, and says which kinds there are. -/
def unpack (source : Path) (size : Nat) : Action (Nat × List String) := do
  let counts ← (List.replicate size source).mapM unpackOnce
  if size = 0 then return (0, [])
  let kinds := (← Action.attempt ((← Runner.indexOf source).fields "keys")).map (·.1)
  return (total counts, kinds.mergeSort fun a b => a ≤ b)

def bundlePathOfSample : Path := file "genvm-universal-sample.tar.xz"

/-- A bundle that has an older library too. -/
def bundledRunners : List SampleRunner := libraryRunner 7 olderLibraryHash :: runners 7

def unpackBundle : Job (Nat × List String) where
  prepare _ := place bundlePathOfSample (bundle bundledRunners)
  run size := unpack bundlePathOfSample size

def unpackTree : Job (Nat × List String) where
  prepare _ := placeTree treePath (runners 22)
  run size := unpack treePath size

/-- A release as listings describe it. Every other one ships a bundle, and the first one is a
draft. -/
def listedRelease (index : Nat) : Value :=
  let assets := if index % 2 = 0 then Failure.bundleAssets.map fun name =>
    Value.object [("name", .string name)] else []
  .object [("tag_name", .string (versionName index)), ("draft", .bool (index = 0)),
    ("prerelease", .bool false), ("published_at", .string "2025-01-01T00:00:00Z"),
    ("assets", .array assets)]

/-- A version that can be downloaded. -/
def servedVersion : String := "v7.7.7"

def textReply (text : String) : Reply := .body (.ofText text) none none

/-- What a server answers that has a listing and the bundles of some versions. -/
def serverReplies (repository : String) (listing : Value) (versions : List String)
    (content : Content) : List (String × Reply) :=
  let list := Release.listingUrl repository
  let text := listing.spaced
  [(list, textReply text), (list ++ "?per_page=100", textReply text)] ++
    versions.map fun version =>
      (Release.assetUrl repository version "genvm-universal.tar.xz",
        .body content (some (toString content.size)) none)

/-- What was learned from a server. -/
structure Fetched where
  latest : Value
  available : Nat
  resolved : Value
  early : Value
  unreachable : Value
  withoutBundle : Value
  bundle : String
  reports : Nat
  bundleAgain : String
  missing : Bool
  cached : Value
  latestAgain : Value
  cleaned : Release.Cleaned

/-- Asks a server for the newest version in several ways, downloads a version twice and one that is
not there once. -/
def fetch (size : Nat) : Action Fetched := do
  emptyCache
  let repository := (← get).repository
  let listing := Value.array ((List.range size).map listedRelease)
  let replies := serverReplies repository listing [servedVersion] (.filler 100)
  let empty := serverReplies repository (.array []) [] (.filler 0)
  let early := [("GENVM_ALLOW_PRERELEASE", "1")]
  let latest ← withReplies replies Release.latestVersion
  let available ← withReplies replies Release.availableVersions
  let resolved ← withReplies replies Release.resolveVersion
  let allowed ← withReplies replies (withSettings early Release.latestVersion)
  let unreachable ← withReplies [] Release.latestVersion
  let none ← withReplies empty Release.latestVersion
  modify fun world => { world with progress := [] }
  let version := Value.string servedVersion
  let path ← withReplies replies (Release.download version Action.noteProgress)
  let reports := (← get).progress.length
  let again ← withReplies replies (Release.download version Release.silent)
  let other ← (withReplies replies
    (Release.download (.string "v9.9.9") Release.silent)).outcome
  let cached ← withReplies replies Release.resolveVersion
  let latestAgain ← withReplies replies Release.latestVersion
  let kept := Release.keptName path.name
  let cleaned ← withReplies replies (Release.clean [kept] true)
  return {
    latest, available := available.length, resolved, early := allowed, unreachable
    withoutBundle := none, bundle := path.name, reports, bundleAgain := again.name
    missing := match other with
      | .error (.noBundle _) => true
      | _ => false
    cached, latestAgain, cleaned }

/-- Commands on releases, first with a server that has them, then without one. -/
def fetchByCommand (size : Nat) : Action (List Nat) := do
  emptyCache
  placeText (file "contract.py") (plainContract 1)
  let repository := (← get).repository
  let listing := Value.array ((List.range (size + 3)).map listedRelease)
  let replies := serverReplies repository listing
    [versionName 2, servedVersion] (bundle (runners 4))
  let served := [["download", "--available"], ["download"],
    ["download", "--version", servedVersion], ["download", "--list"], ["typecheck", "work/contract.py"], ["stubs"], ["setup"],
    ["cache", "clean", "--all"]]
  let unserved := [["download", "--available"], ["download"], ["stubs"], ["setup"],
    ["typecheck", "work/contract.py"]]
  let (_, first) ← withReplies replies (runCommands served)
  let (_, second) ← withReplies [] (runCommands unserved)
  return first ++ second

end ContractLint.Workload
