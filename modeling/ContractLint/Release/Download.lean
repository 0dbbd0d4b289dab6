import ContractLint.Release.Cache
import ContractLint.Text.Integer

/-! Downloads of bundles. A bundle appears in the cache only when all of it is there. -/

namespace ContractLint.Release

open Files (Content Path)
open Json (Value)

/-- Told how much is there and how much there will be. -/
abbrev Progress := Nat → Int → Action Unit

def silent : Progress := fun _ _ => pure ()

/-- How many bytes a read asks for. -/
def chunkSize : Nat := 1024 * 1024

/-- How many bytes a read gets: what is ready, but one at least and no more than it asks for. -/
def chunkOf (ready : Option Nat) : Nat := max 1 (min (ready.getD chunkSize) chunkSize)

/-- Reads on from a position until all is there; after each chunk the file holds what has been
read. -/
def transfer (body : Body) (file : Path) (total : Int) (report : Progress) (sizes : List Nat)
    (position : Nat) : Action Unit := do
  match body.failureAt? position with
  | some failure => throw failure
  | none =>
    if body.content.size ≤ position then pure ()
    else
      let next := min (position + chunkOf sizes.head?) body.content.size
      Action.write file (body.content.first next)
      report next total
      transfer body file total report sizes.tail next
termination_by body.content.size - position
decreasing_by
  simp only [chunkOf]
  omega

/-- The length that a server announces; zero when it announces none. -/
def announcedLength (length : Option String) : Action Int :=
  match length with
  | none => pure 0
  | some text =>
    match Text.readInt? text with
    | some value => pure value
    | none => throw (.notWhole text)

/-- A path beside another one where nothing is yet. -/
def pathBeside (path : Path) : Action Path := do
  let directory := path.parent
  let name ← Action.onTree fun tree here => do
    return tree.freshName (← tree.locate here directory)
  return directory.child name

/-- Moves a file to another path. -/
def moveFile (file target : Path) : Action Unit := do
  let content ← Action.read file
  Action.changeTree fun tree here => do
    let place ← tree.locate here file
    (tree.remove place).write here target content

def removeFile (file : Path) : Action Unit :=
  Action.changeTree fun tree here => do return tree.remove (← tree.locate here file)

/-- Downloads to a file beside the target, which takes the target's place at the end. -/
def downloadTo (url : String) (target : Path) (report : Progress) : Action Unit := do
  let body ← Action.request url
  let total ← announcedLength body.length
  let file ← pathBeside target
  Action.write file (body.content.first 0)
  match ← (do
      transfer body file total report body.sizes 0
      moveFile file target : Action Unit).outcome with
  | .ok () => pure ()
  | .error failure =>
    if ← Action.has file then removeFile file
    throw failure

/-- Tries the files that a bundle may be called. One that is not found leads to the next one. -/
def downloadFirst (version : Value) (target : Path) (report : Progress) :
    List String → Action Unit
  | [] => throw (.noBundle version.plain)
  | asset :: rest => do
    let url := assetUrl (← get).repository version.plain asset
    match ← (downloadTo url target report).outcome with
    | .ok () => pure ()
    | .error (.refused 404 _) => downloadFirst version target report rest
    | .error failure => throw failure

/-- The bundle of a version, downloaded unless it is there already. Null stands for the version
that is used otherwise. -/
def download (version : Value) (report : Progress) : Action Path := do
  let version ← match version with
    | .null => resolveVersion
    | version => pure version
  let target ← bundlePath version
  if !(← Action.has target) then
    downloadFirst version target report Failure.bundleAssets
  return target

end ContractLint.Release
