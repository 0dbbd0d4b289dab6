import ContractLint.World.Failure

/-! The releases of a repository, as its listing describes them. -/

namespace ContractLint.Release

open Json (Value Mismatch)

/-- The version that is used when no other is known. -/
def fallbackVersion : String := "v0.6.0-rc1"

/-- A release ships a bundle if one of its files has the name of one. -/
def shipsBundle (release : Value) : Except Mismatch Bool := do
  let assets ← (← release.getOr "assets" (.array [])).elements
  let names ← assets.mapM fun asset => do (← asset.get "name").hashable
  return names.any fun
    | .string name => Failure.bundleAssets.contains name
    | _ => false

/-- The tag of the newest release that ships a bundle. A stable release comes before all others
unless those are allowed; `candidate` is the first other one seen so far, or null. -/
def newestTag? (allowEarly : Bool) (candidate : Value) :
    List Value → Except Mismatch (Option Value)
  | [] =>
    match candidate with
    | .null => .ok none
    | tag => .ok (some tag)
  | release :: rest => do
    if (← release.get "draft").holds then newestTag? allowEarly candidate rest
    else if !(← shipsBundle release) then newestTag? allowEarly candidate rest
    else if (← release.get "prerelease").holds && !allowEarly then
      match candidate with
      | .null => newestTag? allowEarly (← release.require "tag_name") rest
      | tag => newestTag? allowEarly tag rest
    else return some (← release.require "tag_name")

structure AvailableRelease where
  tag : Value
  date : Value
  isEarly : Value

/-- The first ten elements of a text or an array. -/
def firstTen : Value → Except Mismatch Value
  | .string text => .ok (.string (Text.firstChars text 10))
  | .array items => .ok (.array (items.take 10))
  | .object _ => .error (.unhashable "slice")
  | other => .error (.notSubscriptable other.kind)

def availableRelease? (release : Value) : Except Mismatch (Option AvailableRelease) := do
  if ← shipsBundle release then
    return some {
      tag := ← release.require "tag_name"
      date := ← firstTen (← release.require "published_at")
      isEarly := ← release.getOr "prerelease" (.bool false) }
  else return none

/-- The releases of a listing that ship a bundle, in its order. -/
def availableReleases (listing : Value) : Except Mismatch (List AvailableRelease) := do
  return (← (← listing.elements).mapM availableRelease?).filterMap id

end ContractLint.Release
