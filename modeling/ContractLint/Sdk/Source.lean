import ContractLint.Release.Download

/-! Where the SDK comes from: a tree of files that was built before, or a bundle. -/

namespace ContractLint.Sdk

open Files (Path)
open Json (Value)
open Release (Progress)

inductive Mode
  | auto
  | prebuilt
  | release
deriving Repr, DecidableEq

def Mode.ofText? : String → Option Mode
  | "" => some .auto
  | "prebuilt" => some .prebuilt
  | "release" => some .release
  | _ => none

def chosenMode : Action Mode := do
  let text := (← Action.setting? "GENVM_SOURCE_MODE").getD ""
  let text := String.ofList (Text.strip text.toList)
  match Mode.ofText? text with
  | some mode => return mode
  | none => throw (.unknownMode text)

/-- A tilde at the start of a path stands for the home directory. -/
def withHome (path : Path) : Action Path := do
  match path.parts with
  | first :: rest =>
    if path.isAbsolute || !Text.startsWith first "~" then return path
    else match first, ← Action.setting? "HOME" with
      | "~", some home => return (Path.ofText home).join ⟨0, rest⟩
      | _, _ => throw .noHome
  | [] => return path

/-- The tree that is set, and by which setting. -/
def givenTree? : Action (Option (String × Path)) := do
  match ← Action.given? "GENVM_PREBUILT_DIR" with
  | some value => return some ("GENVM_PREBUILT_DIR", ← withHome (.ofText value))
  | none =>
    match ← Action.given? "GENVMROOT" with
    | some value => return some ("GENVMROOT", ← withHome (.ofText value))
    | none => return none

/-- Why a tree cannot be used. -/
def treeProblem? (root : Path) : Action (Option String) := do
  if !(← Action.hasDirectory root) then return some "the path is not a directory"
  let modules := if ← Action.hasFile ((root.child "bin").child "genvm-modules") then []
    else ["bin/genvm-modules"]
  let runners := if ← Action.hasDirectory (root.child "runners") then [] else ["runners/"]
  match modules ++ runners with
  | [] => return none
  | missing => return some ("missing " ++ Text.joinWith ", " missing)

/-- The tree that is set if it can be used, else the bundle of a version. The mode can insist on
either. -/
def resolve (version : Value) (report : Progress) : Action Path := do
  let mode ← chosenMode
  let given ← givenTree?
  match mode, given with
  | .release, _ => Release.download version report
  | .auto, none => Release.download version report
  | .prebuilt, none => throw .noTreeGiven
  | mode, some (setting, root) =>
    match ← treeProblem? root with
    | none => return root
    | some problem =>
      if mode = .prebuilt then throw (.unusableTree setting root.text problem)
      else Release.download version report

end ContractLint.Sdk
