import ContractLint.Command.Run

/-! The command line. The files that the arguments name are read before the command runs, and the
files that it leaves are written after it. -/

namespace ContractLint.CommandLine

open Files (Content Entry Path Place Tree)

/-- The settings that commands look at. -/
def settingNames : List String :=
  ["HOME", "GENVM_SOURCE_MODE", "GENVM_PREBUILT_DIR", "GENVMROOT", "GENVM_VERSION",
    "GENVM_ALLOW_PRERELEASE", "GENVM_REPO"]

def readSettings : IO (List (String × String)) :=
  settingNames.filterMapM fun name => do return (← IO.getEnv name).map (name, ·)

/-- Adds a place and the directories on the way to it. -/
def addPlace (tree : Tree) (place : Place) (entry : Entry) : Tree :=
  let above := (List.range place.length).map place.take
  let tree := above.foldl (fun tree directory =>
    if (tree.at? directory).isSome then tree else tree.put directory .directory) tree
  tree.put place entry

/-- What a file holds, if it can be read. -/
def readContent? (path : String) : IO (Option Content) := do
  try
    return some (.bytes (← IO.FS.readBinFile path).toList)
  catch _ => return none

/-- The place of a path, seen from a directory. -/
def placeOf (here : Place) (path : String) : Place :=
  ((Path.ofRoot here).join (.ofText path)).parts

/-- A world that holds the files among the arguments. -/
def worldFor (arguments : List String) : IO World := do
  let here := (Path.ofText ((← IO.getEnv "PWD").getD "/")).parts
  let settings ← readSettings
  let home := Path.ofText ((settings.lookup "HOME").getD "/")
  let files ← arguments.filterMapM fun path => do
    return (← readContent? path).map (placeOf here path, ·)
  let tree := files.foldl (fun tree (place, content) => addPlace tree place (.file content))
    (addPlace {} here .directory)
  let usual : World := {}
  return { usual with
    tree, here, environment := settings
    cache := (home.child ".cache").child "genvm-linter"
    repository := (settings.lookup "GENVM_REPO").getD usual.repository }

/-- The files that one tree has and another has not, or has with another content. -/
def changedFiles (before after : Tree) : List (Place × List UInt8) :=
  after.entries.filterMap fun
    | (place, .file content) =>
      match before.at? place with
      | some (.file old) => if old.raw = content.raw then none else some (place, content.raw)
      | _ => some (place, content.raw)
    | (_, .directory) => none

def writeFile (place : Place) (data : List UInt8) : IO Unit := do
  IO.FS.createDirAll (Path.ofRoot place.dropLast).text
  IO.FS.writeBinFile (Path.ofRoot place).text ⟨data.toArray⟩

def perform (arguments : List String) : IO UInt32 := do
  let before ← worldFor arguments
  let (result, after) := (Command.run arguments).run.run before
  (changedFiles before.tree after.tree).forM fun (place, data) => writeFile place data
  IO.print after.output
  IO.eprint after.errors
  match result with
  | .ok code => return code.toUInt32
  | .error failure =>
    IO.eprintln failure.message
    return 1

end ContractLint.CommandLine

def main (arguments : List String) : IO UInt32 := ContractLint.CommandLine.perform arguments
