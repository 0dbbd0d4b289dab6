import ContractLint.Sdk.Paths
import ContractLint.Sdk.Source
import ContractLint.Source.Parse

/-! Loading of the SDK: its directories are searched for the module that makes schemas. -/

namespace ContractLint.Sdk

open Files (Path)
open Release (Progress)
open Source (Node)

/-- Where a module was found. A package is one or more directories, and may have a file too. -/
structure Found where
  file : Option Path
  directories : List Path

/-- Looks for a module in directories. A package with a file comes before a plain file; directories
without any file count together. -/
def findIn (name : String) (plain : List Path) : List Path → Action (Option Found)
  | [] => return if plain.isEmpty then none else some ⟨none, plain⟩
  | directory :: rest => do
    let package := directory.child name
    let start := package.child "__init__.py"
    let file := directory.child (name ++ ".py")
    if ← Action.hasFile start then return some ⟨some start, [package]⟩
    else if ← Action.hasFile file then return some ⟨some file, []⟩
    else if ← Action.hasDirectory package then findIn name (plain ++ [package]) rest
    else findIn name plain rest

def dotted (parts : List String) : String := Text.joinWith "." parts

/-- Finds a module part by part and gives all that is found on the way; `above` are the parts
before. -/
def findModule (above : List String) (directories : List Path) :
    List String → Action (List Found)
  | [] => return []
  | part :: parts => do
    let name := dotted (above ++ [part])
    if directories.isEmpty then throw (.notPackage name (dotted above))
    match ← findIn part [] directories with
    | none => throw (.noModule name)
    | some found => return found :: (← findModule (above ++ [part]) found.directories parts)

/-- The modules that a text imports by name at its top. -/
def importsOf (text : String) : List String :=
  match Source.parse text with
  | .ok module => module.body.flatMap fun
    | .importing _ modules => modules.map (·.name)
    | _ => []
  | .error _ => []

/-- A statement gives a name a value. -/
def defines (name : String) : Node → Bool
  | .functionDef _ _ defined _ _ _ _ _ => defined = name
  | .classDef _ defined _ _ _ _ => defined = name
  | .assign _ targets _ => targets.any fun
    | .name _ target => target = name
    | _ => false
  | .importing _ modules => modules.any fun module => module.boundTo.getD module.name = name
  | .importingFrom _ _ _ names => names.any fun found => found.boundTo.getD found.name = name
  | _ => false

def definesIn (name text : String) : Bool :=
  match Source.parse text with
  | .ok module => module.body.any (defines name)
  | .error _ => false

/-- The package of the SDK. -/
def packageName : String := "genlayer"

/-- The modules of the SDK that the files found import have to be there. -/
def checkImports (directories : List Path) (found : List Found) : Action Unit := do
  for file in found.filterMap (·.file) do
    for name in importsOf (← Action.readText file) do
      let parts := Text.splitAt name '.'
      if parts.head? = some packageName then
        discard <| findModule [] directories parts

/-- Imports the function that makes schemas from a module of the SDK. -/
def importFrom (directories : List Path) (parts : List String) : Action Unit := do
  let found ← findModule [] directories parts
  checkImports directories found
  match found.getLast?.bind (·.file) with
  | some file =>
    if !definesIn "get_schema" (← Action.readText file) then
      throw (.noName "get_schema" (dotted parts) file.text)
  | none => pure ()

/-- Where the function that makes schemas is, and where it was before. -/
def schemaModule : List String := [packageName, "_internal", "get_schema"]

def formerSchemaModule : List String := [packageName, "py", "get_schema"]

/-- Imports the function from where it is now or, if that module is missing, from where it was. -/
def importSchemaMaker (directories : List Path) : Action String := do
  match ← (importFrom directories schemaModule).outcome with
  | .ok () => return dotted schemaModule
  | .error failure =>
    let missing := match failure with
      | .noModule name | .notPackage name _ => some name
      | _ => none
    if missing.any fun name =>
        name = dotted (schemaModule.take 2) || name = dotted schemaModule then
      importFrom directories formerSchemaModule
      return dotted formerSchemaModule
    else throw failure

structure Loaded where
  module : String
  notes : List String
  searchPaths : List Path

/-- Loads the SDK that a contract asks for in its header. -/
def load (contract : Path) (report : Progress) : Action Loaded := do
  let dependencies := headerDependencies (← Action.readText contract)
  let source ← resolve .null report
  let extracted ← extract source dependencies
  let directories ← modulesPaths extracted.paths
  let module ← importSchemaMaker directories
  return ⟨module, extracted.notes, directories⟩

end ContractLint.Sdk
