import ContractLint.Files.Content
import ContractLint.Files.Archive
import ContractLint.Runner.Path
import ContractLint.Sample.Contract

/-! A small SDK, to try out what looks for one: runners, and where they lie in a bundle or in a tree
of files. -/

namespace ContractLint.Sample

open Files (Content Members)

/-- A runner: the path of its archive and what is in that. -/
structure SampleRunner where
  path : String
  members : Members

/-- A hash as long as hashes are, told from others by its start. -/
def hashFrom (start : String) : String :=
  start ++ "35p8mzlzwgxcrx5v51srnsqyj72cq7993way1vqddwxcvkq4"

def olderRunnerHash : String := hashFrom "0aaa"

def libraryHash : String := hashFrom "1std"

def olderLibraryHash : String := hashFrom "1aaa"

def protobufHash : String := hashFrom "1pro"

def formerHash : String := hashFrom "1old"

/-- A manifest with one dependency. -/
def manifest (kind hash : String) : String :=
  "\x7b \"Seq\": [ " ++ dependency kind hash ++ " ] \x7d"

def textMember (name text : String) : String × Option Content := (name, some (.ofText text))

/-- Modules without anything in them. -/
def emptyModules (count : Nat) : Members :=
  (List.range count).map fun index => textMember ("module" ++ toString index ++ ".py") ""

/-- The modules that make schemas, and the packages that they are in. -/
def schemaModules : Members :=
  [textMember "genlayer/__init__.py" "",
    textMember "genlayer/_internal/__init__.py" "",
    textMember "genlayer/_internal/get_schema.py"
      "def get_schema(contract):\n    return contract\n"]

/-- A runner of contracts with as many files as asked for; it names its library. -/
def contractRunner (files : Nat) (hash library : String) : SampleRunner :=
  ⟨Runner.currentPath "py-genlayer" hash,
    textMember "runner.json" (manifest "py-lib-genlayer-std" library) :: emptyModules (files - 1)⟩

def libraryRunner (files : Nat) (hash : String) : SampleRunner :=
  ⟨Runner.currentPath "py-lib-genlayer-std" hash, schemaModules ++ emptyModules (files - 3)⟩

def plainRunner (files : Nat) (kind hash : String) : SampleRunner :=
  ⟨Runner.currentPath kind hash, emptyModules files⟩

/-- A runner that only some executor still comes with. -/
def formerRunner (files : Nat) (kind hash : String) : SampleRunner :=
  ⟨"executor/v0.1.0/legacy-runners/" ++ kind ++ "/" ++ Runner.hashPath hash, emptyModules files⟩

/-- One runner of each kind and an older one of contracts. -/
def runners (files : Nat) : List SampleRunner :=
  [contractRunner files olderRunnerHash libraryHash,
    contractRunner files runnerHash libraryHash,
    libraryRunner files libraryHash,
    plainRunner files "py-lib-genlayer-embeddings" embeddingsHash,
    plainRunner files "py-lib-protobuf" protobufHash,
    formerRunner files "py-old" formerHash]

def SampleRunner.member (runner : SampleRunner) : String × Option Content :=
  (runner.path, some (.archive false runner.members))

/-- A bundle of runners. -/
def bundle (runners : List SampleRunner) : Content := .archive true (runners.map (·.member))

end ContractLint.Sample
