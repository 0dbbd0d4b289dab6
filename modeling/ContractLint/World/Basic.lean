import ContractLint.Text.Integer
import ContractLint.Validation.Check
import ContractLint.World.Failure

/-! The world that commands act in: files, environment and servers, and what has been printed,
asked for and started so far. -/

namespace ContractLint

open Files (Content Path Place Tree)

/-- A body as a server sends it. Its length may be announced. A read gets what the server has ready,
`sizes` saying how much for the first reads; from some position on reads may fail. -/
structure Body where
  content : Content
  length : Option String := none
  sizes : List Nat := []
  fault : Option (Nat × Failure) := none

/-- Why a read at a position fails. -/
def Body.failureAt? (body : Body) (position : Nat) : Option Failure :=
  match body.fault with
  | some (start, failure) => if start ≤ position then some failure else none
  | none => none

/-- The length that is announced, where that is one. -/
def Body.announced? (body : Body) : Option Nat :=
  match body.length.bind Text.readInt? with
  | some (.ofNat length) => some length
  | _ => none

/-- Why one of so many positions cannot be read. -/
def Body.failureWithin? (body : Body) : Nat → Option Failure
  | 0 => none
  | last + 1 => body.failureAt? last

/-- Reads a body at once. Its end is read like a byte, unless the length says where it is. -/
def Body.readAll (body : Body) : Except Failure Content :=
  let size := body.content.size
  let count := (body.announced?.getD (size + 1)).min (size + 1)
  match body.failureWithin? count with
  | some failure => .error failure
  | none =>
    let missing := body.announced?.getD 0 - size
    if missing = 0 then .ok (body.content.first count) else .error (.incomplete size missing)

/-- How a server answers: with a body, or with a failure such as a refusal. -/
inductive Reply
  | sent (body : Body)
  | failed (failure : Failure)

namespace Reply

/-- A body that may break off at some position. -/
def body (content : Content) (length : Option String) (breaksAt : Option Nat) : Reply :=
  .sent { content, length, fault := breaksAt.map fun position => (position, .connectionReset) }

def refused (status : Int) (reason : String) : Reply := .failed (.refused status reason)

def unreachable (reason : String) : Reply := .failed (.unreachable reason)

end Reply

/-- A program that was started. -/
inductive Launch
  | stubGenerator (source output : String)
  | typeChecker (settings : Json.Value) (contract : String)

/-- The tree and the directory one is in, the settings, the servers and the tools: what the stub
generator leaves below its output, what the type checker prints if it is there, and what loading a
contract leads to where that does not follow from the files. Values can be read that stand in a
hundred others, and in some to spare. -/
structure World where
  tree : Tree := {}
  here : Place := []
  cache : Path := ⟨0, []⟩
  repository : String := "genlayerlabs/genvm-manager"
  environment : List (String × String) := []
  replies : List (String × Reply) := []
  stubsLeft : List (Place × Files.Entry) := []
  typeChecker : Option String := none
  loading : Option Validation.Loading := none
  output : String := ""
  errors : String := ""
  requests : List String := []
  progress : List (Nat × Int) := []
  launches : List Launch := []
  encoding : Files.Encoding := .utf8
  spareNesting : Nat := 850

/-- How many arrays and objects may stand in each other in a text that is read. -/
def World.nesting (world : World) : Nat := world.spareNesting + 100

/-- What a server answers. An address that nobody knows is refused. -/
def World.reply (world : World) (url : String) : Reply :=
  (world.replies.lookup url).getD (.refused 404 "Not Found")

/-- What acts in the world. What it did stays done when it fails. -/
abbrev Action := ExceptT Failure (StateM World)

namespace Action

def attempt {α : Type} (result : Except Json.Mismatch α) : Action α :=
  match result with
  | .ok value => pure value
  | .error found => throw (.mismatch found)

/-- Runs an action and keeps its failure as a value. -/
def outcome {α : Type} (action : Action α) : Action (Except Failure α) :=
  tryCatch (do return .ok (← action)) fun failure => pure (.error failure)

def onTree {α : Type} (use : Tree → Place → Except Files.FileFault α) : Action α := do
  let world ← get
  match use world.tree world.here with
  | .ok value => pure value
  | .error fault => throw (.file fault)

def changeTree (change : Tree → Place → Except Files.FileFault Tree) : Action Unit := do
  let tree ← onTree change
  modify fun world => { world with tree := tree }

def ask {α : Type} (question : Tree → Place → α) : Action α := do
  let world ← get
  return question world.tree world.here

def has (path : Path) : Action Bool := ask fun tree here => tree.has here path

def hasDirectory (path : Path) : Action Bool := ask fun tree here => tree.hasDirectory here path

def hasFile (path : Path) : Action Bool := ask fun tree here => tree.hasFile here path

def read (path : Path) : Action Content := onTree fun tree here => tree.read here path

def textOf (content : Content) : Action String :=
  match content.text with
  | .ok text => pure text
  | .error fault => throw (.notText fault)

def readText (path : Path) : Action String := do textOf (← read path)

/-- Reads a text in the encoding of the world. -/
def readLocal (path : Path) : Action String := do
  match (← get).encoding.text (← read path) with
  | .ok text => pure text
  | .error fault => throw (.notText fault)

def write (path : Path) (content : Content) : Action Unit :=
  changeTree fun tree here => tree.write here path content

def writeText (path : Path) (text : String) : Action Unit := write path (.ofText text)

/-- Makes one directory where nothing is yet. -/
def makeDirectory (path : Path) : Action Unit :=
  changeTree fun tree here => tree.makeDirectory here path

def makeUnlessThere (path : Path) : Action Unit := do
  if !(← hasDirectory path) then makeDirectory path

/-- Makes a directory and those above it, of a path whose parts stand in reverse. One that is there
already stays. -/
def makeAll (slashes : Nat) : List String → Action Unit
  | [] => pure ()
  | last :: above => do
    let path : Path := ⟨slashes, (last :: above).reverse⟩
    match ← outcome (makeUnlessThere path) with
    | .ok () => pure ()
    | .error (.file ⟨.missing, _⟩) =>
      makeAll slashes above
      makeUnlessThere path
    | .error failure => throw failure

def makeDirectories (path : Path) : Action Unit := makeAll path.slashes path.parts.reverse

/-- Makes a directory that is missing and those above it that are missing, of a path whose parts
stand in reverse. That one above is there by now, as behind a double dot, is no failure, but the
last one has to be new, unless it is a single dot behind others that were made. -/
def makeMissing (slashes : Nat) : List String → Action Unit
  | [] => pure ()
  | last :: above => do
    let path : Path := ⟨slashes, (last :: above).reverse⟩
    if ← has ⟨slashes, above.reverse⟩ then makeDirectory path
    else
      match ← outcome (makeMissing slashes above) with
      | .error (.file ⟨.exists, _⟩) | .ok () => if last = "." then pure () else makeDirectory path
      | .error failure => throw failure

/-- Makes the directories above a path unless they are there. -/
def makeParents (path : Path) : Action Unit := do
  if !(← has path.parent) then makeMissing path.slashes path.parts.dropLast.reverse

/-- Takes away what is in a directory, and then the directory. A path that led through what is
gone by then leads nowhere. -/
def removeTree (path : Path) : Action Unit := do
  changeTree fun tree here => tree.clearDirectory here path
  changeTree fun tree here => tree.removeDirectory here path

def parseJson (text : String) : Action Json.Value := do
  match Json.load (← get).nesting text with
  | .ok value => pure value
  | .error problem => throw (.notJson problem)

def setting? (name : String) : Action (Option String) := do
  return (← get).environment.lookup name

/-- A setting that is not empty. -/
def given? (name : String) : Action (Option String) := do
  return (← setting? name).filter fun value => !value.isEmpty

/-- Prints a text. -/
def print (text : String) : Action Unit :=
  modify fun world => { world with output := world.output ++ text }

def printLine (text : String) : Action Unit := print (text ++ "\n")

/-- Prints a line for errors. -/
def complain (text : String) : Action Unit :=
  modify fun world => { world with errors := world.errors ++ text ++ "\n" }

/-- Asks a server for a body. -/
def request (url : String) : Action Body := do
  modify fun world => { world with requests := world.requests ++ [url] }
  match (← get).reply url with
  | .sent body => pure body
  | .failed failure => throw failure

/-- Keeps what a download reports. -/
def noteProgress (downloaded : Nat) (total : Int) : Action Unit :=
  modify fun world => { world with progress := world.progress ++ [(downloaded, total)] }

def launch (started : Launch) : Action Unit :=
  modify fun world => { world with launches := world.launches ++ [started] }

end Action

end ContractLint
