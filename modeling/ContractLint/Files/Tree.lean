import ContractLint.Files.Content
import ContractLint.Files.Path
import ContractLint.Text.Quote
import ContractLint.Text.Wildcard

/-! A tree of files and directories, as a list of places with what is there. -/

namespace ContractLint.Files

/-- Where something is: the names from the root on. -/
abbrev Place := List String

/-- One step from a place: a double dot leads up, a single dot nowhere, any other part down. -/
def step (place : Place) (part : String) : Place :=
  if part = ".." then place.dropLast else if part = "." then place else place ++ [part]

/-- Where parts lead from a place, whatever is there. -/
def lead (place : Place) (parts : List String) : Place := parts.foldl step place

/-- Where the parts of a path start, seen from a directory. -/
def Path.start (path : Path) (here : Place) : Place := if path.isAbsolute then [] else here

inductive Entry
  | directory
  | file (content : Content)
deriving Inhabited

def Entry.isDirectory : Entry → Bool
  | .directory => true
  | .file _ => false

structure Tree where
  entries : List (Place × Entry) := []
deriving Inhabited

/-- What keeps a path from being used. -/
inductive Obstacle
  | missing
  | exists
  | notDirectory
  | isDirectory
deriving Repr, DecidableEq

def Obstacle.text : Obstacle → String
  | .missing => "[Errno 2] No such file or directory"
  | .exists => "[Errno 17] File exists"
  | .notDirectory => "[Errno 20] Not a directory"
  | .isDirectory => "[Errno 21] Is a directory"

structure FileFault where
  obstacle : Obstacle
  path : String
deriving Repr, DecidableEq

def FileFault.message (fault : FileFault) : String :=
  fault.obstacle.text ++ ": " ++ Text.quote fault.path

namespace Tree

/-- What is at a place. The root is always a directory. -/
def at? (tree : Tree) (place : Place) : Option Entry :=
  if place = [] then some .directory else tree.entries.lookup place

/-- Puts an entry at a place. -/
def put (tree : Tree) (place : Place) (entry : Entry) : Tree :=
  if (tree.at? place).isSome then
    ⟨tree.entries.map fun (other, old) => if other = place then (place, entry) else (other, old)⟩
  else ⟨tree.entries ++ [(place, entry)]⟩

/-- Takes away a place and all below it. -/
def remove (tree : Tree) (place : Place) : Tree :=
  ⟨tree.entries.filter fun (other, _) => !place.isPrefixOf other⟩

/-- Takes away all that is below a place. -/
def clear (tree : Tree) (place : Place) : Tree :=
  ⟨tree.entries.filter fun (other, _) => !place.isPrefixOf other || other = place⟩

/-- The entries below a place. -/
def below (tree : Tree) (place : Place) : List (Place × Entry) :=
  tree.entries.filter fun (other, _) => place.isPrefixOf other && other != place

/-- The entries right in a directory, by their names. -/
def children (tree : Tree) (place : Place) : List (String × Entry) :=
  tree.entries.filterMap fun (other, entry) =>
    match other.getLast? with
    | some name => if other.dropLast = place then some (name, entry) else none
    | none => none

/-- Follows the parts of a path. All but the last one have to be directories that are there. -/
def follow (tree : Tree) (place : Place) : List String → Except Obstacle Place
  | [] => .ok place
  | part :: parts =>
    match tree.at? place with
    | none => .error .missing
    | some (.file _) => .error .notDirectory
    | some .directory => tree.follow (step place part) parts

/-- The place that a path leads to, seen from a directory. -/
def resolve (tree : Tree) (here : Place) (path : Path) : Except Obstacle Place :=
  tree.follow (path.start here) path.parts

/-- What a path leads to. -/
def find? (tree : Tree) (here : Place) (path : Path) : Option Entry :=
  match tree.resolve here path with
  | .ok place => tree.at? place
  | .error _ => none

def has (tree : Tree) (here : Place) (path : Path) : Bool := (tree.find? here path).isSome

def hasDirectory (tree : Tree) (here : Place) (path : Path) : Bool :=
  match tree.find? here path with
  | some .directory => true
  | _ => false

def hasFile (tree : Tree) (here : Place) (path : Path) : Bool :=
  match tree.find? here path with
  | some (.file _) => true
  | _ => false

/-- Refuses a path because of an obstacle. -/
def refuse {α : Type} (path : Path) (obstacle : Obstacle) : Except FileFault α :=
  .error ⟨obstacle, path.text⟩

def locate (tree : Tree) (here : Place) (path : Path) : Except FileFault Place :=
  match tree.resolve here path with
  | .ok place => .ok place
  | .error obstacle => refuse path obstacle

def read (tree : Tree) (here : Place) (path : Path) : Except FileFault Content := do
  let place ← tree.locate here path
  match tree.at? place with
  | some (.file content) => return content
  | some .directory => refuse path .isDirectory
  | none => refuse path .missing

/-- Writes a file. Its directory has to be there. -/
def write (tree : Tree) (here : Place) (path : Path) (content : Content) :
    Except FileFault Tree := do
  let place ← tree.locate here path
  match tree.at? place with
  | some .directory => refuse path .isDirectory
  | some (.file _) => return tree.put place (.file content)
  | none =>
    match tree.at? place.dropLast with
    | some .directory => return tree.put place (.file content)
    | some (.file _) => refuse path .notDirectory
    | none => refuse path .missing

/-- Makes one directory where nothing is yet. -/
def makeDirectory (tree : Tree) (here : Place) (path : Path) : Except FileFault Tree := do
  let place ← tree.locate here path
  match tree.at? place, tree.at? place.dropLast with
  | some _, _ => refuse path .exists
  | none, some .directory => return tree.put place .directory
  | none, _ => refuse path .missing

/-- The place of a directory that is there. -/
def locateDirectory (tree : Tree) (here : Place) (path : Path) : Except FileFault Place := do
  let place ← tree.locate here path
  match tree.at? place with
  | some .directory => return place
  | some (.file _) => refuse path .notDirectory
  | none => refuse path .missing

/-- Takes away all that is in a directory. -/
def clearDirectory (tree : Tree) (here : Place) (path : Path) : Except FileFault Tree := do
  return tree.clear (← tree.locateDirectory here path)

/-- Takes away a directory. -/
def removeDirectory (tree : Tree) (here : Place) (path : Path) : Except FileFault Tree := do
  return tree.remove (← tree.locateDirectory here path)

/-- The names in a directory that fit a pattern. -/
def namesLike (tree : Tree) (place : Place) (pattern : String) : List String :=
  ((tree.children place).map (·.1)).filter (Text.matchesPattern pattern)

/-- The names of the directories in a directory. -/
def directoriesIn (tree : Tree) (place : Place) : List String :=
  (tree.children place).filterMap fun (name, entry) =>
    if entry.isDirectory then some name else none

/-- A name for a new file in a directory. -/
def freshName (tree : Tree) (place : Place) : String :=
  let names := (tree.children place).map (·.1)
  let candidates := (List.range (names.length + 1)).map fun index => "tmp" ++ toString index
  (candidates.find? fun name => !names.contains name).getD "tmp"

end Tree

end ContractLint.Files
