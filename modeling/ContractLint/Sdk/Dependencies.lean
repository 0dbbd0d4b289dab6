import ContractLint.Entries
import ContractLint.Lint.Header
import ContractLint.Text.Search

/-! What a contract depends on, as its header says: a name and a hash for each dependency. -/

namespace ContractLint.Sdk

/-- A part up to a mark, and what follows the mark. The part is not empty. -/
def partBefore? (mark : Char) (text : List Char) : Option (List Char × List Char) :=
  let part := text.takeWhile (· != mark)
  match text.dropWhile (· != mark) with
  | _ :: rest => if part.isEmpty then none else some (part, rest)
  | [] => none

def dependsKey : List Char := "\"Depends\":".toList

/-- Reads `"Depends": "name:hash"` at the start of a text; gives what follows too. -/
def readDependency? (text : List Char) : Option ((String × String) × List Char) := do
  guard (dependsKey.isPrefixOf text)
  match (text.drop dependsKey.length).dropWhile Text.isBlank with
  | '"' :: start =>
    let (name, rest) ← partBefore? ':' start
    let (hash, rest) ← partBefore? '"' rest
    some ((String.ofList name, String.ofList hash), rest)
  | _ => none

/-- Finds the dependencies in a text from left to right; the fuel is the length of the text. -/
def findDependencies : Nat → List Char → List (String × String)
  | 0, _ => []
  | _, [] => []
  | fuel + 1, c :: rest =>
    match readDependency? (c :: rest) with
    | some (dependency, after) => dependency :: findDependencies fuel after
    | none => findDependencies fuel rest

/-- The dependencies that are written in a text. -/
def dependenciesIn (text : List Char) : List (String × String) :=
  entriesOf (findDependencies text.length text)

/-- The dependencies in the header of a contract, the comment lines at its start. -/
def headerDependencies (source : String) : List (String × String) :=
  dependenciesIn (['\n'].intercalate (Lint.headerComments source.toList))

end ContractLint.Sdk
