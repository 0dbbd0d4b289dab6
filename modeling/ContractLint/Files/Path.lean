import ContractLint.Text.Search

/-! Paths. Empty parts and single dots are dropped, double dots stay. -/

namespace ContractLint.Files

/-- A path by its parts. An absolute path has one root slash; two are kept, more count as one. -/
structure Path where
  slashes : Nat
  parts : List String
deriving Repr, DecidableEq, Inhabited

namespace Path

/-- The path of these parts from the root. -/
def ofRoot (parts : List String) : Path := ⟨1, parts⟩

def isAbsolute (path : Path) : Bool := path.slashes != 0

def ofText (text : String) : Path :=
  let leading := (text.toList.takeWhile (· = '/')).length
  let slashes := if leading = 2 then 2 else if leading = 0 then 0 else 1
  ⟨slashes, (Text.splitAt text '/').filter fun part => part != "" && part != "."⟩

def text (path : Path) : String :=
  let written := String.ofList (List.replicate path.slashes '/') ++ Text.joinWith "/" path.parts
  if written.isEmpty then "." else written

/-- Goes on from a path; an absolute path starts anew. -/
def join (path next : Path) : Path :=
  if next.isAbsolute then next else ⟨path.slashes, path.parts ++ next.parts⟩

def child (path : Path) (name : String) : Path := path.join (ofText name)

/-- The last part. -/
def name (path : Path) : String := path.parts.getLast?.getD ""

def withName (path : Path) (name : String) : Path := ⟨path.slashes, path.parts.dropLast ++ [name]⟩

def parent (path : Path) : Path := ⟨path.slashes, path.parts.dropLast⟩

/-- The name without what follows its last dot. A dot at either end does not count. -/
def stem (path : Path) : String :=
  let reversed := path.name.toList.reverse
  match reversed.dropWhile (· != '.') with
  | _ :: before =>
    if before.isEmpty || reversed.head? = some '.' then path.name
    else String.ofList before.reverse
  | [] => path.name

end Path

end ContractLint.Files
