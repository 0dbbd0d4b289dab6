import ContractLint.Text.Search

/-! Where runners are kept. The first two characters of a hash are a directory. -/

namespace ContractLint.Runner

/-- The file of a runner, below the directory of its kind. -/
def hashPath (hash : String) : String :=
  Text.firstChars hash 2 ++ "/" ++ Text.afterChars hash 2 ++ ".tar"

/-- The path of a runner. -/
def currentPath (kind hash : String) : String := "runners/" ++ kind ++ "/" ++ hashPath hash

/-- How the path of a runner ends that comes with some executor. -/
def legacyEnding (kind hash : String) : String :=
  "/legacy-runners/" ++ kind ++ "/" ++ hashPath hash

def isCurrent (path : String) : Bool := Text.startsWith path "runners/"

def isLegacy (path : String) : Bool := Text.startsWith path "executor/"

/-- The hash of the runner at a path: its last two parts without the ending. -/
def hashOf? (path : String) : Option String :=
  match (Text.splitAt path '/').reverse with
  | file :: directory :: _ => some (directory ++ Text.withoutEnding file ".tar")
  | _ => none

/-- The path of a runner among those that are there: a current one first, then the first legacy
one. A runner that is not there is expected at its current path. -/
def choosePath (paths : List String) (kind hash : String) : String :=
  let current := currentPath kind hash
  if paths.contains current then current
  else (paths.find? fun path => isLegacy path && Text.endsWith path (legacyEnding kind hash)).getD
    current

end ContractLint.Runner
