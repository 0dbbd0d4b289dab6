import ContractLint.Sample.Sdk
import ContractLint.World.Basic

/-! Workloads: jobs of any size over samples. What comes out of a job shows that its work was done.
-/

namespace ContractLint.Workload

open Files (Content Path)

/-- A job: what has to be there for it, and the job itself. Both know the size. -/
structure Job (α : Type) where
  prepare : Nat → Action Unit := fun _ => pure ()
  run : Nat → Action α

def total (counts : List Nat) : Nat := counts.foldl (· + ·) 0

/-- Writes a file and makes the directories on the way. -/
def place (path : Path) (content : Content) : Action Unit := do
  Action.makeDirectories path.parent
  Action.write path content

def placeText (path : Path) (text : String) : Action Unit := place path (.ofText text)

/-- Does something with settings in place of those that there are. -/
def withSettings {α : Type} (settings : List (String × String)) (act : Action α) : Action α := do
  let before := (← get).environment
  modify fun world => { world with environment := settings }
  let result ← act.outcome
  modify fun world => { world with environment := before }
  match result with
  | .ok value => return value
  | .error failure => throw failure

/-- Does something while servers answer as given. -/
def withReplies {α : Type} (replies : List (String × Reply)) (act : Action α) : Action α := do
  let before := (← get).replies
  modify fun world => { world with replies := replies }
  let result ← act.outcome
  modify fun world => { world with replies := before }
  match result with
  | .ok value => return value
  | .error failure => throw failure

/-- Where workloads keep their files. -/
def directory : Path := .ofText "work"

/-- A file of a workload. -/
def file (name : String) : Path := directory.child name

/-- A tree of files that holds runners. -/
def placeTree (root : Path) (runners : List Sample.SampleRunner) : Action Unit := do
  placeText ((root.child "bin").child "genvm-modules") ""
  runners.forM fun runner => place (root.child runner.path) (.archive false runner.members)

/-- Takes away what the cache holds. -/
def emptyCache : Action Unit := do
  let cache := (← get).cache
  if ← Action.has cache then Action.removeTree cache

end ContractLint.Workload
