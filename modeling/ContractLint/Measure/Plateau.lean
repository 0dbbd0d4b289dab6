/-! Whether a count still falls from round to round. -/

namespace ContractLint.Measure

/-- A count as a record has it. A truth value stands for one or zero. -/
inductive Count
  | number (value : Int)
  | truth (value : Bool)
deriving Repr, DecidableEq

def Count.value : Count → Int
  | .number value => value
  | .truth value => if value then 1 else 0

def Count.text : Count → String
  | .number value => toString value
  | .truth value => if value then "True" else "False"

/-- The least count so far, and how many rounds have passed since it was first reached. -/
structure Plateau where
  best : Count
  since : Nat
deriving Repr, DecidableEq

/-- Only a count below the best one is an improvement. -/
def Plateau.next (plateau : Plateau) (count : Count) : Plateau :=
  if count.value < plateau.best.value then ⟨count, 0⟩ else ⟨plateau.best, plateau.since + 1⟩

/-- The state after the counts of all rounds, the first round's first. -/
def plateau? : List Count → Option Plateau
  | [] => none
  | first :: rest => some (rest.foldl Plateau.next ⟨first, 0⟩)

/-- Why no further round is needed. -/
inductive Settled
  | nothingBelow
  | noImprovement (plateau : Plateau)
deriving Repr, DecidableEq

/-- So many rounds without an improvement are enough. -/
def patience : Nat := 3

/-- Judges this round's count after those of earlier rounds. -/
def settled? (earlier : List Count) (count : Nat) : Option Settled :=
  if count = 0 then some .nothingBelow
  else
    match plateau? (earlier ++ [.number count]) with
    | some plateau => if patience ≤ plateau.since then some (.noImprovement plateau) else none
    | none => none

def Settled.text : Settled → String
  | .nothingBelow => "0 below"
  | .noImprovement plateau =>
    "no improvement in " ++ toString plateau.since ++ " rounds; best " ++ plateau.best.text ++
      " below"

end ContractLint.Measure
