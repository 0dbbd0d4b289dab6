import ContractLint.Measure.Number
import ContractLint.Measure.Plateau
import ContractLint.Text.Lines

/-! The record of the rounds so far: one object a line. -/

namespace ContractLint.Measure

open Json (Value)

def countOf? : Value → Option Count
  | .int value => some (.number value)
  | .bool value => some (.truth value)
  | _ => none

/-- The counts of workloads with a low share, of the rounds that have one. -/
def countsBelow (entries : List Value) : List Count :=
  entries.filterMap fun entry => (entry.field? "n_below_repo_time").bind countOf?

/-- The time from one moment to another, in hundredths of a second. Whole seconds stay whole. -/
def elapsed (before now : Value) : Value :=
  match before, now with
  | .int before, .int now => .int (now - before)
  | before, now =>
    match realOf before, realOf now with
    | .ok before, .ok now => .float (rounded (now - before) 2)
    | _, _ => .float 0.0

def sinceLast (last : Option Value) (now : Value) : Value :=
  match last.bind (·.field? "ts") with
  | some before => elapsed before now
  | none => .float 0.0

end ContractLint.Measure
