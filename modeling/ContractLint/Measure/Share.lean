import ContractLint.Measure.Coverage

/-! The share of its time that each workload spends in the code it measures. -/

namespace ContractLint.Measure

open Json (Value)

/-- Shares in percent, by workload. A share below zero stands for a workload that failed. -/
abbrev Shares := List (String × Float)

/-- Shares below this one, in percent, are too low. -/
def leastShare : Float := 45.0

def isMeasured (share : Float) : Bool := 0.0 ≤ share

def isLow (share : Float) : Bool := isMeasured share && share < leastShare

def Shares.countLow (shares : Shares) : Nat := shares.countP fun (_, share) => isLow share

def shareLine (name : String) (share : Float) : String :=
  "  " ++ (if isLow share then "*" else " ") ++ " " ++ Text.padEnd name 32 ++ " " ++
    Text.padStart (Decimal.fixedText share 1) 5 ++ "%"

/-- The lowest share comes first. -/
def Shares.ordered (shares : Shares) : Shares := shares.mergeSort fun a b => a.2 ≤ b.2

def Shares.lines (shares : Shares) : List String :=
  if shares.isEmpty then []
  else ["", "repo_time (target 50%; * = below 45%):"] ++
    shares.ordered.map fun (name, share) => shareLine name share

end ContractLint.Measure
