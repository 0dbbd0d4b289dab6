import ContractLint.Decimal.Fixed
import ContractLint.Text.Fraction
import ContractLint.Text.Integer
import ContractLint.World.Failure

/-! Numbers in measurements. A number may also be given as a text. -/

namespace ContractLint.Measure

open Json (Value)

def realOf : Value → Except Failure Float
  | .float value => .ok value
  | .int value => .ok (Float.ofInt value)
  | .bool value => .ok (if value then 1.0 else 0.0)
  | .string text =>
    match Text.readFloat? text with
    | some value => .ok value
    | none => .error (.notNumber text)
  | other => .error (.noNumber other.kind)

/-- The number with some decimal places that is nearest to a number. -/
def rounded (value : Float) (places : Nat) : Float :=
  match Decimal.Double.ofFloat value with
  | .finite isNegative binary =>
    Json.floatOfDecimal isNegative (binary.ratio.inPlaces places) (-Int.ofNat places)
  | _ => value

def sortedReals (values : List Float) : List Float := values.mergeSort fun a b => a ≤ b

/-- The value in the middle, or half-way between the two there. -/
def median? (values : List Float) : Option Float :=
  let ordered := sortedReals values
  let half := ordered.length / 2
  if ordered.length % 2 = 1 then ordered[half]?
  else
    match ordered[half - 1]?, ordered[half]? with
    | some low, some high => some ((low + high) / 2.0)
    | _, _ => none

def least? (values : List Float) : Option Float := (sortedReals values).head?

end ContractLint.Measure
