import ContractLint.Decimal.Shortest

/-! Numbers with a fixed count of decimal places. A half goes to the even neighbour. -/

namespace ContractLint.Decimal

/-- The whole number next to a fraction. -/
def Ratio.nearest (value : Ratio) : Nat :=
  let whole := value.numerator / value.denominator
  let twice := 2 * (value.numerator % value.denominator)
  if twice < value.denominator then whole
  else if value.denominator < twice then whole + 1
  else if whole % 2 = 0 then whole else whole + 1

/-- The fraction in units of the last decimal place. -/
def Ratio.inPlaces (value : Ratio) (places : Nat) : Nat :=
  Ratio.nearest ⟨value.numerator * Nat.pow 10 places, value.denominator⟩

/-- A count of units of the last decimal place, as text. -/
def placesText (places units : Nat) : String :=
  if places = 0 then toString units
  else
    let fraction := toString (units % Nat.pow 10 places)
    toString (units / Nat.pow 10 places) ++ "." ++
      String.ofList (List.replicate (places - fraction.length) '0') ++ fraction

def Ratio.fixed (value : Ratio) (places : Nat) : String :=
  placesText places (value.inPlaces places)

/-- The fraction that a number of double precision is; none for what is no finite number. -/
def magnitude (value : Float) : Ratio :=
  match Double.ofFloat value with
  | .finite _ binary => binary.ratio
  | _ => ⟨0, 1⟩

/-- A number with a fixed count of places. A minus stays even when only zeros are left. -/
def fixedText (value : Float) (places : Nat) : String :=
  match Double.ofFloat value with
  | .notANumber => "nan"
  | .infinite isNegative => if isNegative then "-inf" else "inf"
  | .finite isNegative binary => (if isNegative then "-" else "") ++ binary.ratio.fixed places

end ContractLint.Decimal
