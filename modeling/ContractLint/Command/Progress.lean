import ContractLint.Decimal.Fixed
import ContractLint.Release.Download

/-! How far a download is, on one line that is written again and again. -/

namespace ContractLint.Command

open Release (Progress)

/-- Bytes in units of 2^20, with one decimal place. -/
def megabytes (bytes : Nat) : String :=
  let value := Decimal.magnitude (Float.ofNat bytes)
  Decimal.Ratio.fixed ⟨value.numerator, value.denominator * Nat.pow 2 20⟩ 1

/-- How much of the total is there, in percent and at most all of it. -/
def percent (downloaded total : Nat) : Nat := min 100 (downloaded * 100 / total)

/-- Says something about progress as long as the total is known. -/
def whenKnown (line : Nat → Nat → String) : Progress := fun downloaded total =>
  if 0 < total then Action.print ("\r" ++ line downloaded total.toNat) else pure ()

def sizeLine (start : String) (downloaded total : Nat) : String :=
  start ++ megabytes downloaded ++ "/" ++ megabytes total ++ " MB (" ++
    toString (percent downloaded total) ++ "%)"

def sizeProgress (start : String) : Progress := whenKnown (sizeLine start)

def percentProgress (start : String) : Progress :=
  whenKnown fun downloaded total => start ++ toString (percent downloaded total) ++ "%"

end ContractLint.Command
