import ContractLint.Text.Blank
import ContractLint.Text.DecimalDigit

/-! Reading of whole numbers: blanks around, a sign, decimal digits of any script, and single low
lines between digits. -/

namespace ContractLint.Text

/-- Reads digits up to the end; `value` is what stands before them. -/
def readDigitsOn (value : Nat) : List Char → Option Nat
  | [] => some value
  | '_' :: c :: rest => do readDigitsOn (value * 10 + (← decimalDigit? c)) rest
  | c :: rest => do readDigitsOn (value * 10 + (← decimalDigit? c)) rest

def readNat? : List Char → Option Nat
  | [] => none
  | c :: rest => do readDigitsOn (← decimalDigit? c) rest

def readInt? (text : String) : Option Int :=
  match strip text.toList with
  | '-' :: rest => (readNat? rest).map fun value => -Int.ofNat value
  | '+' :: rest => (readNat? rest).map Int.ofNat
  | rest => (readNat? rest).map Int.ofNat

end ContractLint.Text
