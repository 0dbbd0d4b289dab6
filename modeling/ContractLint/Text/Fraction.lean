import ContractLint.Json.Reader
import ContractLint.Text.Blank
import ContractLint.Text.DecimalDigit

/-! Reading of numbers that may have a fraction and an exponent: blanks around, a sign, decimal
digits of any script with single low lines between them. -/

namespace ContractLint.Text

/-- Splits digits off the start, of which there has to be one. -/
def takeDigits (done : List Nat) : List Char → List Nat × List Char
  | '_' :: c :: rest =>
    match done, decimalDigit? c with
    | _ :: _, some digit => takeDigits (digit :: done) rest
    | _, _ => (done.reverse, '_' :: c :: rest)
  | c :: rest =>
    match decimalDigit? c with
    | some digit => takeDigits (digit :: done) rest
    | none => (done.reverse, c :: rest)
  | [] => (done.reverse, [])

def digitsValue (digits : List Nat) : Nat := digits.foldl (fun value digit => value * 10 + digit) 0

/-- Splits off a sign; true when it is a minus. -/
def takeSign : List Char → Bool × List Char
  | '-' :: rest => (true, rest)
  | '+' :: rest => (false, rest)
  | text => (false, text)

/-- Reads an exponent up to the end of the text. -/
def readPower? : List Char → Option Int
  | [] => some 0
  | mark :: rest =>
    if mark = 'e' || mark = 'E' then
      let (isNegative, rest) := takeSign rest
      match takeDigits [] rest with
      | (digits@(_ :: _), []) =>
        let value := Int.ofNat (digitsValue digits)
        some (if isNegative then -value else value)
      | _ => none
    else none

/-- The words for what is no finite number. -/
def endlessWord? (word : String) : Option Float :=
  match word with
  | "inf" | "infinity" => some (1.0 / 0.0)
  | "nan" => some (0.0 / 0.0)
  | _ => none

def readMagnitude? (isNegative : Bool) (text : List Char) : Option Float :=
  let (whole, rest) := takeDigits [] text
  let (fraction, rest) := match rest with
    | '.' :: rest => takeDigits [] rest
    | _ => ([], rest)
  if whole.isEmpty && fraction.isEmpty then none
  else do
    let power ← readPower? rest
    some (Json.floatOfDecimal isNegative (digitsValue (whole ++ fraction))
      (power - Int.ofNat fraction.length))

def readFloat? (text : String) : Option Float :=
  let (isNegative, rest) := takeSign (strip text.toList)
  match endlessWord? (String.ofList (rest.map Char.toLower)) with
  | some value => some (if isNegative then -value else value)
  | none => readMagnitude? isNegative rest

end ContractLint.Text
