/-! The shortest decimal digits that read back as a binary floating-point number. -/

namespace ContractLint.Decimal

/-- The number `mantissa * 2 ^ exponent`. -/
structure Binary where
  mantissa : Nat
  exponent : Int
deriving Repr, DecidableEq

/-- A double-precision number by its parts. -/
inductive Double
  | notANumber
  | infinite (isNegative : Bool)
  | finite (isNegative : Bool) (magnitude : Binary)
deriving Repr, DecidableEq

def fractionBits : Nat := 52

/-- Reads the parts of a double-precision number off its 64 bits. -/
def Double.ofBits (bits : Nat) : Double :=
  let fraction := bits % Nat.pow 2 fractionBits
  let scale := bits / Nat.pow 2 fractionBits % Nat.pow 2 11
  let isNegative := bits / Nat.pow 2 63 % 2 = 1
  if scale = 2047 then if fraction = 0 then .infinite isNegative else .notANumber
  else if scale = 0 then .finite isNegative ⟨fraction, -1074⟩
  else .finite isNegative ⟨Nat.pow 2 fractionBits + fraction, Int.ofNat scale - 1075⟩

def Double.ofFloat (value : Float) : Double := .ofBits value.toBits.toNat

/-- A non-negative fraction. -/
structure Ratio where
  numerator : Nat
  denominator : Nat
deriving Repr, DecidableEq

def Ratio.le (first second : Ratio) : Bool :=
  first.numerator * second.denominator ≤ second.numerator * first.denominator

def Ratio.lt (first second : Ratio) : Bool :=
  first.numerator * second.denominator < second.numerator * first.denominator

/-- `value * base ^ exponent`. -/
def scaled (base value : Nat) (exponent : Int) : Ratio :=
  match exponent with
  | .ofNat n => ⟨value * base.pow n, 1⟩
  | .negSucc n => ⟨value, base.pow (n + 1)⟩

def Binary.ratio (number : Binary) : Ratio := scaled 2 number.mantissa number.exponent

/-- The numbers that round to a binary number lie between these two, which themselves do so when
the mantissa is even. Below a power of two the numbers lie twice as close. -/
def Binary.bounds (number : Binary) : Ratio × Ratio :=
  let upper := scaled 2 (2 * number.mantissa + 1) (number.exponent - 1)
  let lower :=
    if number.mantissa = Nat.pow 2 fractionBits && -1074 < number.exponent then
      scaled 2 (4 * number.mantissa - 1) (number.exponent - 2)
    else scaled 2 (2 * number.mantissa - 1) (number.exponent - 1)
  (lower, upper)

def Binary.accepts (number : Binary) (candidate : Ratio) : Bool :=
  let (lower, upper) := number.bounds
  if number.mantissa % 2 = 0 then lower.le candidate && candidate.le upper
  else lower.lt candidate && candidate.lt upper

/-- Decimal digits as a number, with the power of ten that they count. -/
structure Digits where
  value : Nat
  exponent : Int
deriving Repr, DecidableEq

def Digits.ratio (digits : Digits) : Ratio := scaled 10 digits.value digits.exponent

/-- The exponent of the leading digit of a fraction that is not zero: searched for from an estimate
that is too high. -/
def leadingExponent (value : Ratio) : Nat → Int → Int
  | 0, guess => guess
  | fuel + 1, guess =>
    if (scaled 10 1 guess).le value then guess else leadingExponent value fuel (guess - 1)

/-- The distance of two fractions over the product of their denominators. -/
def distance (first second : Ratio) : Nat :=
  let a := first.numerator * second.denominator
  let b := second.numerator * first.denominator
  if a ≤ b then b - a else a - b

/-- The digits nearest below and above a value on the grid of a power of ten, those that read back
as the number; the nearer one first. -/
def candidatesAt (number : Binary) (exponent : Int) : List Digits :=
  let value := number.ratio
  let unit := scaled 10 1 exponent
  let below := value.numerator * unit.denominator / (value.denominator * unit.numerator)
  let low : Digits := ⟨below, exponent⟩
  let high : Digits := ⟨below + 1, exponent⟩
  let lowDistance := distance low.ratio value * high.ratio.denominator
  let highDistance := distance high.ratio value * low.ratio.denominator
  let ordered :=
    if lowDistance < highDistance then [low, high]
    else if highDistance < lowDistance then [high, low]
    else if below % 2 = 0 then [low, high] else [high, low]
  ordered.filter fun digits => number.accepts digits.ratio

/-- Tries grids from the coarsest on. -/
def shortestFrom (number : Binary) : Nat → Int → Digits
  | 0, exponent => (candidatesAt number exponent).headD ⟨0, 0⟩
  | fuel + 1, exponent =>
    match candidatesAt number exponent with
    | digits :: _ => digits
    | [] => shortestFrom number fuel (exponent - 1)

/-- Drops zeros at the end of the digits. -/
def Digits.trim : Nat → Digits → Digits
  | 0, digits => digits
  | fuel + 1, digits =>
    if digits.value != 0 && digits.value % 10 = 0 then
      trim fuel ⟨digits.value / 10, digits.exponent + 1⟩
    else digits

/-- The shortest digits that read back as a number, and the nearest to it of those. -/
def Binary.shortest (number : Binary) : Digits :=
  if number.mantissa = 0 then ⟨0, 0⟩
  else
    let leading := leadingExponent number.ratio 700 309
    (shortestFrom number 17 leading).trim 20

/-- How numbers with a fraction are written: which exponents of the leading digit are written
without an exponent. -/
structure Format where
  lowest : Int
  highest : Int

def digitText (value : Nat) : List Char := Nat.toDigits 10 value

/-- The digits with a point after `places` of them, zeros filling the gaps. -/
def positional (digits : List Char) (places : Int) : List Char :=
  match places with
  | .ofNat n =>
    if n = 0 then '0' :: '.' :: digits
    else if digits.length ≤ n then
      digits ++ List.replicate (n - digits.length) '0' ++ ['.', '0']
    else digits.take n ++ '.' :: digits.drop n
  | .negSucc n => '0' :: '.' :: List.replicate (n + 1) '0' ++ digits

/-- One digit before the point, and an exponent with a sign and at least two digits. -/
def scientific (digits : List Char) (exponent : Int) : List Char :=
  let mantissa := match digits with
    | [] => []
    | first :: rest => if rest.isEmpty then [first] else first :: '.' :: rest
  let sign := if exponent < 0 then '-' else '+'
  let power := digitText exponent.natAbs
  let padded := if power.length < 2 then '0' :: power else power
  mantissa ++ 'e' :: sign :: padded

def Digits.text (digits : Digits) (format : Format) : List Char :=
  let text := digitText digits.value
  if digits.value = 0 then ['0', '.', '0']
  else
    let leading := digits.exponent + Int.ofNat text.length - 1
    if format.lowest ≤ leading && leading ≤ format.highest then positional text (leading + 1)
    else scientific text leading

end ContractLint.Decimal
