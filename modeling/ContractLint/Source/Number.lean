import ContractLint.Source.Token
import ContractLint.Text.Ranges
import ContractLint.Text.Word

/-! Number literals. -/

namespace ContractLint.Source

open ContractLint.Text (hexDigit? isWordChar)

/-- A refused number: the cause, and the text that was not yet read when it showed. -/
structure NumberFault where
  cause : Cause
  unread : List Char

def startsWord : List Char → Bool
  | c :: _ => isWordChar c
  | [] => false

/-- Passes over digits in groups that single underscores divide. An underscore that no digit
follows is refused, with the text after it. -/
def digitGroups (isDigit : Char → Bool) : List Char → Except (List Char) (List Char)
  | [] => .ok []
  | '_' :: d :: rest => if isDigit d then digitGroups isDigit rest else .error (d :: rest)
  | c :: rest =>
    if isDigit c then digitGroups isDigit rest else if c = '_' then .error rest else .ok (c :: rest)

/-- The words that may follow a number without a blank. -/
def operatorWordFollows : List Char → Bool
  | 'a' :: 'n' :: 'd' :: rest => !startsWord rest
  | 'e' :: 'l' :: 's' :: 'e' :: rest => !startsWord rest
  | 'f' :: 'o' :: 'r' :: rest => !startsWord rest
  | 'i' :: 'f' :: _ => true
  | 'i' :: 'n' :: _ => true
  | 'i' :: 's' :: _ => true
  | 'o' :: 'r' :: rest => !startsWord rest
  | _ => false

/-- A number ends where no word continues it. -/
def endNumber (kind : String) (value : Constant) (rest : List Char) :
    Except NumberFault (Constant × List Char) :=
  if operatorWordFollows rest || !startsWord rest then .ok (value, rest)
  else .error ⟨.invalidNumber kind, rest⟩

def decimalGroups (text : List Char) : Except NumberFault (List Char) :=
  match digitGroups Char.isDigit text with
  | .ok rest => .ok rest
  | .error unread => .error ⟨.invalidNumber "decimal", unread⟩

def startsDigit : List Char → Bool
  | c :: _ => c.isDigit
  | [] => false

/-- What may follow the digits of a decimal number: an exponent and the mark of an imaginary
number. -/
def scanExponent (value : Constant) (text : List Char) :
    Except NumberFault (Constant × List Char) :=
  match text with
  | [] => .ok (value, [])
  | c :: rest =>
    if c = 'e' || c = 'E' then
      match rest with
      | sign :: digits =>
        if sign = '+' || sign = '-' then
          if startsDigit digits then do
            scanSuffix .real (← decimalGroups digits)
          else .error ⟨.invalidNumber "decimal", digits⟩
        else if sign.isDigit then do
          scanSuffix .real (← decimalGroups rest)
        else endNumber "decimal" value text
      | [] => endNumber "decimal" value text
    else scanSuffix value text
where
  scanSuffix (value : Constant) (text : List Char) : Except NumberFault (Constant × List Char) :=
    match text with
    | c :: rest =>
      if c = 'j' || c = 'J' then endNumber "imaginary" .imaginary rest
      else endNumber "decimal" value text
    | [] => .ok (value, [])

/-- The part of a decimal number after its point. -/
def scanFraction (text : List Char) : Except NumberFault (Constant × List Char) := do
  if startsDigit text then scanExponent .real (← decimalGroups text)
  else scanExponent .real text

def digitsValue (base : Nat) (digits : List Char) : Nat :=
  digits.foldl (fun value c => match hexDigit? c with
    | some digit => value * base + digit
    | none => value) 0

def isOctalDigit (c : Char) : Bool := '0' ≤ c && c ≤ '7'

def isBinaryDigit (c : Char) : Bool := c = '0' || c = '1'

/-- An integer after a mark such as `0x`. -/
def scanRadix (base : Nat) (kind : String) (isDigit : Char → Bool) (text : List Char) :
    Except NumberFault (Constant × List Char) := do
  let fault (unread : List Char) : NumberFault :=
    match unread with
    | d :: rest =>
      if d.isDigit && base < 10 then ⟨.invalidDigit d kind, rest⟩ else ⟨.invalidNumber kind, unread⟩
    | [] => ⟨.invalidNumber kind, unread⟩
  match text with
  | c :: _ =>
    if isDigit c || c = '_' then
      match digitGroups isDigit text with
      | .error unread => .error (fault unread)
      | .ok rest =>
        if startsDigit rest then .error (fault rest)
        else
          let digits := text.take (text.length - rest.length)
          endNumber kind (.integer (digitsValue base digits)) rest
    else .error (fault text)
  | [] => .error (fault text)

/-- A decimal integer has at most this many digits. -/
def maximumDigits : Nat := 4300

def scanDecimal (text : List Char) : Except NumberFault (Constant × List Char) := do
  let rest ← decimalGroups text
  let digits := (text.take (text.length - rest.length)).filter Char.isDigit
  let value := digitsValue 10 digits
  match rest with
  | '.' :: fraction => scanFraction fraction
  | _ =>
    let (constant, unread) ← scanExponent (.integer value) rest
    if constant = .integer value then
      if digits.head? = some '0' && value != 0 then .error ⟨.leadingZeros, unread⟩
      else if maximumDigits < digits.length then .error ⟨.hugeNumber, unread⟩
      else .ok (constant, unread)
    else .ok (constant, unread)

/-- Reads the number that starts the text with a digit, or with a point before a digit. -/
def scanNumber (text : List Char) : Except NumberFault (Constant × List Char) :=
  match text with
  | '.' :: fraction => scanFraction fraction
  | '0' :: c :: rest =>
    if c = 'x' || c = 'X' then scanRadix 16 "hexadecimal" (fun d => (hexDigit? d).isSome) rest
    else if c = 'o' || c = 'O' then scanRadix 8 "octal" isOctalDigit rest
    else if c = 'b' || c = 'B' then scanRadix 2 "binary" isBinaryDigit rest
    else scanDecimal text
  | _ => scanDecimal text

end ContractLint.Source
