import ContractLint.Json.Value
import ContractLint.Text.Ranges

/-! Reading of JSON text. A name that comes twice in an object keeps its first place and gets its
last value. What is read can be limited: the digits of a whole number, and how deep arrays and
objects stand in each other. -/

namespace ContractLint.Json

open Text (hexDigit?)

/-- Why a text is not JSON, and how many of its characters were still unread there. -/
inductive Problem
  | expectingValue
  | expectingName
  | expectingColon
  | expectingComma
  | unterminatedString
  | controlCharacter
  | badEscape
  | badUnit
  | extraData
  | byteOrderMark
  | tooManyDigits (limit count : Nat)
  | tooDeep (kind : String)
deriving Repr, DecidableEq

/-- The text is asking for too much; it may be JSON all the same. -/
def Problem.isLimit : Problem → Bool
  | .tooManyDigits _ _ => true
  | .tooDeep _ => true
  | _ => false

def Problem.text : Problem → String
  | .expectingValue => "Expecting value"
  | .expectingName => "Expecting property name enclosed in double quotes"
  | .expectingColon => "Expecting ':' delimiter"
  | .expectingComma => "Expecting ',' delimiter"
  | .unterminatedString => "Unterminated string starting at"
  | .controlCharacter => "Invalid control character at"
  | .badEscape => "Invalid \\escape"
  | .badUnit => "Invalid \\uXXXX escape"
  | .extraData => "Extra data"
  | .byteOrderMark => "Unexpected UTF-8 BOM (decode using utf-8-sig)"
  | .tooManyDigits limit count =>
    "Exceeds the limit (" ++ toString limit ++ " digits) for integer string conversion: value " ++
      "has " ++ toString count ++ " digits; use sys.set_int_max_str_digits() to increase the limit"
  | .tooDeep kind =>
    "maximum recursion depth exceeded while decoding a JSON " ++ kind ++ " from a unicode string"

structure Failure where
  problem : Problem
  unread : Nat
deriving Repr, DecidableEq

def failAt {α : Type} (problem : Problem) (text : List Char) : Except Failure α :=
  .error ⟨problem, text.length⟩

def isSpace (c : Char) : Bool := c = ' ' || c = '\t' || c = '\n' || c = '\r'

def skipSpaces (text : List Char) : List Char := text.dropWhile isSpace

/-- Reads four hexadecimal digits. -/
def readUnit : List Char → Option (Nat × List Char)
  | a :: b :: c :: d :: rest => do
    let a ← hexDigit? a
    let b ← hexDigit? b
    let c ← hexDigit? c
    let d ← hexDigit? d
    pure (((a * 16 + b) * 16 + c) * 16 + d, rest)
  | _ => none

def isHighUnit (unit : Nat) : Bool := 0xD800 ≤ unit && unit < 0xDC00

def isLowUnit (unit : Nat) : Bool := 0xDC00 ≤ unit && unit < 0xE000

/-- The character of one unit; a unit of a pair without its partner is no character. -/
def charOfUnit (unit : Nat) : Char :=
  if isHighUnit unit || isLowUnit unit then '\ufffd' else Char.ofNat unit

/-- Reads what follows the letter of a unit escape: one unit, or the two of a pair. -/
def readUnits (text : List Char) : Option (Char × List Char) := do
  let (unit, rest) ← readUnit text
  if isHighUnit unit then
    match rest with
    | '\\' :: 'u' :: more =>
      match readUnit more with
      | some (low, rest) =>
        if isLowUnit low then
          pure (Char.ofNat (0x10000 + (unit - 0xD800) * 1024 + (low - 0xDC00)), rest)
        else pure (charOfUnit unit, '\\' :: 'u' :: more)
      | none => pure (charOfUnit unit, '\\' :: 'u' :: more)
    | _ => pure (charOfUnit unit, rest)
  else pure (charOfUnit unit, rest)

def simpleEscape? : Char → Option Char
  | '"' => some '"'
  | '\\' => some '\\'
  | '/' => some '/'
  | 'b' => some '\x08'
  | 'f' => some '\x0c'
  | 'n' => some '\n'
  | 'r' => some '\r'
  | 't' => some '\t'
  | _ => none

/-- Reads the rest of a string. `start` is the text after its opening quote. -/
def readStringFrom (start : List Char) :
    Nat → List Char → List Char → Except Failure (String × List Char)
  | 0, _, _ => .error ⟨.unterminatedString, start.length + 1⟩
  | fuel + 1, done, text =>
    match text with
    | [] => .error ⟨.unterminatedString, start.length + 1⟩
    | '"' :: rest => .ok (String.ofList done.reverse, rest)
    | '\\' :: [] => .error ⟨.unterminatedString, start.length + 1⟩
    | '\\' :: 'u' :: rest =>
      match readUnits rest with
      | some (c, rest) => readStringFrom start fuel (c :: done) rest
      | none => failAt .badUnit ('u' :: rest)
    | '\\' :: mark :: rest =>
      match simpleEscape? mark with
      | some c => readStringFrom start fuel (c :: done) rest
      | none => failAt .badEscape text
    | c :: rest =>
      if c.toNat < 32 then failAt .controlCharacter text
      else readStringFrom start fuel (c :: done) rest

/-- Reads a string whose opening quote has been read; `fuel` bounds its length. -/
def readString (fuel : Nat) (text : List Char) : Except Failure (String × List Char) :=
  readStringFrom text fuel [] text

/-- Digits as a number. -/
def natOfDigits (digits : List Char) : Nat :=
  digits.foldl (fun value c => value * 10 + (c.toNat - '0'.toNat)) 0

/-- Splits off the fraction of a number, without its point. -/
def readFraction : List Char → List Char × List Char
  | '.' :: rest =>
    let digits := rest.takeWhile Char.isDigit
    if digits.isEmpty then ([], '.' :: rest) else (digits, rest.dropWhile Char.isDigit)
  | text => ([], text)

/-- Splits off the exponent of a number. -/
def readExponent (text : List Char) : Option Int × List Char :=
  match text with
  | mark :: rest =>
    if mark = 'e' || mark = 'E' then
      let (isNegative, digits) := match rest with
        | '+' :: more => (false, more)
        | '-' :: more => (true, more)
        | _ => (false, rest)
      let power := digits.takeWhile Char.isDigit
      if power.isEmpty then (none, text)
      else
        let value := Int.ofNat (natOfDigits power)
        (some (if isNegative then -value else value), digits.dropWhile Char.isDigit)
    else (none, text)
  | [] => (none, text)

/-- `mantissa * 10 ^ exponent` as the nearest floating-point number. -/
def floatOfDecimal (isNegative : Bool) (mantissa : Nat) (exponent : Int) : Float :=
  let value := match exponent with
    | .ofNat n =>
      if mantissa = 0 then 0.0
      else if 400 < n then 1.0 / 0.0
      else Float.ofScientific mantissa false n
    | .negSucc n =>
      if 400 + (Nat.toDigits 10 mantissa).length < n then 0.0
      else Float.ofScientific mantissa true (n + 1)
  if isNegative then -value else value

/-- The digits that a number starts with. A zero stands alone. -/
def wholeDigits : List Char → List Char
  | '0' :: _ => ['0']
  | text => text.takeWhile Char.isDigit

/-- Reads the digits of a number; the sign has been read. -/
def readNumber (isNegative : Bool) (text : List Char) : Option (Value × List Char) :=
  let digits := wholeDigits text
  if digits.isEmpty then none
  else
    let rest := text.drop digits.length
    let (fraction, rest) := readFraction rest
    let (exponent, rest) := readExponent rest
    let mantissa := natOfDigits (digits ++ fraction)
    if fraction.isEmpty && exponent.isNone then
      let value := Int.ofNat mantissa
      some (.int (if isNegative then -value else value), rest)
    else
      let power := exponent.getD 0 - Int.ofNat fraction.length
      some (.float (floatOfDecimal isNegative mantissa power), rest)

/-- The words that are values. -/
def wordValues : List (List Char × Value) :=
  [("null".toList, .null), ("true".toList, .bool true), ("false".toList, .bool false),
    ("NaN".toList, .float (0.0 / 0.0)), ("Infinity".toList, .float (1.0 / 0.0)),
    ("-Infinity".toList, .float (-1.0 / 0.0))]

def readWord (text : List Char) : Option (Value × List Char) :=
  (wordValues.find? fun (word, _) => word.isPrefixOf text).map fun (word, value) =>
    (value, text.drop word.length)

/-- Reads a number with its sign. -/
def readSigned : List Char → Option (Value × List Char)
  | '-' :: rest => readNumber true rest
  | text => readNumber false text

/-- How much a text may ask for. -/
structure Limits where
  digits : Option Nat := none
  nesting : Option Nat := none
deriving Repr, DecidableEq

/-- The limits inside an array or an object. There are none where it may not stand itself. -/
def Limits.inner? (limits : Limits) : Option Limits :=
  match limits.nesting with
  | none => some limits
  | some 0 => none
  | some (nesting + 1) => some ⟨limits.digits, some nesting⟩

/-- Only whole numbers can have too many digits. -/
def Limits.take (limits : Limits) (text : List Char) (outcome : Value × List Char) :
    Except Failure (Value × List Char) :=
  match outcome.1, limits.digits with
  | .int value, some limit =>
    let count := (Nat.toDigits 10 value.natAbs).length
    if limit < count then failAt (.tooManyDigits limit count) text else .ok outcome
  | _, _ => .ok outcome

/-- A value that has no parts of JSON inside. -/
def readScalar (limits : Limits) (text : List Char) : Except Failure (Value × List Char) :=
  match (readWord text).or (readSigned text) with
  | some outcome => limits.take text outcome
  | none => failAt .expectingValue text

mutual

/-- Reads a value; `fuel` bounds its depth and the length of each of its parts. -/
def readValue (limits : Limits) : Nat → List Char → Except Failure (Value × List Char)
  | 0, text => failAt .expectingValue text
  | fuel + 1, text =>
    match text with
    | '"' :: rest => do
      let (value, rest) ← readString fuel rest
      pure (.string value, rest)
    | '[' :: rest =>
      match limits.inner? with
      | none => failAt (.tooDeep "array") text
      | some inner =>
        match skipSpaces rest with
        | ']' :: rest => .ok (.array [], rest)
        | rest => readItems inner fuel [] rest
    | '\x7b' :: rest =>
      match limits.inner? with
      | none => failAt (.tooDeep "object") text
      | some inner =>
        match skipSpaces rest with
        | '\x7d' :: rest => .ok (.object [], rest)
        | rest => readFields inner fuel [] rest
    | _ => readScalar limits text

/-- Reads the items of an array, at least one. -/
def readItems (limits : Limits) :
    Nat → List Value → List Char → Except Failure (Value × List Char)
  | 0, _, text => failAt .expectingValue text
  | fuel + 1, done, text => do
    let (item, rest) ← readValue limits fuel text
    match skipSpaces rest with
    | ',' :: rest => readItems limits fuel (item :: done) (skipSpaces rest)
    | ']' :: rest => pure (.array (item :: done).reverse, rest)
    | rest => failAt .expectingComma rest

/-- Reads the fields of an object, at least one. -/
def readFields (limits : Limits) :
    Nat → List (String × Value) → List Char → Except Failure (Value × List Char)
  | 0, _, text => failAt .expectingName text
  | fuel + 1, done, text =>
    match text with
    | '"' :: rest => do
      let (name, rest) ← readString fuel rest
      match skipSpaces rest with
      | ':' :: rest =>
        let (value, rest) ← readValue limits fuel (skipSpaces rest)
        let fields := Fields.set done name value
        match skipSpaces rest with
        | ',' :: rest =>
          match skipSpaces rest with
          | '"' :: rest => readFields limits fuel fields ('"' :: rest)
          | rest => failAt .expectingName rest
        | '\x7d' :: rest => pure (.object fields, rest)
        | rest => failAt .expectingComma rest
      | rest => failAt .expectingColon rest
    | _ => failAt .expectingName text

end

/-- A place in a text: its index, its line and its column, the last two counted from one. -/
structure Place where
  index : Nat
  line : Nat
  column : Nat
deriving Repr, DecidableEq

def placeAt (text : List Char) (index : Nat) : Place :=
  let before := text.take index
  let line := before.count '\n' + 1
  let column := (before.reverse.takeWhile (· != '\n')).length + 1
  ⟨index, line, column⟩

/-- A refusal of a text: the problem and its place. -/
structure ReadError where
  problem : Problem
  place : Place
deriving Repr, DecidableEq

/-- A text that asks for too much is refused without a place. -/
def ReadError.message (error : ReadError) : String :=
  if error.problem.isLimit then error.problem.text
  else error.problem.text ++ ": line " ++ toString error.place.line ++ " column " ++
    toString error.place.column ++ " (char " ++ toString error.place.index ++ ")"

/-- Reads a text that is one value with spaces around it. -/
def readWithin (limits : Limits) (text : String) : Except ReadError Value :=
  let characters := text.toList
  let refuse (failure : Failure) : ReadError :=
    ⟨failure.problem, placeAt characters (characters.length - failure.unread)⟩
  match characters with
  | '\ufeff' :: _ => .error ⟨.byteOrderMark, placeAt characters 0⟩
  | _ =>
    match readValue limits (2 * characters.length + 2) (skipSpaces characters) with
    | .error failure => .error (refuse failure)
    | .ok (value, rest) =>
      match skipSpaces rest with
      | [] => .ok value
      | rest => .error (refuse ⟨.extraData, rest.length⟩)

/-- Reads any text that is JSON, however large its parts are. -/
def read (text : String) : Except ReadError Value := readWithin {} text

/-- Whole numbers are taken from a text up to this many digits. -/
def digitLimit : Nat := 4300

/-- Reads a text as a running program does, which has room for so many values in each other. -/
def load (nesting : Nat) (text : String) : Except ReadError Value :=
  readWithin ⟨some digitLimit, some nesting⟩ text

end ContractLint.Json
