import ContractLint.Decimal.Shortest
import ContractLint.Json.Value

/-! JSON text. It is pure ASCII: other characters are written as escapes of UTF-16 units. -/

namespace ContractLint.Json

/-- Numbers with a fraction are written without exponent from `1e-4` up to below `1e16`. -/
def floatFormat : Decimal.Format := ⟨-4, 15⟩

def floatText (value : Float) : List Char :=
  match Decimal.Double.ofFloat value with
  | .notANumber => "NaN".toList
  | .infinite false => "Infinity".toList
  | .infinite true => "-Infinity".toList
  | .finite isNegative magnitude =>
    let text := magnitude.shortest.text floatFormat
    if isNegative then '-' :: text else text

def intText (value : Int) : List Char :=
  match value with
  | .ofNat n => Nat.toDigits 10 n
  | .negSucc n => '-' :: Nat.toDigits 10 (n + 1)

def hexDigit (value : Nat) : Char :=
  if value < 10 then Char.ofNat (48 + value) else Char.ofNat (87 + value)

/-- The escape of a UTF-16 unit. -/
def unitEscape (unit : Nat) : List Char :=
  ['\\', 'u', hexDigit (unit / 4096 % 16), hexDigit (unit / 256 % 16), hexDigit (unit / 16 % 16),
    hexDigit (unit % 16)]

/-- A character inside a string. -/
def charText (c : Char) : List Char :=
  if c = '"' then ['\\', '"']
  else if c = '\\' then ['\\', '\\']
  else if c = '\n' then ['\\', 'n']
  else if c = '\r' then ['\\', 'r']
  else if c = '\t' then ['\\', 't']
  else if c = '\x08' then ['\\', 'b']
  else if c = '\x0c' then ['\\', 'f']
  else if 32 ≤ c.toNat && c.toNat < 127 then [c]
  else if c.toNat < 0x10000 then unitEscape c.toNat
  else
    let code := c.toNat - 0x10000
    unitEscape (0xD800 + code / 1024) ++ unitEscape (0xDC00 + code % 1024)

def stringText (text : String) : List Char := '"' :: text.toList.flatMap charText ++ ['"']

/-- What stands between the parts of a value: `gap` starts a line at a depth, and `colon` divides a
name from its value. -/
structure Style where
  gap : Nat → List Char
  comma : List Char
  colon : List Char

/-- No blanks at all. -/
def Style.compact : Style := ⟨fun _ => [], [','], [':']⟩

/-- A blank after each comma and colon. -/
def Style.spaced : Style := ⟨fun _ => [], [',', ' '], [':', ' ']⟩

/-- Every part on a line of its own, two blanks deeper than what it is a part of. -/
def Style.indented : Style :=
  ⟨fun depth => '\n' :: List.replicate (2 * depth) ' ', [','], [':', ' ']⟩

mutual

/-- The text of a value that stands at a depth. -/
def Value.chars (style : Style) (depth : Nat) : Value → List Char
  | .null => "null".toList
  | .bool true => "true".toList
  | .bool false => "false".toList
  | .int value => intText value
  | .float value => floatText value
  | .string value => stringText value
  | .array [] => ['[', ']']
  | .array (item :: items) =>
    '[' :: style.gap (depth + 1) ++ item.chars style (depth + 1) ++
      itemsChars style (depth + 1) items ++ style.gap depth ++ [']']
  | .object [] => ['\x7b', '\x7d']
  | .object ((name, value) :: fields) =>
    '\x7b' :: style.gap (depth + 1) ++ stringText name ++ style.colon ++
      value.chars style (depth + 1) ++ fieldsChars style (depth + 1) fields ++
      style.gap depth ++ ['\x7d']

/-- The items of an array after the first one. -/
def itemsChars (style : Style) (depth : Nat) : List Value → List Char
  | [] => []
  | item :: items =>
    style.comma ++ style.gap depth ++ item.chars style depth ++ itemsChars style depth items

/-- The fields of an object after the first one. -/
def fieldsChars (style : Style) (depth : Nat) : List (String × Value) → List Char
  | [] => []
  | (name, value) :: fields =>
    style.comma ++ style.gap depth ++ stringText name ++ style.colon ++ value.chars style depth ++
      fieldsChars style depth fields

end

def Value.render (style : Style) (value : Value) : String := String.ofList (value.chars style 0)

def Value.compact (value : Value) : String := value.render .compact

def Value.spaced (value : Value) : String := value.render .spaced

def Value.pretty (value : Value) : String := value.render .indented

end ContractLint.Json
