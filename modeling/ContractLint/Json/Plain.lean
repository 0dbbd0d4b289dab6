import ContractLint.Json.Printer
import ContractLint.Text.Quote

/-! Values as they are shown inside a sentence: a text as it is, anything else as it would be
written down in a program, its texts in quotes. -/

namespace ContractLint.Json

def plainFloat (value : Float) : List Char :=
  match Decimal.Double.ofFloat value with
  | .notANumber => "nan".toList
  | .infinite false => "inf".toList
  | .infinite true => "-inf".toList
  | .finite _ _ => floatText value

mutual

/-- A value inside another one. -/
def Value.noted : Value → List Char
  | .null => "None".toList
  | .bool true => "True".toList
  | .bool false => "False".toList
  | .int value => intText value
  | .float value => plainFloat value
  | .string value => Text.quoteChars value.toList
  | .array [] => ['[', ']']
  | .array (item :: items) => '[' :: item.noted ++ notedItems items ++ [']']
  | .object [] => ['\x7b', '\x7d']
  | .object ((name, value) :: fields) =>
    '\x7b' :: Text.quoteChars name.toList ++ ':' :: ' ' :: value.noted ++ notedFields fields ++
      ['\x7d']

/-- The items of an array after the first one. -/
def notedItems : List Value → List Char
  | [] => []
  | item :: items => ',' :: ' ' :: item.noted ++ notedItems items

/-- The fields of an object after the first one. -/
def notedFields : List (String × Value) → List Char
  | [] => []
  | (name, value) :: fields =>
    ',' :: ' ' :: Text.quoteChars name.toList ++ ':' :: ' ' :: value.noted ++ notedFields fields

end

def Value.plain : Value → String
  | .string value => value
  | value => String.ofList value.noted

end ContractLint.Json
