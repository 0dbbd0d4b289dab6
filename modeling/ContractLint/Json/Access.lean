import ContractLint.Json.Plain
import ContractLint.Text.Search

/-! Parts of values whose shape is not known. A value of another shape is refused, and the refusal
says in what it differs. -/

namespace ContractLint.Json

/-- How the kind of a value is called in messages. -/
def Value.kind : Value → String
  | .null => "NoneType"
  | .bool _ => "bool"
  | .int _ => "int"
  | .float _ => "float"
  | .string _ => "str"
  | .array _ => "list"
  | .object _ => "dict"

inductive Mismatch
  | noAttribute (kind wanted : String)
  | notIterable (kind : String)
  | noMembership (kind : String)
  | notSubscriptable (kind : String)
  | noLength (kind : String)
  | textIndex
  | listIndex
  | unhashable (kind : String)
  | missingKey (key : String)
  | outOfRange
  | tooFewParts (expected found : Nat)
  | notJoinable (index : Nat) (kind : String)
  | notAddable (kind : String)
  | notConcatenable
  | notListConcatenable
deriving Repr, DecidableEq

def Mismatch.message : Mismatch → String
  | .noAttribute kind wanted => "'" ++ kind ++ "' object has no attribute '" ++ wanted ++ "'"
  | .notIterable kind => "'" ++ kind ++ "' object is not iterable"
  | .noMembership kind => "argument of type '" ++ kind ++ "' is not iterable"
  | .notSubscriptable kind => "'" ++ kind ++ "' object is not subscriptable"
  | .noLength kind => "object of type '" ++ kind ++ "' has no len()"
  | .textIndex => "string indices must be integers, not 'str'"
  | .listIndex => "list indices must be integers or slices, not str"
  | .unhashable kind => "unhashable type: '" ++ kind ++ "'"
  | .missingKey key => Text.quote key
  | .outOfRange => "list index out of range"
  | .tooFewParts expected found =>
    "not enough values to unpack (expected " ++ toString expected ++ ", got " ++ toString found ++
      ")"
  | .notJoinable index kind =>
    "sequence item " ++ toString index ++ ": expected str instance, " ++ kind ++ " found"
  | .notAddable kind =>
    "unsupported operand type(s) for +: '" ++ kind ++ "' and 'int'"
  | .notConcatenable => "can only concatenate str (not \"int\") to str"
  | .notListConcatenable => "can only concatenate list (not \"int\") to list"

/-- Null, false, zero and what is empty do not hold. -/
def Value.holds : Value → Bool
  | .null => false
  | .bool value => value
  | .int value => value != 0
  | .float value => value != 0.0
  | .string value => !value.isEmpty
  | .array items => !items.isEmpty
  | .object fields => !fields.isEmpty

/-- The fields of an object; `wanted` is what is asked of it. -/
def Value.fields (value : Value) (wanted : String) : Except Mismatch Fields :=
  match value with
  | .object fields => .ok fields
  | other => .error (.noAttribute other.kind wanted)

/-- The field of an object, or what stands for a field that is not there. -/
def Value.getOr (value : Value) (key : String) (absent : Value) : Except Mismatch Value := do
  let fields ← value.fields "get"
  return (Fields.get? fields key).getD absent

/-- The field of an object, null when it is not there. -/
def Value.get (value : Value) (key : String) : Except Mismatch Value := value.getOr key .null

/-- The field of an object that has to be there. -/
def Value.require (value : Value) (key : String) : Except Mismatch Value :=
  match value with
  | .object fields =>
    match Fields.get? fields key with
    | some found => .ok found
    | none => .error (.missingKey key)
  | .string _ => .error .textIndex
  | .array _ => .error .listIndex
  | other => .error (.notSubscriptable other.kind)

/-- What a value consists of: items of an array, names of an object, characters of a text. -/
def Value.elements : Value → Except Mismatch (List Value)
  | .array items => .ok items
  | .object fields => .ok (fields.map fun (name, _) => .string name)
  | .string text => .ok (text.toList.map fun c => .string c.toString)
  | other => .error (.notIterable other.kind)

/-- How many elements a value has. -/
def Value.length : Value → Except Mismatch Nat
  | .array items => .ok items.length
  | .object fields => .ok fields.length
  | .string text => .ok text.length
  | other => .error (.noLength other.kind)

/-- A text occurs in a value: as an item, as a name or as a part. -/
def Value.mentions (value : Value) (text : String) : Except Mismatch Bool :=
  match value with
  | .array items => .ok (items.any fun
    | .string item => item = text
    | _ => false)
  | .object fields => .ok (fields.any (·.1 = text))
  | .string whole => .ok (Text.contains whole text)
  | other => .error (.noMembership other.kind)

/-- Only what cannot change can be an element of a set. -/
def Value.hashable (value : Value) : Except Mismatch Value :=
  match value with
  | .array _ | .object _ => .error (.unhashable value.kind)
  | other => .ok other

/-- The text, when a text's own operation is asked for. -/
def Value.asText (value : Value) (wanted : String) : Except Mismatch String :=
  match value with
  | .string text => .ok text
  | other => .error (.noAttribute other.kind wanted)

/-- The value counts as the number. Truth counts as one. -/
def Value.equalsInt (value : Value) (number : Int) : Bool :=
  match value with
  | .int other => other = number
  | .bool flag => (if flag then 1 else 0) = number
  | .float other => other == Float.ofInt number
  | _ => false

end ContractLint.Json
