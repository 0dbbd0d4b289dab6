/-! JSON values. The fields of an object keep their order. -/

namespace ContractLint.Json

inductive Value where
  | null
  | bool (value : Bool)
  | int (value : Int)
  | float (value : Float)
  | string (value : String)
  | array (items : List Value)
  | object (fields : List (String × Value))
deriving Inhabited

abbrev Fields := List (String × Value)

/-- The value of a field of an object. -/
def Fields.get? (fields : Fields) (key : String) : Option Value := fields.lookup key

/-- Gives a field a value: a new field comes last, an old one keeps its place. -/
def Fields.set (fields : Fields) (key : String) (value : Value) : Fields :=
  if fields.any (·.1 = key) then
    fields.map fun (name, old) => if name = key then (name, value) else (name, old)
  else fields ++ [(key, value)]

/-- The field of a value, if the value is an object that has it. -/
def Value.field? (value : Value) (key : String) : Option Value :=
  match value with
  | .object fields => fields.lookup key
  | _ => none

def Value.string? : Value → Option String
  | .string value => some value
  | _ => none

def Value.nat (value : Nat) : Value := .int (Int.ofNat value)

def Value.ofOption {α : Type} (encode : α → Value) : Option α → Value
  | some value => encode value
  | none => .null

end ContractLint.Json
