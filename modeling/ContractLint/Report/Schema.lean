import ContractLint.Json.Access

/-! The schema of a contract: its methods, the parameters of its constructor and their types. -/

namespace ContractLint.Report

open Json (Value Mismatch Fields)

/-- Joins texts; anything else is refused, the first one by its place. -/
def joinTexts (between : String) (values : List Value) : Except Mismatch String := do
  let texts ← values.zipIdx.mapM fun
    | (.string text, _) => .ok text
    | (other, index) => .error (Mismatch.notJoinable index other.kind)
  return Text.joinWith between texts

mutual

/-- How a type is shown: by its reference, by its alternatives or by its name, else as it is
written. -/
def typeText : Value → Except Mismatch Value
  | .string name => .ok (.string name)
  | .object fields =>
    match fields.lookup "$ref" with
    | some reference => .ok reference
    | none =>
      match alternatives fields with
      | some texts => do return .string (← joinTexts " | " (← texts))
      | none =>
        match fields.lookup "type" with
        | some name => .ok name
        | none => .ok (.string (Value.object fields).plain)
  | other => .ok (.string other.plain)

/-- The alternatives among the fields of a type. -/
def alternatives : List (String × Value) → Option (Except Mismatch (List Value))
  | [] => none
  | (name, value) :: rest =>
    if name = "$or" then
      match value with
      | .array items => some (typeTexts items)
      | other => some other.elements
    else alternatives rest

def typeTexts : List Value → Except Mismatch (List Value)
  | [] => .ok []
  | item :: rest => do
    let text ← typeText item
    return text :: (← typeTexts rest)

end

/-- The methods of a schema, each with its name. -/
def schemaMethods (schema : Value) : Except Mismatch Value := schema.getOr "methods" (.object [])

def constructorParameters (schema : Value) : Except Mismatch Value := do
  (← schema.getOr "ctor" (.object [])).getOr "params" (.array [])

def isView (method : Value) : Except Mismatch Bool := do
  return (← method.getOr "readonly" (.bool false)).holds

/-- How many methods only read. -/
def countViews (methods : Value) : Except Mismatch Nat := do
  let views ← (← methods.fields "values").mapM fun (_, method) => isView method
  return views.count true

/-- A part of a parameter: by its place in a pair, by its name in an object. -/
def parameterPart (place : Nat) (name : String) (parameter : Value) : Except Mismatch Value :=
  match parameter with
  | .array items =>
    match items[place]? with
    | some part => .ok part
    | none => .error .outOfRange
  | other => other.getOr name (.string "?")

def parameterLine (parameter : Value) : Except Mismatch String := do
  let name ← parameterPart 0 "name" parameter
  let type ← typeText (← parameterPart 1 "type" parameter)
  return "  - " ++ name.plain ++ ": " ++ type.plain

def methodLine (name : String) (method : Value) : Except Mismatch String := do
  let mark := if (← method.get "readonly").holds then "[view]" else "[write]"
  let parameters ← (← method.getOr "params" (.array [])).elements
  let names ← parameters.mapM (parameterPart 0 "name")
  return "  - " ++ name ++ "(" ++ (← joinTexts ", " names) ++ ") " ++ mark

def schemaLines (contract : Option String) (schema : Value) : Except Mismatch (List String) := do
  let parameters ← constructorParameters schema
  let count ← parameters.length
  let parameterLines ← (← parameters.elements).mapM parameterLine
  let methods ← schemaMethods schema
  let methodCount ← methods.length
  let methodLines ← (← methods.fields "items").mapM fun (name, method) => methodLine name method
  return ["Contract: " ++ contract.getD "None", "",
      "Constructor (" ++ toString count ++ " params):"] ++ parameterLines ++
    ["", "Methods (" ++ toString methodCount ++ "):"] ++ methodLines

end ContractLint.Report
