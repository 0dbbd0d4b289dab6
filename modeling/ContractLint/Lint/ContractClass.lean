import ContractLint.Lint.Finding
import ContractLint.Lint.Names

/-! Rules on contract classes: their methods and their storage fields. -/

namespace ContractLint.Lint

open Source

def writeDecorator : String := "gl.public.write"

def viewDecorator : String := "gl.public.view"

/-- Methods that need a decorator of their own. -/
def specialMethods : List (String × String) :=
  [("__receive__", writeDecorator), ("__on_bridge__", writeDecorator)]

/-- The finding, if the condition holds. -/
def findIf (condition : Bool) (finding : Finding) : List Finding :=
  if condition then [finding] else []

/-- What the rules on methods look at. -/
structure Method where
  pos : Pos
  name : String
  signature : Signature
  decorators : List String
  isTyped : Bool

def Method.isView (method : Method) : Bool := method.decorators.contains viewDecorator

def Method.isPublic (method : Method) : Bool :=
  method.decorators.contains writeDecorator || method.isView

/-- The rules on methods. -/
def Method.findings (method : Method) : List Finding :=
  let special := match specialMethods.lookup method.name with
    | some required =>
      findIf (!method.decorators.contains required)
        (findingAt (.specialDecorator method.name required) method.pos)
    | none => []
  let variadic := match method.signature.variadic with
    | some parameter =>
      findIf method.isPublic (findingAt (.variadicParameters method.name) parameter.pos)
    | none => []
  let keywords := match method.signature.keywordVariadic with
    | some parameter =>
      findIf method.isPublic (findingAt (.keywordParameters method.name) parameter.pos)
    | none => []
  let takesSelf := method.signature.regular.head?.any (·.name = "self")
  findIf (method.name = "__init__" && method.isPublic) (findingAt .publicConstructor method.pos) ++
    findIf (method.isPublic && Text.startsWith method.name "__" && method.name != "__init__")
      (findingAt (.publicUnderscores method.name) method.pos) ++
    special ++
    findIf (method.isView && !method.isTyped)
      (findingAt (.missingReturnType method.name) method.pos) ++
    variadic ++ keywords ++
    findIf (!takesSelf) (findingAt (.missingSelf method.name) method.pos)

/-- Built-in containers with what replaces them in storage. -/
def containerSubstitutes : List (String × String) := [("list", "DynArray"), ("dict", "TreeMap")]

/-- Types that the keys of a map may have. -/
def keyTypes : List String := ["str", "Address", "u32", "u256", "i32", "i256", "bytes"]

/-- The constant is a positive integer; truth values are integers too. -/
def isPositive : Constant → Bool
  | .integer value => 0 < value
  | .boolean value => value
  | _ => false

/-- The sizes of an array are written as a literal, which must be positive. -/
def arrayFindings (pos : Pos) (field : String) : Node → List Finding
  | .tuple _ (_ :: .subscript _ (.name _ "Literal") (.constant _ size) :: _) =>
    findIf (!isPositive size) (findingAt (.arraySize field) pos)
  | _ => []

def mapFindings (pos : Pos) (field : String) : Node → List Finding
  | .tuple _ (.name _ key :: _) =>
    findIf (!keyTypes.contains key) (findingAt (.mapKey field key) pos)
  | _ => []

def containerFindings (pos : Pos) (field type : String) : List Finding :=
  match containerSubstitutes.lookup type with
  | some substitute => [findingAt (.builtinContainer field type substitute) pos]
  | none => []

/-- The rules on storage fields, by the annotation of the field. -/
def fieldFindings (pos : Pos) (field : String) : Node → List Finding
  | .name _ type =>
    findIf (type = "int") (findingAt (.rawInteger field) pos) ++ containerFindings pos field type
  | .subscript _ (.name _ type) index =>
    containerFindings pos field type ++
      (if type = "Array" then arrayFindings pos field index else []) ++
      (if type = "TreeMap" then mapFindings pos field index else [])
  | _ => []

/-- The rules on one statement of a contract class. -/
def memberFindings : Node → List Finding
  | .functionDef pos _ name signature _ _ decorators returns =>
    Method.findings ⟨pos, name, signature, decorators.filterMap decoratorName, returns.isSome⟩
  | .annAssign pos (.name _ field) declaredType _ => fieldFindings pos field declaredType
  | _ => []

/-- A contract class: its name, its place and its body. -/
structure ContractClass where
  name : String
  pos : Pos
  body : List Node

def contractClass? (node : Node) : Option ContractClass :=
  match node with
  | .classDef pos name _ _ body _ =>
    if isContractClass node then some ⟨name, pos, body⟩ else none
  | _ => none

def contractClasses (module : Module) : List ContractClass := module.nodes.filterMap contractClass?

def classFindings (module : Module) : List Finding :=
  (contractClasses module).flatMap fun contract => contract.body.flatMap memberFindings

/-- A module has one contract; each further one is reported. -/
def furtherContracts (module : Module) : List Finding :=
  ((contractClasses module).drop 1).map fun contract =>
    findingAt (.furtherContract contract.name) contract.pos

end ContractLint.Lint
