import ContractLint.Source.Walk

/-! Names that expressions spell. -/

namespace ContractLint.Lint

open Source

def joinParts (parts : List String) : String := ".".intercalate parts

/-- Climbs the attributes of an expression from its end to the value they start from. -/
def climb (passed : List String) : Node → List String × Node
  | .attribute _ value attr => climb (attr :: passed) value
  | node => (passed, node)

/-- What a climb comes to: a full name if it ends at a name, and else none. -/
def nameFrom {α : Type} (found : String → α) (absent : α) : List String × Node → α
  | (passed, .name _ id) => found (joinParts (id :: passed))
  | _ => absent

/-- What is made of the full name of an expression, which is a name with any number of
attributes. -/
def climbedName {α : Type} (found : String → α) (absent : α) (node : Node) : α :=
  nameFrom found absent (climb [] node)

/-- The dotted name that an expression spells. -/
def dottedName (node : Node) : Option String := climbedName some none node

/-- The full name of a callee, to the rules on non-deterministic blocks. -/
def fullCallName? (callee : Node) : Option String := climbedName some none callee

/-- The full name of a callee, to the rule on strict equality. It is empty where there is none. -/
def fullCallName (callee : Node) : String := climbedName id "" callee

/-- The name of a decorator without arguments. It is empty where there is none. -/
def plainDecoratorName : Node → String
  | .name _ id => id
  | .attribute pos value attr => climbedName id "" (.attribute pos value attr)
  | _ => ""

/-- The attributes at the end of an expression, with the name they start from if there is one. -/
def trailingParts : Node → List String
  | .name _ id => [id]
  | .attribute _ value attr => trailingParts value ++ [attr]
  | _ => []

/-- The name by which a callee is called: whatever the attributes at its end start from. -/
def calledName (callee : Node) : String := joinParts (trailingParts callee)

/-- The name of a decorator, with or without arguments. -/
def decoratorName : Node → Option String
  | .name _ id => some id
  | .attribute pos value attr => climbedName some none (.attribute pos value attr)
  | .call _ callee _ _ => decoratorName callee
  | _ => none

/-- The name of the class that a raised expression makes an instance of. -/
def exceptionName : Node → Option String
  | .call _ callee _ _ => exceptionName callee
  | .name _ id => some id
  | _ => none

/-- The field of the contract that an assignment target belongs to. -/
def storageField : Node → Option String
  | .attribute _ (.name _ "self") attr => some attr
  | .subscript _ value _ => storageField value
  | _ => none

/-- The spellings of the base class of contracts. -/
def contractBases : List String :=
  ["Contract", "gl.Contract", "gl.contract.Contract", "genlayer.Contract",
    "genlayer.contract.Contract"]

def isContractBase (base : Node) : Bool :=
  (dottedName base).any contractBases.contains

/-- The node is a class that has a base class of contracts. -/
def isContractClass : Node → Bool
  | .classDef _ _ bases _ _ _ => bases.any isContractBase
  | _ => false

end ContractLint.Lint
