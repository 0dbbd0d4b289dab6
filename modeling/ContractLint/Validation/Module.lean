import ContractLint.Entries
import ContractLint.Text.Search
import ContractLint.Validation.Trouble

/-! The names that a loaded module defines, and which of its classes is the contract. -/

namespace ContractLint.Validation

inductive Member
  | publicMethod
  | privateMethod
  | value
deriving Repr, DecidableEq

/-- One class without its bases. -/
structure ClassBody where
  identity : Nat
  name : String
  members : List (String × Member)
deriving Repr, DecidableEq

/-- A class and the classes it inherits from, in the order in which members are looked up. -/
structure ClassInfo where
  own : ClassBody
  inherited : List ClassBody
deriving Repr, DecidableEq

def ClassInfo.lineage (info : ClassInfo) : List ClassBody := info.own :: info.inherited

inductive Binding
  | class (info : ClassInfo)
  | value
deriving Repr, DecidableEq

/-- The names of a module, each where it was first defined. -/
abbrev Module := List (String × Binding)

/-- How a name is defined. -/
inductive Definition
  | value
  | sameAs (name : String)
  | class (name : String) (bases : List String) (members : List (String × Member))
deriving Repr, DecidableEq

/-- A class may come next if no list has it behind its head. -/
def mayComeNext (orders : List (List ClassBody)) (candidate : ClassBody) : Bool :=
  orders.all fun order => !order.tail.contains candidate

/-- Merges orders of classes into one that respects them all; gives the classes that stand in each
other's way when there is none. -/
def mergeOrders : Nat → List (List ClassBody) → Except (List ClassBody) (List ClassBody)
  | 0, _ => .ok []
  | fuel + 1, orders =>
    let left := orders.filter fun order => !order.isEmpty
    let heads := left.filterMap (·.head?)
    if left.isEmpty then .ok []
    else match heads.find? (mayComeNext left) with
      | some next => do
        let rest := left.map fun order => if order.head? = some next then order.tail else order
        return next :: (← mergeOrders fuel rest)
      | none => .error heads.eraseDups

def inconsistentOrder (classes : List ClassBody) : Trouble :=
  .wrongType ("Cannot create a consistent method resolution\norder (MRO) for bases " ++
    Text.joinWith ", " (classes.map (·.name)))

/-- The classes that a class with these bases inherits from. -/
def inheritedFrom (bases : List ClassInfo) : Except Trouble (List ClassBody) :=
  let orders := bases.map (·.lineage) ++ [bases.map (·.own)]
  match mergeOrders (orders.flatten.length + 1) orders with
  | .ok order => .ok order
  | .error classes => .error (inconsistentOrder classes)

def classNamed? (module : Module) (name : String) : Option ClassInfo :=
  match module.lookup name with
  | some (.class info) => some info
  | _ => none

/-- The first class that occurs twice. -/
def repeated? : List ClassInfo → Option ClassInfo
  | [] => none
  | info :: rest => if rest.contains info then some info else repeated? rest

def bindingOf (module : Module) (identity : Nat) : Definition → Except Trouble Binding
  | .value => .ok .value
  | .sameAs name => .ok ((module.lookup name).getD .value)
  | .class name bases members => do
    let bases := bases.filterMap (classNamed? module)
    match repeated? bases with
    | some info => .error (.wrongType ("duplicate base class " ++ info.own.name))
    | none =>
      return .class ⟨⟨identity, name, entriesOf members⟩, ← inheritedFrom bases⟩

/-- Goes through definitions in order; a name that is defined again keeps its place. -/
def defineAll (module : Module) : List (String × Definition) → Except Trouble Module
  | [] => .ok module
  | (name, definition) :: rest => do
    let binding ← bindingOf module rest.length definition
    defineAll (setEntry module name binding) rest

def Module.ofDefinitions (definitions : List (String × Definition)) : Except Trouble Module :=
  defineAll [] definitions

/-- The member of that name that is found first. -/
def ClassInfo.member? (info : ClassInfo) (name : String) : Option Member :=
  info.lineage.findSome? fun body => body.members.lookup name

def ClassInfo.memberNames (info : ClassInfo) : List String :=
  info.lineage.flatMap fun body => body.members.map (·.1)

def ClassInfo.hasPublicMethod (info : ClassInfo) : Bool :=
  info.memberNames.any fun name => info.member? name = some .publicMethod

/-- The name of the class that contracts inherit from. -/
def contractBase : String := "Contract"

/-- A class is a contract if it has a public method or if it is the base of contracts or inherits
from it. -/
def ClassInfo.isContract (info : ClassInfo) : Bool :=
  info.hasPublicMethod || info.lineage.any (·.name = contractBase)

/-- The first class that is a contract, the base under its own name apart. -/
def contractClass? (module : Module) : Option ClassInfo :=
  module.findSome? fun
    | (name, .class info) => if name != contractBase && info.isContract then some info else none
    | _ => none

end ContractLint.Validation
