import ContractLint.Lint.ContractClass

/-! Classes that storage fields hold, which have to be declared as storable. -/

namespace ContractLint.Lint

open Source

/-- Types that storage can hold without a declaration. -/
def plainTypes : List String :=
  ["str", "int", "bool", "bytes", "float", "u256", "i256", "Address", "DynArray", "Array",
    "TreeMap", "Literal"]

/-- The elements of an index: those of a tuple, or the index itself. -/
def indexElements : Node → List Node
  | .tuple _ elements => elements
  | node => [node]

theorem sizeOf_le_of_mem_indexElements {node element : Node}
    (member : element ∈ indexElements node) : sizeOf element ≤ sizeOf node := by
  cases node <;> simp only [indexElements, List.mem_singleton] at member
  case tuple pos elements =>
    have smaller := List.sizeOf_lt_of_mem member
    simp only [Node.tuple.sizeOf_spec]
    omega
  all_goals exact Nat.le_of_eq (by rw [member])

/-- The names of types in an annotation, through any subscripts. -/
def annotationTypes : Node → List String
  | .name _ id => if plainTypes.contains id then [] else [id]
  | .subscript _ value index =>
    annotationTypes value ++
      (indexElements index).attach.flatMap fun ⟨element, _⟩ => annotationTypes element
  | _ => []
termination_by node => sizeOf node
decreasing_by
  · simp only [Node.subscript.sizeOf_spec]
    omega
  · have smaller := sizeOf_le_of_mem_indexElements ‹_›
    simp only [Node.subscript.sizeOf_spec]
    omega

def storageDecorators : List String := ["allow_storage", "gl.allow_storage"]

/-- A class statement: its name, its place and whether it is declared as storable. -/
structure ClassStatement where
  name : String
  pos : Pos
  isStorable : Bool
deriving Repr, DecidableEq

def classStatement? : Node → Option ClassStatement
  | .classDef pos name _ _ _ decorators =>
    some ⟨name, pos, decorators.any fun decorator =>
      (decoratorName decorator).any storageDecorators.contains⟩
  | _ => none

def classStatements (module : Module) : List ClassStatement :=
  module.nodes.filterMap classStatement?

/-- The types in the annotations of a class body. -/
def bodyTypes (body : List Node) : List String :=
  body.flatMap fun
    | .annAssign _ _ declaredType _ => annotationTypes declaredType
    | _ => []

/-- The types that the storage of contracts uses. -/
def storageTypes (module : Module) : List String :=
  ((contractClasses module).flatMap fun contract => bodyTypes contract.body).eraseDups

def storableClasses (module : Module) : List String :=
  (((classStatements module).filter (·.isStorable)).map (·.name)).eraseDups

/-- Where each class stands: in the order of first definition, with the place of the last. -/
def classPlaces (module : Module) : List (String × Pos) :=
  (classStatements module).foldl (fun places statement =>
    if places.any (·.1 = statement.name) then
      places.map fun (name, pos) =>
        if name = statement.name then (name, statement.pos) else (name, pos)
    else places ++ [(statement.name, statement.pos)]) []

def undeclared? (storable : List String) (places : List (String × Pos)) (type : String) :
    Option Finding :=
  if storable.contains type then none
  else (places.lookup type).map (findingAt (.undeclaredStorage type))

/-- Findings in the order of their places. -/
def Finding.before (first second : Finding) : Bool :=
  if first.line != second.line then first.line < second.line
  else if first.column != second.column then first.column < second.column
  else !(second.message < first.message)

/-- Classes of the module that storage uses and that are not declared as storable. -/
def undeclaredClasses (module : Module) : List Finding :=
  ((storageTypes module).filterMap
    (undeclared? (storableClasses module) (classPlaces module))).mergeSort Finding.before

end ContractLint.Lint
