import ContractLint.Lint.Block
import ContractLint.Lint.Finding

/-! Operations that are forbidden in non-deterministic blocks. -/

namespace ContractLint.Lint

open Source

/-- The calls that count as opening a block inside a block. -/
def nestedOpeners : List String :=
  ["gl.vm.run_nondet", "gl.vm.run_nondet_unsafe", "gl.eq_principle.strict_eq",
    "gl.eq_principle.prompt_comparative", "gl.eq_principle.prompt_non_comparative"]

def contractAccessCalls : List String := ["gl.get_contract_at", "genlayer.get_contract_at"]

def interfaceDecorators : List String :=
  ["gl.evm.contract_interface", "genlayer.evm.contract_interface"]

/-- The class that a node defines, if it is an interface to a foreign contract. -/
def interfaceClass? : Node → Option String
  | .classDef _ name _ _ _ decorators =>
    if decorators.any (climbedName interfaceDecorators.contains false) then some name else none
  | _ => none

def interfaceClasses (module : Module) : List String := module.nodes.filterMap interfaceClass?

/-- The operations that a call performs by itself. -/
def callOperations (interfaces : List String) (callee : Node) : List Operation :=
  let name := fullCallName? callee
  let emission := match callee with
    | .attribute _ _ "emit" => [Operation.emission]
    | _ => []
  let access := match name with
    | some name => if contractAccessCalls.contains name then [.contractAccess name] else []
    | none => []
  let interface := match callee with
    | .name _ id => if interfaces.contains id then [.interfaceAccess id] else []
    | _ => []
  let nested := match name with
    | some name => if nestedOpeners.contains name then [.nestedBlock name] else []
    | none => []
  emission ++ access ++ interface ++ nested

/-- The operations that a node performs by itself, with its place. An assignment to several targets
is one write, to the first field among them. -/
def operationsAt (interfaces : List String) : Node → List (Operation × Pos)
  | .call pos callee _ _ => (callOperations interfaces callee).map (·, pos)
  | .assign pos targets _ =>
    match targets.findSome? storageField with
    | some field => [(.storageWrite field, pos)]
    | none => []
  | .augAssign pos target _ =>
    match storageField target with
    | some field => [(.storageWrite field, pos)]
    | none => []
  | _ => []

/-- An operation with the function around it. -/
structure ScopedOperation where
  operation : Operation
  scope : Option String
  pos : Pos
deriving Repr, DecidableEq

def scopedOperations (module : Module) : List ScopedOperation :=
  let interfaces := interfaceClasses module
  (module.walk Scope.enter {}).flatMap fun (scope, node) =>
    (operationsAt interfaces node).map fun (operation, pos) => ⟨operation, scope.function, pos⟩

/-- An operation is forbidden in a function that a block reaches. -/
def forbidden? (graph : CallGraph) (entries : List String) (found : ScopedOperation) :
    Option Finding :=
  match found.scope with
  | none => none
  | some scope =>
    if graph.reaches entries scope then
      some (findingAt (.forbiddenOperation found.operation scope) found.pos)
    else none

def forbiddenOperations (module : Module) : List Finding :=
  (scopedOperations module).filterMap
    (forbidden? (CallGraph.ofModule module) (EntryPoints.ofModule module).all)

end ContractLint.Lint
