import ContractLint.Lint.Block
import ContractLint.Lint.Finding

/-! Non-deterministic calls that no block guards. -/

namespace ContractLint.Lint

open Source

def isNondetCallee (callee : Node) : Bool :=
  (fullCallName? callee).any fun name => Text.startsWith name "gl.nondet."

/-- A non-deterministic call with the function or lambda around it. -/
structure NondetCall where
  scope : Option String
  pos : Pos
deriving Repr, DecidableEq

def nondetCallAt (scope : Scope) : Node → Option NondetCall
  | .call pos callee _ _ => if isNondetCallee callee then some ⟨scope.function, pos⟩ else none
  | _ => none

def nondetCalls (module : Module) : List NondetCall :=
  (module.walk Scope.enterLambdas {}).filterMap fun (scope, node) => nondetCallAt scope node

/-- A call at module level is loose, and so is one in a function that no block reaches. -/
def looseCall? (graph : CallGraph) (entries : List String) (call : NondetCall) : Option Finding :=
  match call.scope with
  | none => some (findingAt .looseCallInModule call.pos)
  | some scope =>
    if graph.reaches entries scope then none else some (findingAt (.looseCall scope) call.pos)

def looseCalls (module : Module) : List Finding :=
  (nondetCalls module).filterMap
    (looseCall? (CallGraph.ofModule module) (EntryPoints.ofModule module).all)

end ContractLint.Lint
