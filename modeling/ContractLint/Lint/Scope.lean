import ContractLint.Source.Walk

/-! Scopes: the class and the function that a node stands in. -/

namespace ContractLint.Lint

open Source

/-- The innermost class around a node, and the qualified name of the innermost function. -/
structure Scope where
  className : Option String := none
  function : Option String := none
deriving Repr, DecidableEq

/-- A function inside a function is named after it; else one inside a class is named after that. -/
def Scope.qualify (scope : Scope) (name : String) : String :=
  match scope.function, scope.className with
  | some outer, _ => outer ++ ".<locals>." ++ name
  | none, some className => className ++ "." ++ name
  | none, none => name

/-- The scope below a node. Lambdas belong to the function around them. -/
def Scope.enter (scope : Scope) : Node → Scope
  | .functionDef _ _ name _ _ _ _ _ => { scope with function := some (scope.qualify name) }
  | .classDef _ name _ _ _ _ => { scope with className := some name }
  | _ => scope

/-- The name of a lambda as a scope. -/
def lambdaName (pos : Pos) : String :=
  "<lambda:" ++ toString pos.line ++ ":" ++ toString pos.column ++ ">"

/-- The scope below a node, where a lambda is a function of its own. -/
def Scope.enterLambdas (scope : Scope) : Node → Scope
  | .lambda pos _ _ _ => { scope with function := some (lambdaName pos) }
  | node => scope.enter node

end ContractLint.Lint
