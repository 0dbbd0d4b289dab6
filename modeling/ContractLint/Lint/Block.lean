import ContractLint.Lint.CallGraph

/-! Non-deterministic blocks: the calls that open them, and the functions that run in them. -/

namespace ContractLint.Lint

open Source

/-- The calls that open a block, with the places of the arguments that run in it. -/
def blockOpeners : List (String × List Nat) :=
  [("gl.vm.run_nondet", [0, 1]),
    ("gl.vm.run_nondet_unsafe", [0, 1]),
    ("gl.eq_principle.strict_eq", [0]),
    ("gl.eq_principle_strict_eq", [0]),
    ("eq_principle_strict_eq", [0]),
    ("eq_principle.strict_eq", [0]),
    ("gl.eq_principle.prompt_comparative", [0]),
    ("gl.eq_principle.prompt_non_comparative", [0])]

/-- The spellings of strict equality, as a call and as a decorator. -/
def strictEqualityNames : List String :=
  ["eq_principle_strict_eq", "gl.eq_principle_strict_eq", "gl.eq_principle.strict_eq",
    "eq_principle.strict_eq"]

def isStrictEquality (callee : Node) : Bool := strictEqualityNames.contains (fullCallName callee)

def isStrictDecorator (decorator : Node) : Bool :=
  strictEqualityNames.contains (plainDecoratorName decorator)

/-- The functions that run in blocks, and the functions that pass a lambda to a block. -/
structure EntryPoints where
  functions : List String := []
  lambdaScopes : List String := []

def EntryPoints.all (points : EntryPoints) : List String := points.functions ++ points.lambdaScopes

def EntryPoints.addFunction (points : EntryPoints) (name : String) : EntryPoints :=
  { points with functions := insertNew name points.functions }

/-- Takes account of a function that is handed to a block. A bare name may be a function nested in
the one around; an attribute of `self` is a method of the class around. -/
def EntryPoints.addArgument (points : EntryPoints) (scope : Scope) (argument : Node) :
    EntryPoints :=
  match argument with
  | .name _ id =>
    let points := match scope.function with
      | some function => points.addFunction (function ++ ".<locals>." ++ id)
      | none => points
    points.addFunction id
  | .attribute _ (.name _ "self") attr =>
    match scope.className with
    | some className => points.addFunction (className ++ "." ++ attr)
    | none => points
  | .attribute _ _ _ => climbedName points.addFunction points argument
  | .lambda pos _ _ _ =>
    let points := points.addFunction (lambdaName pos)
    match scope.function with
    | some function => { points with lambdaScopes := insertNew function points.lambdaScopes }
    | none => points
  | _ => points

/-- The arguments of a call that run in the block it opens. -/
def blockArguments (callee : Node) (args : List Node) : List Node :=
  match (fullCallName? callee).bind (blockOpeners.lookup ·) with
  | some places => places.filterMap (args[·]?)
  | none => []

def EntryPoints.visit (points : EntryPoints) (scope : Scope) (node : Node) : EntryPoints :=
  match node with
  | .functionDef _ _ name _ _ _ decorators _ =>
    if decorators.any isStrictDecorator then points.addFunction (scope.qualify name) else points
  | .call _ callee args _ =>
    (blockArguments callee args).foldl (fun points argument => points.addArgument scope argument)
      points
  | _ => points

def EntryPoints.ofModule (module : Module) : EntryPoints :=
  (module.walk Scope.enter {}).foldl (fun points (scope, node) => points.visit scope node) {}

end ContractLint.Lint
