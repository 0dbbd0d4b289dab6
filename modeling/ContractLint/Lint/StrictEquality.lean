import ContractLint.Lint.Block
import ContractLint.Lint.Finding

/-! Strict equality over raw non-deterministic output. A function is flagged only when what it
returns is plainly the result of such a call. -/

namespace ContractLint.Lint

open Source

/-- Calls whose results differ from one run to the next. -/
def rawCalls : List String :=
  ["get_webpage", "gl.get_webpage", "genlayer.get_webpage", "exec_prompt", "gl.exec_prompt",
    "genlayer.exec_prompt", "gl.nondet.exec_prompt", "gl.nondet.web.render",
    "genlayer.gl.nondet.exec_prompt", "genlayer.gl.nondet.web.render"]

/-- A raw call: its name and its line. -/
structure RawCall where
  name : String
  line : Nat
deriving Repr, DecidableEq

/-- The value that an expression waits for, or the expression itself. -/
def awaited : Node → Node
  | .await _ value => value
  | node => node

/-- The node is a raw call. -/
def plainRawCall? : Node → Option RawCall
  | .call pos callee _ _ =>
    let name := fullCallName callee
    if rawCalls.contains name then some ⟨name, pos.line⟩ else none
  | _ => none

/-- The node is a raw call or waits for one. -/
def rawCall? (node : Node) : Option RawCall := plainRawCall? (awaited node)

def handlerBody : Node → List Node
  | .handler _ _ _ body => body
  | _ => []

/-- The statements inside a compound statement that run as part of the function around it. -/
def innerStatements : Node → List Node
  | .branch _ _ body otherwise => body ++ otherwise
  | .forLoop _ _ _ _ body otherwise => body ++ otherwise
  | .whileLoop _ _ body otherwise => body ++ otherwise
  | .withBlock _ _ _ body => body
  | .tryBlock _ false body handlers otherwise cleanup =>
    body ++ (handlers.flatMap handlerBody ++ (otherwise ++ cleanup))
  | _ => []

theorem sizeOf_lt_of_mem_handlerBody {handler statement : Node}
    (member : statement ∈ handlerBody handler) : sizeOf statement < sizeOf handler := by
  cases handler <;> simp [handlerBody] at member ⊢
  have smaller := List.sizeOf_lt_of_mem member
  omega

theorem sizeOf_lt_of_mem_innerStatements {node statement : Node}
    (member : statement ∈ innerStatements node) : sizeOf statement < sizeOf node := by
  cases node with
  | tryBlock pos isGroup body handlers otherwise cleanup =>
    cases isGroup with
    | true => simp [innerStatements] at member
    | false =>
      simp only [innerStatements, List.mem_append, List.mem_flatMap] at member
      simp only [Node.tryBlock.sizeOf_spec]
      rcases member with member | ⟨handler, found, member⟩ | member | member
      · have smaller := List.sizeOf_lt_of_mem member
        omega
      · have smaller := List.sizeOf_lt_of_mem found
        have inner := sizeOf_lt_of_mem_handlerBody member
        omega
      · have smaller := List.sizeOf_lt_of_mem member
        omega
      · have smaller := List.sizeOf_lt_of_mem member
        omega
  | _ =>
    simp [innerStatements] at member <;> simp <;> grind [→ List.sizeOf_lt_of_mem]

def isReturn : Node → Bool
  | .returning _ _ => true
  | _ => false

/-- The return statements of a function that stand in this statement. -/
def ownReturns (node : Node) : List Node :=
  if isReturn node then [node]
  else (innerStatements node).attach.flatMap fun ⟨statement, _⟩ => ownReturns statement
termination_by sizeOf node
decreasing_by exact sizeOf_lt_of_mem_innerStatements ‹_›

/-- An assignment to a variable: the raw call that it is given, or nothing if it is given anything
else. -/
structure VariableAssignment where
  target : String
  source : Option String
  line : Nat
deriving Repr, DecidableEq

def assignmentOf (target : String) (value : Node) (pos : Pos) : VariableAssignment :=
  match rawCall? value with
  | some call => ⟨target, some call.name, call.line⟩
  | none => ⟨target, none, pos.line⟩

/-- The assignment that a statement makes to one variable. -/
def assignmentAt? : Node → Option VariableAssignment
  | .assign pos [.name _ id] value => some (assignmentOf id value pos)
  | .annAssign pos (.name _ id) _ (some value) => some (assignmentOf id value pos)
  | .augAssign pos (.name _ id) _ => some ⟨id, none, pos.line⟩
  | _ => none

/-- The assignments of a function that stand in this statement. -/
def ownAssignments (node : Node) : List VariableAssignment :=
  (assignmentAt? node).toList ++
    (innerStatements node).attach.flatMap fun ⟨statement, _⟩ => ownAssignments statement
termination_by sizeOf node
decreasing_by exact sizeOf_lt_of_mem_innerStatements ‹_›

def bodyReturns (body : List Node) : List Node := body.flatMap ownReturns

def bodyAssignments (body : List Node) : List VariableAssignment := body.flatMap ownAssignments

/-- The first raw call among the assignments to a variable, if raw calls are all it is given. -/
def rawVariable? (assignments : List VariableAssignment) (target : String) : Option RawCall :=
  match assignments.filter (·.target = target) with
  | [] => none
  | first :: rest =>
    if (first :: rest).all (·.source.isSome) then
      first.source.map fun name => ⟨name, first.line⟩
    else none

/-- Looks through return values for the first that is raw. `follow` says what a call by a bare name
comes to, and then decides. -/
def firstRaw (assignments : List VariableAssignment)
    (follow : String → Option (Option RawCall)) : List Node → Option RawCall
  | [] => none
  | .returning _ (some value) :: rest =>
    match rawCall? value with
    | some call => some call
    | none =>
      match awaited value with
      | .name _ id =>
        match rawVariable? assignments id with
        | some call => some call
        | none => firstRaw assignments follow rest
      | .call _ (.name _ id) _ _ =>
        match follow id with
        | some outcome => outcome
        | none => firstRaw assignments follow rest
      | _ => firstRaw assignments follow rest
  | _ :: rest => firstRaw assignments follow rest

/-- The raw output of a body by itself: a call to another function is not followed. -/
def directRawOutput (body : List Node) : Option RawCall :=
  firstRaw (bodyAssignments body) (fun _ => none) (bodyReturns body)

/-- Functions by name, each with its body. -/
abbrev Definitions := List (String × List Node)

/-- The raw output of a body, where calls to known functions are followed one level. -/
def rawOutput (definitions : Definitions) (body : List Node) : Option RawCall :=
  firstRaw (bodyAssignments body)
    (fun name => (definitions.lookup name).map directRawOutput) (bodyReturns body)

def functionBody? : Node → Option (String × List Node)
  | .functionDef _ _ name _ _ body _ _ => some (name, body)
  | _ => none

/-- The functions among the statements; the last definition of a name counts. -/
def definitionsIn (statements : List Node) : Definitions :=
  (statements.filterMap functionBody?).reverse

/-- The methods of the classes among the statements, by class. -/
def methodsIn (statements : List Node) : List (String × Definitions) :=
  (statements.filterMap fun
    | .classDef _ name _ _ body _ => some (name, definitionsIn body)
    | _ => none).reverse

/-- What a function handed to strict equality returns raw: a lambda, a function of the module or a
method of the class around. -/
def rawArgument (definitions : Definitions) (methods : List (String × Definitions))
    (className : Option String) : Node → Option RawCall
  | .lambda _ _ _ body => plainRawCall? body
  | .name _ id => (definitions.lookup id).bind (rawOutput definitions)
  | .attribute _ (.name _ "self") attr =>
    ((className.bind (methods.lookup ·)).bind (·.lookup attr)).bind (rawOutput definitions)
  | _ => none

def strictEqualityFinding (pos : Pos) (call : RawCall) : Finding :=
  findingAt (.strictEquality pos.line call.name call.line) pos

/-- The place of a decorator that is a name with any number of attributes. -/
def namePos : Node → Pos
  | .name pos _ => pos
  | .attribute pos _ _ => pos
  | _ => ⟨0, 0⟩

/-- The mismatches of one node inside a class. -/
def mismatchesAt (definitions : Definitions) (methods : List (String × Definitions))
    (scope : Scope) : Node → List Finding
  | .functionDef _ _ _ _ _ body decorators _ =>
    (decorators.filter isStrictDecorator).filterMap fun decorator =>
      (rawOutput definitions body).map (strictEqualityFinding (namePos decorator))
  | .call pos callee (argument :: _) _ =>
    if isStrictEquality callee then
      ((rawArgument definitions methods scope.className argument).map
        (strictEqualityFinding pos)).toList
    else []
  | _ => []

def strictMismatches (module : Module) : List Finding :=
  let definitions := definitionsIn module.body
  let methods := methodsIn module.body
  (module.walk Scope.enter {}).flatMap fun (scope, node) =>
    mismatchesAt definitions methods scope node

end ContractLint.Lint
