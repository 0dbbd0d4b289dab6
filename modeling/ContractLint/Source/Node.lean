import ContractLint.Source.Token

/-! Syntax trees. Statements, expressions, patterns and their parts are nodes of one tree, because
the rules walk over all of them in one order. -/

namespace ContractLint.Source

/-- A parameter of a function. -/
structure Parameter where
  pos : Pos
  name : String
deriving Repr, DecidableEq

/-- The parameters of a function, by the way in which they take arguments. -/
structure Signature where
  positionalOnly : List Parameter := []
  regular : List Parameter := []
  variadic : Option Parameter := none
  keywordOnly : List Parameter := []
  keywordVariadic : Option Parameter := none
deriving Repr, DecidableEq, Inhabited

/-- An imported name and the name it is bound to. -/
structure Alias where
  name : String
  boundTo : Option String
deriving Repr, DecidableEq

inductive UnaryOperator
  | plus
  | minus
  | invert
  | negate
deriving Repr, DecidableEq

/-- The expressions that no rule looks at by themselves, only at their parts. -/
inductive Form
  | boolean
  | binary
  | comparison
  | conditional
  | dictionary
  | set
  | listComprehension
  | setComprehension
  | dictionaryComprehension
  | generator
  | yielded
  | yieldedFrom
  | template
  | replacement
  | slice
deriving Repr, DecidableEq

inductive PatternForm
  | value
  | singleton
  | sequence
  | mapping
  | classOf
  | star
  | capture
  | alternatives
deriving Repr, DecidableEq

/-- A node of a syntax tree. Parts of a signature are the annotations and the defaults of the
parameters; parts of a form are its operands in the order in which they are visited. -/
inductive Node where
  | name (pos : Pos) (id : String)
  | attribute (pos : Pos) (value : Node) (attr : String)
  | call (pos : Pos) (callee : Node) (args : List Node) (keywords : List Node)
  | keyword (pos : Pos) (name : Option String) (value : Node)
  | subscript (pos : Pos) (value : Node) (index : Node)
  | lambda (pos : Pos) (signature : Signature) (signatureParts : List Node) (body : Node)
  | await (pos : Pos) (value : Node)
  | assignment (pos : Pos) (target : Node) (value : Node)
  | starred (pos : Pos) (value : Node)
  | tuple (pos : Pos) (elements : List Node)
  | list (pos : Pos) (elements : List Node)
  | constant (pos : Pos) (value : Constant)
  | unary (pos : Pos) (operator : UnaryOperator) (operand : Node)
  | form (pos : Pos) (form : Form) (parts : List Node)
  | clause (target : Node) (source : Node) (conditions : List Node)
  | functionDef (pos : Pos) (isAsync : Bool) (name : String) (signature : Signature)
      (signatureParts : List Node) (body : List Node) (decorators : List Node)
      (returns : Option Node)
  | classDef (pos : Pos) (name : String) (bases : List Node) (keywords : List Node)
      (body : List Node) (decorators : List Node)
  | returning (pos : Pos) (value : Option Node)
  | deleting (pos : Pos) (targets : List Node)
  | assign (pos : Pos) (targets : List Node) (value : Node)
  | augAssign (pos : Pos) (target : Node) (value : Node)
  | annAssign (pos : Pos) (target : Node) (declaredType : Node) (value : Option Node)
  | forLoop (pos : Pos) (isAsync : Bool) (target : Node) (source : Node) (body : List Node)
      (otherwise : List Node)
  | whileLoop (pos : Pos) (test : Node) (body : List Node) (otherwise : List Node)
  | branch (pos : Pos) (test : Node) (body : List Node) (otherwise : List Node)
  | withBlock (pos : Pos) (isAsync : Bool) (items : List Node) (body : List Node)
  | withItem (context : Node) (target : Option Node)
  | matching (pos : Pos) (subject : Node) (cases : List Node)
  | matchCase (shape : Node) (guard : Option Node) (body : List Node)
  | pattern (pos : Pos) (form : PatternForm) (parts : List Node) (captured : Option String)
  | raising (pos : Pos) (exception : Option Node) (cause : Option Node)
  | tryBlock (pos : Pos) (isGroup : Bool) (body : List Node) (handlers : List Node)
      (otherwise : List Node) (cleanup : List Node)
  | handler (pos : Pos) (exception : Option Node) (name : Option String) (body : List Node)
  | asserting (pos : Pos) (test : Node) (message : Option Node)
  | importing (pos : Pos) (modules : List Alias)
  | importingFrom (pos : Pos) (module : Option String) (level : Nat) (names : List Alias)
  | declaring (pos : Pos) (names : List String)
  | expression (pos : Pos) (value : Node)
  | plain (pos : Pos)
deriving Inhabited

/-- The nodes directly below a node, in the order in which they are visited. -/
def Node.children : Node → List Node
  | .name _ _ => []
  | .attribute _ value _ => [value]
  | .call _ callee args keywords => callee :: (args ++ keywords)
  | .keyword _ _ value => [value]
  | .subscript _ value index => [value, index]
  | .lambda _ _ parts body => parts ++ [body]
  | .await _ value => [value]
  | .assignment _ target value => [target, value]
  | .starred _ value => [value]
  | .tuple _ elements => elements
  | .list _ elements => elements
  | .constant _ _ => []
  | .unary _ _ operand => [operand]
  | .form _ _ parts => parts
  | .clause target source conditions => target :: source :: conditions
  | .functionDef _ _ _ _ parts body decorators returns =>
    parts ++ (body ++ (decorators ++ returns.toList))
  | .classDef _ _ bases keywords body decorators => bases ++ (keywords ++ (body ++ decorators))
  | .returning _ value => value.toList
  | .deleting _ targets => targets
  | .assign _ targets value => targets ++ [value]
  | .augAssign _ target value => [target, value]
  | .annAssign _ target declaredType value => target :: declaredType :: value.toList
  | .forLoop _ _ target source body otherwise => target :: source :: (body ++ otherwise)
  | .whileLoop _ test body otherwise => test :: (body ++ otherwise)
  | .branch _ test body otherwise => test :: (body ++ otherwise)
  | .withBlock _ _ items body => items ++ body
  | .withItem context target => context :: target.toList
  | .matching _ subject cases => subject :: cases
  | .matchCase shape guard body => shape :: (guard.toList ++ body)
  | .pattern _ _ parts _ => parts
  | .raising _ exception cause => exception.toList ++ cause.toList
  | .tryBlock _ _ body handlers otherwise cleanup => body ++ (handlers ++ (otherwise ++ cleanup))
  | .handler _ exception _ body => exception.toList ++ body
  | .asserting _ test message => test :: message.toList
  | .importing _ _ => []
  | .importingFrom _ _ _ _ => []
  | .declaring _ _ => []
  | .expression _ value => [value]
  | .plain _ => []

theorem sizeOf_lt_of_mem_toList {node : Node} {optional : Option Node}
    (member : node ∈ optional.toList) : sizeOf node < sizeOf optional := by
  cases optional with
  | none => simp at member
  | some value =>
    simp only [Option.toList_some, List.mem_singleton] at member
    subst member
    simp

/-- A child is smaller than its node. -/
theorem Node.sizeOf_lt_of_mem_children {child node : Node} (member : child ∈ node.children) :
    sizeOf child < sizeOf node := by
  cases node <;> simp [Node.children] at member ⊢ <;>
    grind [→ List.sizeOf_lt_of_mem, → sizeOf_lt_of_mem_toList]

end ContractLint.Source
