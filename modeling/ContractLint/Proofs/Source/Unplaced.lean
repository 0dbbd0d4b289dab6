import ContractLint.Proofs.Source.Formed
import Mathlib.Data.List.Basic

/-! Trees without their places. Moving a statement to another line of a text changes the places of
its nodes and nothing else, so two texts have the same statements if these are equal without
places. -/

namespace ContractLint.Source

def nowhere : Pos := ⟨0, 0⟩

def Parameter.unplaced (parameter : Parameter) : Parameter := { parameter with pos := nowhere }

def Signature.unplaced (signature : Signature) : Signature where
  positionalOnly := signature.positionalOnly.map Parameter.unplaced
  regular := signature.regular.map Parameter.unplaced
  variadic := signature.variadic.map Parameter.unplaced
  keywordOnly := signature.keywordOnly.map Parameter.unplaced
  keywordVariadic := signature.keywordVariadic.map Parameter.unplaced

mutual

def Node.unplaced : Node → Node
  | .name _ id => .name nowhere id
  | .attribute _ value attr => .attribute nowhere value.unplaced attr
  | .call _ callee args keywords =>
    .call nowhere callee.unplaced (unplacedAll args) (unplacedAll keywords)
  | .keyword _ name value => .keyword nowhere name value.unplaced
  | .subscript _ value index => .subscript nowhere value.unplaced index.unplaced
  | .lambda _ signature parts body =>
    .lambda nowhere signature.unplaced (unplacedAll parts) body.unplaced
  | .await _ value => .await nowhere value.unplaced
  | .assignment _ target value => .assignment nowhere target.unplaced value.unplaced
  | .starred _ value => .starred nowhere value.unplaced
  | .tuple _ elements => .tuple nowhere (unplacedAll elements)
  | .list _ elements => .list nowhere (unplacedAll elements)
  | .constant _ value => .constant nowhere value
  | .unary _ operator operand => .unary nowhere operator operand.unplaced
  | .form _ form parts => .form nowhere form (unplacedAll parts)
  | .clause target source conditions =>
    .clause target.unplaced source.unplaced (unplacedAll conditions)
  | .functionDef _ isAsync name signature parts body decorators returns =>
    .functionDef nowhere isAsync name signature.unplaced (unplacedAll parts) (unplacedAll body)
      (unplacedAll decorators) (unplacedOption returns)
  | .classDef _ name bases keywords body decorators =>
    .classDef nowhere name (unplacedAll bases) (unplacedAll keywords) (unplacedAll body)
      (unplacedAll decorators)
  | .returning _ value => .returning nowhere (unplacedOption value)
  | .deleting _ targets => .deleting nowhere (unplacedAll targets)
  | .assign _ targets value => .assign nowhere (unplacedAll targets) value.unplaced
  | .augAssign _ target value => .augAssign nowhere target.unplaced value.unplaced
  | .annAssign _ target declaredType value =>
    .annAssign nowhere target.unplaced declaredType.unplaced (unplacedOption value)
  | .forLoop _ isAsync target source body otherwise =>
    .forLoop nowhere isAsync target.unplaced source.unplaced (unplacedAll body)
      (unplacedAll otherwise)
  | .whileLoop _ test body otherwise =>
    .whileLoop nowhere test.unplaced (unplacedAll body) (unplacedAll otherwise)
  | .branch _ test body otherwise =>
    .branch nowhere test.unplaced (unplacedAll body) (unplacedAll otherwise)
  | .withBlock _ isAsync items body =>
    .withBlock nowhere isAsync (unplacedAll items) (unplacedAll body)
  | .withItem context target => .withItem context.unplaced (unplacedOption target)
  | .matching _ subject cases => .matching nowhere subject.unplaced (unplacedAll cases)
  | .matchCase shape guard body =>
    .matchCase shape.unplaced (unplacedOption guard) (unplacedAll body)
  | .pattern _ form parts captured => .pattern nowhere form (unplacedAll parts) captured
  | .raising _ exception cause =>
    .raising nowhere (unplacedOption exception) (unplacedOption cause)
  | .tryBlock _ isGroup body handlers otherwise cleanup =>
    .tryBlock nowhere isGroup (unplacedAll body) (unplacedAll handlers) (unplacedAll otherwise)
      (unplacedAll cleanup)
  | .handler _ exception name body =>
    .handler nowhere (unplacedOption exception) name (unplacedAll body)
  | .asserting _ test message => .asserting nowhere test.unplaced (unplacedOption message)
  | .importing _ modules => .importing nowhere modules
  | .importingFrom _ module level names => .importingFrom nowhere module level names
  | .declaring _ names => .declaring nowhere names
  | .expression _ value => .expression nowhere value.unplaced
  | .plain _ => .plain nowhere

def unplacedAll : List Node → List Node
  | [] => []
  | node :: rest => node.unplaced :: unplacedAll rest

def unplacedOption : Option Node → Option Node
  | none => none
  | some node => some node.unplaced

end

@[simp] theorem unplacedAll_eq (nodes : List Node) :
    unplacedAll nodes = nodes.map Node.unplaced := by
  induction nodes with
  | nil => rfl
  | cons node rest ih => rw [unplacedAll, ih, List.map_cons]

@[simp] theorem unplacedOption_eq (node : Option Node) :
    unplacedOption node = node.map Node.unplaced := by
  cases node <;> rfl

theorem Node.children_unplaced (node : Node) :
    node.unplaced.children = node.children.map Node.unplaced := by
  cases node <;> simp [Node.unplaced, Node.children, Option.toList_map]

theorem Node.nodes_unplaced (node : Node) :
    node.unplaced.nodes = node.nodes.map Node.unplaced := by
  induction node using Node.inductOnChildren with
  | step node ih =>
      rw [Node.nodes_eq, Node.nodes_eq node, Node.children_unplaced, List.map_cons,
        List.map_flatMap, List.flatMap_map]
      congr 1
      exact List.flatMap_congr ih

/-- The modules have the same statements, in some order and at some places. -/
def Module.SameStatements (module other : Module) : Prop :=
  (module.body.map Node.unplaced).Perm (other.body.map Node.unplaced)

theorem Module.SameStatements.nodes {module other : Module} (same : module.SameStatements other) :
    (module.nodes.map Node.unplaced).Perm (other.nodes.map Node.unplaced) := by
  have unplacedNodes (module : Module) : module.nodes.map Node.unplaced =
      (module.body.map Node.unplaced).flatMap Node.nodes := by
    rw [Module.nodes_eq, List.map_flatMap, List.flatMap_map]
    exact List.flatMap_congr fun statement _ => statement.nodes_unplaced.symm
  rw [unplacedNodes, unplacedNodes]
  exact List.Perm.flatMap_right _ same

theorem Module.SameStatements.exists_node_iff {module other : Module}
    (same : module.SameStatements other) {holds : Node → Prop}
    (unplaced : ∀ node : Node, holds node.unplaced ↔ holds node) :
    (∃ node ∈ module.nodes, holds node) ↔ ∃ node ∈ other.nodes, holds node := by
  have inUnplaced (module : Module) : (∃ node ∈ module.nodes, holds node) ↔
      ∃ node ∈ module.nodes.map Node.unplaced, holds node := by
    simp only [List.mem_map, exists_exists_and_eq_and, unplaced]
  rw [inUnplaced, inUnplaced]
  simp only [same.nodes.mem_iff]

end ContractLint.Source
