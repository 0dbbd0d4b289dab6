import ContractLint.Source.Node

/-! Walks over syntax trees: each node comes before the nodes below it, and every node comes with
the context that the nodes above it make. -/

namespace ContractLint.Source

/-- A property holds of every node when each node has it as soon as its children have it. -/
theorem Node.inductOnChildren {motive : Node → Prop}
    (step : ∀ node, (∀ child ∈ node.children, motive child) → motive node) (node : Node) :
    motive node :=
  step node fun child _ => inductOnChildren step child
termination_by sizeOf node
decreasing_by exact Node.sizeOf_lt_of_mem_children ‹_›

/-- All nodes of a tree with their contexts; `enter` gives the context below a node. -/
def Node.walk {κ : Type} (enter : κ → Node → κ) (context : κ) (node : Node) : List (κ × Node) :=
  (context, node) :: node.children.attach.flatMap fun ⟨child, _⟩ =>
    child.walk enter (enter context node)
termination_by sizeOf node
decreasing_by exact Node.sizeOf_lt_of_mem_children ‹_›

theorem Node.walk_eq {κ : Type} (enter : κ → Node → κ) (context : κ) (node : Node) :
    node.walk enter context =
      (context, node) :: node.children.flatMap (Node.walk enter (enter context node)) := by
  rw [Node.walk]
  simp [List.flatMap_subtype]

/-- A source text after reading: its statements. -/
structure Module where
  body : List Node
deriving Inhabited

def Module.walk {κ : Type} (enter : κ → Node → κ) (context : κ) (module : Module) :
    List (κ × Node) :=
  module.body.flatMap (Node.walk enter context)

/-- All nodes of a module, each before the nodes below it. -/
def Module.nodes (module : Module) : List Node :=
  (module.walk (fun (_ : Unit) _ => ()) ()).map (·.2)

end ContractLint.Source
