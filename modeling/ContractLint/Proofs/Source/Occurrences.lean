import ContractLint.Proofs.Source.Formed
import Mathlib.Data.List.Basic

/-! Nodes in their places. An occurrence is a node with the nodes above it, the innermost first;
every walk is a view of the occurrences, whatever context it keeps. -/

namespace ContractLint.Source

def stagesOf {σ ι : Type} (step : σ → ι → σ) : σ → List ι → List (σ × ι)
  | _, [] => []
  | state, item :: rest => (state, item) :: stagesOf step (step state item) rest

theorem stagesOf_append {σ ι : Type} (step : σ → ι → σ) (state : σ) (first second : List ι) :
    stagesOf step state (first ++ second) =
      stagesOf step state first ++ stagesOf step (first.foldl step state) second := by
  induction first generalizing state with
  | nil => rfl
  | cons item rest ih => simp only [List.cons_append, stagesOf, ih, List.foldl_cons]

theorem map_stagesOf {σ ι : Type} (step : σ → ι → σ) (state : σ) (items : List ι) :
    (stagesOf step state items).map (·.2) = items := by
  induction items generalizing state with
  | nil => rfl
  | cons item rest ih => rw [stagesOf, List.map_cons, ih]

def contextBelow {κ : Type} (enter : κ → Node → κ) (start : κ) (above : List Node) : κ :=
  above.foldr (fun node context => enter context node) start

def Module.occurrences (module : Module) : List (List Node × Node) :=
  module.walk (fun above node => node :: above) []

theorem Node.map_walk {κ μ : Type} {enter : κ → Node → κ} {other : μ → Node → μ} {view : κ → μ}
    (follows : ∀ context node, view (enter context node) = other (view context) node)
    (context : κ) (node : Node) :
    (node.walk enter context).map (Prod.map view id) = node.walk other (view context) := by
  induction node using Node.inductOnChildren generalizing context with
  | step node ih =>
      rw [Node.walk_eq, Node.walk_eq, List.map_cons, List.map_flatMap]
      congr 1
      refine List.flatMap_congr fun child member => ?_
      rw [ih child member, follows]

theorem Module.walk_eq_map {κ : Type} (enter : κ → Node → κ) (start : κ) (module : Module) :
    module.walk enter start = module.occurrences.map (Prod.map (contextBelow enter start) id) := by
  unfold Module.occurrences Module.walk
  rw [List.map_flatMap]
  refine List.flatMap_congr fun statement member => ?_
  have follows : ∀ (above : List Node) (node : Node), contextBelow enter start (node :: above) =
      enter (contextBelow enter start above) node := fun _ _ => rfl
  exact (Node.map_walk follows [] statement).symm

theorem Module.nodes_eq_map (module : Module) : module.nodes = module.occurrences.map (·.2) := by
  unfold Module.nodes
  rw [Module.walk_eq_map, List.map_map]
  rfl

theorem Node.walk_outer {start above : List Node} {root parent node : Node}
    (occurs : (parent :: above, node) ∈ root.walk (fun above node => node :: above) start) :
    ((above, parent) ∈ root.walk (fun above node => node :: above) start ∧
      node ∈ parent.children) ∨ (parent :: above = start ∧ node = root) := by
  induction root using Node.inductOnChildren generalizing start with
  | step root ih =>
      rw [Node.walk_eq, List.mem_cons, List.mem_flatMap] at occurs
      rcases occurs with here | ⟨child, member, below⟩
      · exact .inr (Prod.mk.injEq .. ▸ here)
      · left
        rw [Node.walk_eq, List.mem_cons, List.mem_flatMap]
        rcases ih child member below with ⟨outer, isChild⟩ | ⟨reached, rfl⟩
        · exact ⟨.inr ⟨child, member, outer⟩, isChild⟩
        · obtain ⟨rfl, rfl⟩ := List.cons.inj reached
          exact ⟨.inl rfl, member⟩

theorem Module.occurrences_outer {module : Module} {above : List Node} {parent node : Node}
    (occurs : (parent :: above, node) ∈ module.occurrences) :
    (above, parent) ∈ module.occurrences ∧ node ∈ parent.children := by
  obtain ⟨statement, member, below⟩ := List.mem_flatMap.mp occurs
  rcases Node.walk_outer below with ⟨outer, isChild⟩ | ⟨impossible, _⟩
  · exact ⟨List.mem_flatMap.mpr ⟨statement, member, outer⟩, isChild⟩
  · cases impossible

theorem Node.walk_inner {start above : List Node} {root parent node : Node}
    (occurs : (above, parent) ∈ root.walk (fun above node => node :: above) start)
    (isChild : node ∈ parent.children) :
    (parent :: above, node) ∈ root.walk (fun above node => node :: above) start := by
  induction root using Node.inductOnChildren generalizing start with
  | step root ih =>
      rw [Node.walk_eq, List.mem_cons, List.mem_flatMap] at occurs ⊢
      right
      rcases occurs with here | ⟨child, member, below⟩
      · cases here
        refine ⟨node, isChild, ?_⟩
        rw [Node.walk_eq]
        exact List.mem_cons_self
      · exact ⟨child, member, ih child member below⟩

theorem Module.occurrences_inner {module : Module} {above : List Node} {parent node : Node}
    (occurs : (above, parent) ∈ module.occurrences) (isChild : node ∈ parent.children) :
    (parent :: above, node) ∈ module.occurrences := by
  obtain ⟨statement, member, below⟩ := List.mem_flatMap.mp occurs
  exact List.mem_flatMap.mpr ⟨statement, member, Node.walk_inner below isChild⟩

theorem Module.occurrences_root {module : Module} {statement : Node}
    (member : statement ∈ module.body) : ([], statement) ∈ module.occurrences := by
  refine List.mem_flatMap.mpr ⟨statement, member, ?_⟩
  rw [Node.walk_eq]
  exact List.mem_cons_self

theorem Module.Formed.fits {module : Module} (formed : module.Formed) {above : List Node}
    {node : Node} (occurs : (above, node) ∈ module.occurrences) : node.Fits := by
  refine formed node ?_
  rw [Module.nodes_eq_map]
  exact List.mem_map.mpr ⟨(above, node), occurs, rfl⟩

theorem Module.Formed.isExpression {module : Module} (formed : module.Formed) {above : List Node}
    {node outer : Node} (occurs : (above, node) ∈ module.occurrences) (inside : outer ∈ above)
    (isExpression : outer.isExpression = true) : node.isExpression = true := by
  induction above generalizing node with
  | nil => cases inside
  | cons parent above ih =>
      obtain ⟨occursParent, isChild⟩ := Module.occurrences_outer occurs
      have fits := formed.fits occursParent
      rcases List.mem_cons.mp inside with rfl | further
      · exact fits.expressions isExpression node isChild
      · exact fits.expressions (ih occursParent further) node isChild

theorem Node.length_le_of_walk {start above : List Node} {root node : Node}
    (occurs : (above, node) ∈ root.walk (fun above node => node :: above) start) :
    start.length ≤ above.length := by
  induction root using Node.inductOnChildren generalizing start with
  | step root ih =>
      rw [Node.walk_eq, List.mem_cons, List.mem_flatMap] at occurs
      rcases occurs with here | ⟨child, isChild, below⟩
      · cases here
        exact Nat.le_refl _
      · exact Nat.le_of_succ_le (ih child isChild below)

theorem Module.mem_body_of_occurs {module : Module} {node : Node}
    (occurs : ([], node) ∈ module.occurrences) : node ∈ module.body := by
  obtain ⟨statement, member, below⟩ := List.mem_flatMap.mp occurs
  rw [Node.walk_eq, List.mem_cons, List.mem_flatMap] at below
  rcases below with here | ⟨child, isChild, further⟩
  · cases here
    exact member
  · cases Node.length_le_of_walk further

theorem Module.built_of_occurs {module : Module}
    (built : ∀ statement ∈ module.body, statement.Built .statement) {above : List Node}
    {node : Node} (occurs : (above, node) ∈ module.occurrences) :
    node.Expression ∨ ∃ role, node.Built role := by
  induction above generalizing node with
  | nil => exact .inr ⟨_, built node (Module.mem_body_of_occurs occurs)⟩
  | cons parent above ih =>
      obtain ⟨occursParent, isChild⟩ := Module.occurrences_outer occurs
      rcases ih occursParent with held | ⟨role, held⟩
      · exact .inl (held.child isChild)
      · exact held.child isChild

section Invariant

variable {κ σ : Type} {enter : κ → Node → κ} {step : σ → κ × Node → σ} {holds : κ → σ → Prop}

theorem foldl_keeps (keeps : ∀ context state visit, holds context state →
      holds context (step state visit)) (context : κ) (visits : List (κ × Node)) (state : σ)
    (held : holds context state) : holds context (visits.foldl step state) := by
  induction visits generalizing state with
  | nil => exact held
  | cons visit rest ih => exact ih _ (keeps context state visit held)

theorem flatMap_walk_invariant
    (keeps : ∀ context state visit, holds context state → holds context (step state visit))
    (context : κ) (nodes : List Node)
    (each : ∀ node ∈ nodes, ∀ state, holds context state →
      ∀ stage ∈ stagesOf step state (node.walk enter context), holds stage.2.1 stage.1)
    (state : σ) (held : holds context state) :
    ∀ stage ∈ stagesOf step state (nodes.flatMap (Node.walk enter context)),
      holds stage.2.1 stage.1 := by
  induction nodes generalizing state with
  | nil => simp [stagesOf]
  | cons node rest ih =>
      rw [List.flatMap_cons, stagesOf_append, List.forall_mem_append]
      refine ⟨each node List.mem_cons_self state held, ?_⟩
      refine ih (fun other member => each other (List.mem_cons_of_mem _ member)) _ ?_
      exact foldl_keeps keeps context _ state held

theorem Node.walk_invariant
    (keeps : ∀ context state visit, holds context state → holds context (step state visit))
    (enters : ∀ context node state, holds context state →
      holds (enter context node) (step state (context, node)))
    (node : Node) (context : κ) (state : σ) (held : holds context state) :
    ∀ stage ∈ stagesOf step state (node.walk enter context), holds stage.2.1 stage.1 := by
  induction node using Node.inductOnChildren generalizing context state with
  | step node ih =>
      rw [Node.walk_eq, stagesOf, List.forall_mem_cons]
      refine ⟨held, ?_⟩
      exact flatMap_walk_invariant keeps _ node.children
        (fun child member state held => ih child member _ state held) _
        (enters context node state held)

variable (holds) in
theorem Module.walk_invariant
    (keeps : ∀ context state visit, holds context state → holds context (step state visit))
    (enters : ∀ context node state, holds context state →
      holds (enter context node) (step state (context, node)))
    (module : Module) (context : κ) (state : σ) (held : holds context state) :
    ∀ stage ∈ stagesOf step state (module.walk enter context), holds stage.2.1 stage.1 :=
  flatMap_walk_invariant keeps context module.body
    (fun statement _ => Node.walk_invariant keeps enters statement context) state held

end Invariant

end ContractLint.Source
