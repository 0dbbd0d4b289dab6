import ContractLint.Lint.BlockOperation
import ContractLint.Lint.LooseCall
import ContractLint.Proofs.Lint.Reachability
import ContractLint.Proofs.Source.Statements

/-! Visitors that keep the class and a stack of functions while they go through a module, and what
they have in common: the scope they are in at each node. -/

namespace ContractLint.Lint

open Source

/-- What a visitor keeps of where it is: the class, and the functions with the innermost first. -/
structure Tracker where
  className : Option String := none
  functions : List String := []

def Tracker.scope (tracker : Tracker) : Scope := ⟨tracker.className, tracker.functions.head?⟩

/-- A visitor is told every node with the scope it is in; lambdas may be scopes for it. -/
structure Visitor (σ : Type) where
  namesLambdas : Bool
  note : σ → Scope → Node → σ

structure Visit (σ : Type) where
  scope : Scope
  before : σ
  node : Node

/-- How far a visitor has come. -/
structure Course (σ : Type) where
  tracker : Tracker
  state : σ
  visits : List (Visit σ) := []

def Course.places {σ : Type} (course : Course σ) : List (Scope × Node) :=
  course.visits.map fun visit => (visit.scope, visit.node)

namespace Visitor

variable {σ : Type}

def push (visitor : Visitor σ) (tracker : Tracker) : Node → Tracker
  | .functionDef _ _ own _ _ _ _ _ =>
    { tracker with functions := tracker.scope.qualify own :: tracker.functions }
  | .classDef _ own _ _ _ _ => { tracker with className := some own }
  | .lambda pos _ _ _ =>
    if visitor.namesLambdas then
      { tracker with functions := lambdaName pos :: tracker.functions }
    else tracker
  | _ => tracker

def pop (visitor : Visitor σ) (before after : Tracker) : Node → Tracker
  | .functionDef _ _ _ _ _ _ _ _ => { after with functions := after.functions.tail }
  | .classDef _ _ _ _ _ _ => { after with className := before.className }
  | .lambda _ _ _ _ =>
    if visitor.namesLambdas then { after with functions := after.functions.tail } else after
  | _ => after

def arrive (visitor : Visitor σ) (course : Course σ) (node : Node) : Course σ where
  tracker := visitor.push course.tracker node
  state := visitor.note course.state course.tracker.scope node
  visits := course.visits ++ [⟨course.tracker.scope, course.state, node⟩]

def visit (visitor : Visitor σ) (node : Node) (course : Course σ) : Course σ :=
  let inside := node.children.attach.foldl (fun course ⟨child, _⟩ => visitor.visit child course)
    (visitor.arrive course node)
  { inside with tracker := visitor.pop course.tracker inside.tracker node }
termination_by sizeOf node
decreasing_by exact Node.sizeOf_lt_of_mem_children ‹_›

def run (visitor : Visitor σ) (module : Module) (start : σ) : Course σ :=
  module.body.foldl (fun course statement => visitor.visit statement course) ⟨{}, start, []⟩

def enter (visitor : Visitor σ) : Scope → Node → Scope :=
  if visitor.namesLambdas then Scope.enterLambdas else Scope.enter

def step (visitor : Visitor σ) (state : σ) (place : Scope × Node) : σ :=
  visitor.note state place.1 place.2

def through (visitor : Visitor σ) (course : Course σ) (places : List (Scope × Node)) :
    Course σ where
  tracker := course.tracker
  state := places.foldl visitor.step course.state
  visits := course.visits ++ (stagesOf visitor.step course.state places).map
    fun stage => ⟨stage.2.1, stage.1, stage.2.2⟩

theorem visit_eq (visitor : Visitor σ) (node : Node) (course : Course σ) :
    visitor.visit node course =
      let inside := node.children.foldl (fun course child => visitor.visit child course)
        (visitor.arrive course node)
      { inside with tracker := visitor.pop course.tracker inside.tracker node } := by
  rw [visit]
  simp

theorem push_scope (visitor : Visitor σ) (tracker : Tracker) (node : Node) :
    (visitor.push tracker node).scope = visitor.enter tracker.scope node := by
  cases node <;> cases lambdas : visitor.namesLambdas <;>
    simp [push, enter, lambdas, Scope.enter, Scope.enterLambdas, Tracker.scope]

theorem pop_push (visitor : Visitor σ) (tracker : Tracker) (node : Node) :
    visitor.pop tracker (visitor.push tracker node) node = tracker := by
  cases node <;> cases lambdas : visitor.namesLambdas <;> simp [push, pop, lambdas]

theorem through_append (visitor : Visitor σ) (course : Course σ)
    (first second : List (Scope × Node)) :
    visitor.through course (first ++ second) =
      visitor.through (visitor.through course first) second := by
  simp [through, stagesOf_append]

theorem foldl_visit (visitor : Visitor σ) (nodes : List Node) (course : Course σ)
    (each : ∀ node ∈ nodes, ∀ course : Course σ, visitor.visit node course =
      visitor.through course (node.walk visitor.enter course.tracker.scope)) :
    nodes.foldl (fun course node => visitor.visit node course) course =
      visitor.through course (nodes.flatMap (Node.walk visitor.enter course.tracker.scope)) := by
  induction nodes generalizing course with
  | nil => simp [through, stagesOf]
  | cons node rest ih =>
      rw [List.foldl_cons, each node List.mem_cons_self course, List.flatMap_cons, through_append]
      exact ih _ fun other member => each other (List.mem_cons_of_mem _ member)

theorem visit_eq_through (visitor : Visitor σ) (node : Node) (course : Course σ) :
    visitor.visit node course =
      visitor.through course (node.walk visitor.enter course.tracker.scope) := by
  induction node using Node.inductOnChildren generalizing course with
  | step node ih =>
      rw [visit_eq, foldl_visit visitor node.children _ ih, Node.walk_eq]
      -- The visit of the children has the tracker that arriving at the node left, and `pop` undoes
      -- just that.
      have restored : visitor.pop course.tracker (visitor.arrive course node).tracker node =
          course.tracker := visitor.pop_push course.tracker node
      have inner : (visitor.arrive course node).tracker.scope =
          visitor.enter course.tracker.scope node := visitor.push_scope course.tracker node
      simp only [through, restored, inner]
      simp [arrive, stagesOf, step]

theorem run_eq_through (visitor : Visitor σ) (module : Module) (start : σ) :
    visitor.run module start = visitor.through ⟨{}, start, []⟩ (module.walk visitor.enter {}) :=
  foldl_visit visitor module.body _ fun statement _ => visitor.visit_eq_through statement

theorem places_run (visitor : Visitor σ) (module : Module) (start : σ) :
    (visitor.run module start).places = module.walk visitor.enter {} := by
  rw [run_eq_through]
  simp only [Course.places, through, List.nil_append, List.map_map]
  exact map_stagesOf visitor.step start (module.walk visitor.enter {})

end Visitor

def callGraphBuilder : Visitor CallGraph := ⟨false, CallGraph.visit⟩

def entryPointFinder : Visitor EntryPoints := ⟨false, EntryPoints.visit⟩

def operationFinder (interfaces : List String) : Visitor (List ScopedOperation) :=
  ⟨false, fun found scope node => found ++ (operationsAt interfaces node).map
    fun (operation, pos) => ⟨operation, scope.function, pos⟩⟩

def nondetCallFinder : Visitor (List NondetCall) :=
  ⟨true, fun found scope node => found ++ (nondetCallAt scope node).toList⟩

theorem callGraphBuilder_run (module : Module) :
    (callGraphBuilder.run module {}).state = CallGraph.ofModule module := by
  rw [Visitor.run_eq_through]
  rfl

theorem entryPointFinder_run (module : Module) :
    (entryPointFinder.run module {}).state = EntryPoints.ofModule module := by
  rw [Visitor.run_eq_through]
  rfl

theorem operationFinder_run (module : Module) :
    ((operationFinder (interfaceClasses module)).run module []).state =
      scopedOperations module := by
  rw [Visitor.run_eq_through]
  exact List.foldl_append_eq_append

theorem nondetCallFinder_run (module : Module) :
    (nondetCallFinder.run module []).state = nondetCalls module := by
  rw [Visitor.run_eq_through, nondetCalls, List.filterMap_eq_flatMap_toList]
  exact List.foldl_append_eq_append

theorem places_of_plain {σ : Type} {visitor : Visitor σ} (plain : visitor.namesLambdas = false)
    (module : Module) (start : σ) :
    (visitor.run module start).places =
      module.occurrences.map fun (above, node) => (scopeAround above, node) := by
  have enters : visitor.enter = Scope.enter := by simp [Visitor.enter, plain]
  rw [Visitor.places_run, enters, walk_enter]

theorem places_nondetCallFinder (module : Module) :
    (nondetCallFinder.run module []).places = module.occurrences.map
      fun (above, node) => (contextBelow Scope.enterLambdas {} above, node) := by
  rw [Visitor.places_run]
  exact Module.walk_eq_map Scope.enterLambdas {} module

theorem callGraphBuilder_knows (module : Module) :
    ∀ visit ∈ (callGraphBuilder.run module {}).visits, visit.before.Knows visit.scope := by
  rw [Visitor.run_eq_through]
  simp only [Visitor.through, List.nil_append, List.forall_mem_map]
  exact CallGraph.stages_know module

/-- What the visitors of a module have in common, and what their scopes have to do with the call
graph. -/
structure VisitorsAgree (module : Module) : Prop where
  restores : ∀ (σ : Type) (visitor : Visitor σ) (node : Node) (course : Course σ),
    (visitor.visit node course).tracker = course.tracker
  builds : (callGraphBuilder.run module {}).state = CallGraph.ofModule module
  findsEntries : (entryPointFinder.run module {}).state = EntryPoints.ofModule module
  findsOperations : ((operationFinder (interfaceClasses module)).run module []).state =
    scopedOperations module
  findsCalls : (nondetCallFinder.run module []).state = nondetCalls module
  outsideLambdas : ∀ (index : Nat) (above : List Node) (node : Node),
    module.occurrences[index]? = some (above, node) → lambdaAround above = none →
      (callGraphBuilder.run module {}).places[index]? = some (scopeAround above, node) ∧
      (entryPointFinder.run module {}).places[index]? = some (scopeAround above, node) ∧
      ((operationFinder (interfaceClasses module)).run module []).places[index]? =
        some (scopeAround above, node) ∧
      (nondetCallFinder.run module []).places[index]? = some (scopeAround above, node) ∧
      ∀ function ∈ functionAround above, function ∈ (CallGraph.ofModule module).names
  insideLambdas : module.Formed → ∀ (index : Nat) (above : List Node) (node : Node) (pos : Pos),
    module.occurrences[index]? = some (above, node) → lambdaAround above = some pos →
      (nondetCallFinder.run module []).places[index]? =
        some (⟨classAround above, some (lambdaName pos)⟩, node) ∧
      lambdaName pos ∉ (CallGraph.ofModule module).names
  formed : ∀ text, parse text = .ok module → module.Formed
  functions : (CallGraph.ofModule module).names = (definedFunctions module).eraseDups
  known : ∀ visit ∈ (callGraphBuilder.run module {}).visits, ∀ function ∈ visit.scope.function,
    function ∈ visit.before.names

theorem visitors_agree (module : Module) : VisitorsAgree module where
  restores σ visitor node course := by
    rw [Visitor.visit_eq_through]
    rfl
  builds := callGraphBuilder_run module
  findsEntries := entryPointFinder_run module
  findsOperations := operationFinder_run module
  findsCalls := nondetCallFinder_run module
  outsideLambdas index above node occurs outside := by
    have plain : (module.occurrences.map fun (above, node) => (scopeAround above, node))[index]? =
        some (scopeAround above, node) := by simp [occurs]
    refine ⟨?_, ?_, ?_, ?_, ?_⟩
    · rw [places_of_plain rfl]
      exact plain
    · rw [places_of_plain rfl]
      exact plain
    · rw [places_of_plain rfl]
      exact plain
    · rw [places_nondetCallFinder]
      simp [occurs, contextBelow_enterLambdas outside]
    · intro function around
      rw [CallGraph.mem_names_ofModule]
      exact functionAround_defined (List.mem_of_getElem? occurs) function around
  insideLambdas formed index above node pos occurs inside := by
    have scope := contextBelow_enterLambdas_of_lambda formed (List.mem_of_getElem? occurs) inside
    refine ⟨?_, ?_⟩
    · rw [places_nondetCallFinder]
      simp [occurs, scope]
    · rw [CallGraph.mem_names_ofModule]
      exact fun defined => lambdaName_bracketed pos (definedFunctions_unbracketed formed _ defined)
  formed text parsed := parse_formed parsed
  functions := CallGraph.names_ofModule module
  known := callGraphBuilder_knows module

end ContractLint.Lint
