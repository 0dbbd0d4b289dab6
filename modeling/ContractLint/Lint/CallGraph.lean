import ContractLint.Lint.Names
import ContractLint.Lint.Scope

/-! Which functions of a module call which. -/

namespace ContractLint.Lint

open Source

/-- Functions in the order in which they were first met, each with what it calls. -/
structure CallGraph where
  entries : List (String × List String) := []

def CallGraph.names (graph : CallGraph) : List String := graph.entries.map (·.1)

def CallGraph.callees (graph : CallGraph) (name : String) : List String :=
  (graph.entries.lookup name).getD []

def CallGraph.addFunction (graph : CallGraph) (name : String) : CallGraph :=
  if graph.names.contains name then graph else ⟨graph.entries ++ [(name, [])]⟩

/-- Adds to a list that is read as a set. -/
def insertNew (item : String) (items : List String) : List String :=
  if items.contains item then items else items ++ [item]

def CallGraph.addCall (graph : CallGraph) (caller callee : String) : CallGraph :=
  ⟨graph.entries.map fun (name, callees) =>
    if name = caller then (name, insertNew callee callees) else (name, callees)⟩

/-- What a call refers to. A bare name is a function nested in the calling one if such a function
has been met; an attribute of `self` is a method of the class around. -/
def CallGraph.target (graph : CallGraph) (scope : Scope) (callee : Node) : Option String :=
  match callee with
  | .name _ id =>
    match scope.function with
    | some function =>
      let nested := function ++ ".<locals>." ++ id
      some (if graph.names.contains nested then nested else id)
    | none => some id
  | .attribute _ (.name _ "self") attr =>
    match scope.className with
    | some className => some (className ++ "." ++ attr)
    | none => some (calledName callee)
  | .attribute _ _ _ => some (calledName callee)
  | _ => none

/-- Takes account of one node: a definition is a function that the one around it may call, and a
call inside a function is an edge. -/
def CallGraph.visit (graph : CallGraph) (scope : Scope) (node : Node) : CallGraph :=
  match node with
  | .functionDef _ _ name _ _ _ _ _ =>
    let qualified := scope.qualify name
    let grown := graph.addFunction qualified
    match scope.function with
    | some outer => grown.addCall outer qualified
    | none => grown
  | .call _ callee _ _ =>
    match scope.function, graph.target scope callee with
    | some function, some target => graph.addCall function target
    | _, _ => graph
  | _ => graph

def CallGraph.ofModule (module : Module) : CallGraph :=
  (module.walk Scope.enter {}).foldl (fun graph (scope, node) => graph.visit scope node) {}

/-- The functions of a graph that a search has not come to yet. -/
def unvisited (names visited : List String) : List String :=
  names.filter fun name => !visited.contains name

theorem length_unvisited_cons_le (names visited : List String) (current : String) :
    (unvisited names (current :: visited)).length ≤ (unvisited names visited).length := by
  induction names with
  | nil => simp [unvisited]
  | cons name rest ih =>
    simp only [unvisited, List.filter_cons, List.contains_cons, Bool.not_or] at ih ⊢
    split <;> split <;> simp_all
    omega

theorem length_unvisited_cons_lt {names visited : List String} {current : String}
    (member : current ∈ names) (fresh : visited.contains current = false) :
    (unvisited names (current :: visited)).length < (unvisited names visited).length := by
  induction names with
  | nil => simp at member
  | cons name rest ih =>
    by_cases same : name = current
    · subst same
      have smaller := length_unvisited_cons_le rest visited name
      simp only [unvisited, List.filter_cons, List.contains_cons, Bool.not_or, fresh,
        beq_self_eq_true, Bool.not_true, Bool.false_and, Bool.not_false, Bool.false_eq_true, if_false, if_true,
        List.length_cons] at smaller ⊢
      omega
    · have smaller := ih ((List.mem_cons.mp member).resolve_left (Ne.symm same))
      simp only [unvisited, List.filter_cons, List.contains_cons, Bool.not_or] at smaller ⊢
      split <;> split <;> simp_all

theorem CallGraph.callees_eq_nil {graph : CallGraph} {name : String}
    (absent : name ∉ graph.names) : graph.callees name = [] := by
  unfold CallGraph.callees CallGraph.names at *
  have missing : graph.entries.lookup name = none := by
    rw [List.lookup_eq_none_iff]
    intro entry member
    simp only [bne_iff_ne, ne_eq]
    intro same
    exact absent (List.mem_map.mpr ⟨entry, member, same.symm⟩)
  simp [missing]

/-- Looks for the target from the names in the queue on, and visits no name twice. -/
def CallGraph.search (graph : CallGraph) (target : String) (visited : List String) :
    List String → Bool
  | [] => false
  | current :: queue =>
    if current = target then true
    else if visited.contains current then graph.search target visited queue
    else graph.search target (current :: visited) (queue ++ graph.callees current)
termination_by queue => ((unvisited graph.names visited).length, queue.length)
decreasing_by
  · exact Prod.Lex.right _ (by simp)
  · rename_i fresh
    by_cases member : current ∈ graph.names
    · exact Prod.Lex.left _ _ (length_unvisited_cons_lt member (by simpa using fresh))
    · rw [CallGraph.callees_eq_nil member, List.append_nil]
      have smaller := length_unvisited_cons_le graph.names visited current
      rcases Nat.lt_or_eq_of_le smaller with less | same
      · exact Prod.Lex.left _ _ less
      · rw [same]
        exact Prod.Lex.right _ (by simp)

/-- The target is one of the sources, or calls lead from one of them to it. -/
def CallGraph.reaches (graph : CallGraph) (sources : List String) (target : String) : Bool :=
  sources.contains target || graph.search target [] sources

end ContractLint.Lint
