import ContractLint.Lint.Scope
import ContractLint.Proofs.Source.Occurrences

/-! Scopes read off the nodes above a node: the innermost class and function, with lambdas or
without. Names of functions cannot be taken for names of lambdas. -/

namespace ContractLint.Lint

open Source Text

def classAround : List Node → Option String
  | [] => none
  | .classDef _ own _ _ _ _ :: _ => some own
  | _ :: above => classAround above

def functionAround : List Node → Option String
  | [] => none
  | .functionDef _ _ own _ _ _ _ _ :: above =>
    some (Scope.qualify ⟨classAround above, functionAround above⟩ own)
  | _ :: above => functionAround above

def lambdaAround : List Node → Option Pos
  | [] => none
  | .lambda pos _ _ _ :: _ => some pos
  | _ :: above => lambdaAround above

def functionFirst : List Node → Bool
  | [] => false
  | .functionDef _ _ _ _ _ _ _ _ :: _ => true
  | .lambda _ _ _ _ :: _ => false
  | _ :: above => functionFirst above

def scopeAround (above : List Node) : Scope := ⟨classAround above, functionAround above⟩

theorem contextBelow_enter (above : List Node) :
    contextBelow Scope.enter {} above = scopeAround above := by
  induction above with
  | nil => rfl
  | cons parent above ih =>
      change (contextBelow Scope.enter {} above).enter parent = _
      rw [ih]
      cases parent <;> rfl

theorem walk_enter (module : Module) : module.walk Scope.enter {} =
    module.occurrences.map fun (above, node) => (scopeAround above, node) := by
  rw [Module.walk_eq_map]
  refine List.map_congr_left fun (above, node) _ => ?_
  rw [Prod.map_apply, contextBelow_enter]
  rfl

theorem contextBelow_enterLambdas {above : List Node} (outside : lambdaAround above = none) :
    contextBelow Scope.enterLambdas {} above = scopeAround above := by
  induction above with
  | nil => rfl
  | cons parent above ih =>
      change (contextBelow Scope.enterLambdas {} above).enterLambdas parent = _
      cases parent with
      | lambda => cases outside
      | _ =>
          rw [ih outside]
          rfl

theorem exists_lambda {above : List Node} {pos : Pos} (inside : lambdaAround above = some pos) :
    ∃ signature parts body, Node.lambda pos signature parts body ∈ above := by
  induction above with
  | nil => cases inside
  | cons parent above ih =>
      cases parent with
      | lambda _ signature parts body =>
          cases inside
          exact ⟨signature, parts, body, List.mem_cons_self⟩
      | _ =>
          obtain ⟨signature, parts, body, member⟩ := ih inside
          exact ⟨signature, parts, body, List.mem_cons_of_mem _ member⟩

theorem lambdaAround_ne_none {above : List Node} {pos : Pos} {signature : Signature}
    {parts : List Node} {body : Node} (member : .lambda pos signature parts body ∈ above) :
    lambdaAround above ≠ none := by
  induction above with
  | nil => cases member
  | cons parent above ih =>
      rcases List.mem_cons.mp member with rfl | further
      · exact Option.some_ne_none pos
      · cases parent with
        | lambda place => exact Option.some_ne_none place
        | _ => exact ih further

theorem contextBelow_enterLambdas_className (above : List Node) :
    (contextBelow Scope.enterLambdas {} above).className = classAround above := by
  induction above with
  | nil => rfl
  | cons parent above ih =>
      cases parent with
      | classDef => rfl
      | _ => exact ih

theorem contextBelow_enterLambdas_of_lambda {module : Module} (formed : module.Formed)
    {above : List Node} {node : Node} (occurs : (above, node) ∈ module.occurrences) {pos : Pos}
    (inside : lambdaAround above = some pos) :
    contextBelow Scope.enterLambdas {} above = ⟨classAround above, some (lambdaName pos)⟩ := by
  induction above generalizing node with
  | nil => cases inside
  | cons parent above ih =>
      obtain ⟨occursParent, _⟩ := Module.occurrences_outer occurs
      change (contextBelow Scope.enterLambdas {} above).enterLambdas parent = _
      cases parent with
      | lambda place =>
          cases inside
          simp only [Scope.enterLambdas, contextBelow_enterLambdas_className]
          rfl
      | functionDef | classDef =>
          -- A definition below a lambda would be a statement inside an expression.
          have further : lambdaAround above = some pos := inside
          obtain ⟨signature, parts, body, member⟩ := exists_lambda further
          cases formed.isExpression occursParent member rfl
      | _ =>
          rw [ih occursParent inside]
          rfl

theorem lambdaAround_of_functionFirst {module : Module} (formed : module.Formed)
    {above : List Node} {node : Node} (occurs : (above, node) ∈ module.occurrences)
    (first : functionFirst above = true) : lambdaAround above = none := by
  induction above generalizing node with
  | nil => rfl
  | cons parent above ih =>
      obtain ⟨occursParent, _⟩ := Module.occurrences_outer occurs
      cases parent with
      | functionDef =>
          cases inside : lambdaAround above with
          | none => exact inside
          | some pos =>
              obtain ⟨signature, parts, body, member⟩ := exists_lambda inside
              cases formed.isExpression occursParent member rfl
      | lambda => cases first
      | _ => exact ih occursParent first

def Unbracketed (name : String) : Prop := name.toList.head? ≠ some '<'

theorem lambdaName_bracketed (pos : Pos) : ¬Unbracketed (lambdaName pos) := by
  simp [Unbracketed, lambdaName]

theorem unbracketed_of_word {name : String} (word : IsWord name.toList) : Unbracketed name := by
  intro bracketed
  have member := List.mem_of_mem_head? bracketed
  exact absurd (word '<' member) (by decide)

theorem Unbracketed.append {first second : String} (unbracketed : Unbracketed first)
    (further : Unbracketed second) : Unbracketed (first ++ second) := by
  unfold Unbracketed at *
  rw [String.toList_append, List.head?_append]
  cases start : first.toList.head? with
  | none => simpa using further
  | some character => simpa [start] using unbracketed

theorem unbracketed_point : Unbracketed "." := by
  simp [Unbracketed]

theorem unbracketed_locals : Unbracketed ".<locals>." := by
  simp [Unbracketed]

theorem Scope.qualify_unbracketed {scope : Scope} {own : String}
    (className : ∀ name ∈ scope.className, Unbracketed name)
    (function : ∀ name ∈ scope.function, Unbracketed name) (unbracketed : Unbracketed own) :
    Unbracketed (scope.qualify own) := by
  unfold Scope.qualify
  split
  next outer found => exact ((function outer found).append unbracketed_locals).append unbracketed
  next name _ found => exact ((className name found).append unbracketed_point).append unbracketed
  next => exact unbracketed

theorem classAround_unbracketed {module : Module} (formed : module.Formed) {above : List Node}
    {node : Node} (occurs : (above, node) ∈ module.occurrences) :
    ∀ name ∈ classAround above, Unbracketed name := by
  induction above generalizing node with
  | nil => simp [classAround]
  | cons parent above ih =>
      obtain ⟨occursParent, _⟩ := Module.occurrences_outer occurs
      cases parent with
      | classDef =>
          intro name found
          cases found
          exact unbracketed_of_word (formed.fits occursParent).named
      | _ => exact ih occursParent

theorem functionAround_unbracketed {module : Module} (formed : module.Formed) {above : List Node}
    {node : Node} (occurs : (above, node) ∈ module.occurrences) :
    ∀ name ∈ functionAround above, Unbracketed name := by
  induction above generalizing node with
  | nil => simp [functionAround]
  | cons parent above ih =>
      obtain ⟨occursParent, _⟩ := Module.occurrences_outer occurs
      cases parent with
      | functionDef =>
          intro name found
          cases found
          exact Scope.qualify_unbracketed (classAround_unbracketed formed occursParent)
            (ih occursParent) (unbracketed_of_word (formed.fits occursParent).named)
      | _ => exact ih occursParent

def definedFunction? : List Node × Node → Option String
  | (above, .functionDef _ _ own _ _ _ _ _) => some ((scopeAround above).qualify own)
  | _ => none

/-- The qualified names of the functions of a module, in the order of their definitions. -/
def definedFunctions (module : Module) : List String :=
  module.occurrences.filterMap definedFunction?

theorem functionAround_defined {module : Module} {above : List Node} {node : Node}
    (occurs : (above, node) ∈ module.occurrences) :
    ∀ name ∈ functionAround above, name ∈ definedFunctions module := by
  induction above generalizing node with
  | nil => simp [functionAround]
  | cons parent above ih =>
      obtain ⟨occursParent, _⟩ := Module.occurrences_outer occurs
      cases parent with
      | functionDef => exact fun name found => List.mem_filterMap.mpr ⟨_, occursParent, found⟩
      | _ => exact ih occursParent

theorem definedFunctions_unbracketed {module : Module} (formed : module.Formed) :
    ∀ name ∈ definedFunctions module, Unbracketed name := by
  intro name defined
  obtain ⟨⟨above, node⟩, occurs, found⟩ := List.mem_filterMap.mp defined
  cases node with
  | functionDef =>
      cases found
      exact Scope.qualify_unbracketed (classAround_unbracketed formed occurs)
        (functionAround_unbracketed formed occurs)
        (unbracketed_of_word (formed.fits occurs).named)
  | _ => cases found

end ContractLint.Lint
