import ContractLint.Proofs.Lint.LambdaScopes

/-! Functions nested in functions. The graph looks a bare name up in the calling function alone, not
in the functions around that one, so the only calls of a nested function that it has are those of the
function that it stands in. -/

namespace ContractLint.Lint

open Source Text

def isFunction : Node → Bool
  | .functionDef .. => true
  | _ => false

/-- The innermost function among the nodes, with the nodes above it. -/
def functionPlace (above : List Node) : List Node := above.dropWhile fun node => !isFunction node

/-- A definition of the name stands in the function, and in no function further inside. The function
is given with the nodes above it. -/
def DefinesNested (module : Module) (function : List Node) (name : String) : Prop :=
  ∃ above pos isAsync signature parts body decorators returns,
    (above, .functionDef pos isAsync name signature parts body decorators returns) ∈
      module.occurrences ∧ functionPlace above = function

/-- Going outwards, the first function in which the name is defined. -/
inductive Resolves (module : Module) (name : String) : List Node → List Node → Prop
  | here {node above} : DefinesNested module (node :: above) name →
      Resolves module name (node :: above) (node :: above)
  | outward {node above function} : ¬DefinesNested module (node :: above) name →
      Resolves module name above function → Resolves module name (node :: above) function

theorem functionAround_functionPlace (above : List Node) :
    functionAround (functionPlace above) = functionAround above := by
  induction above with
  | nil => rfl
  | cons node above ih =>
      cases node with
      | functionDef => rfl
      | _ => exact ih

theorem DefinesNested.isFunction {module : Module} {node : Node} {above : List Node} {name : String}
    (defines : DefinesNested module (node :: above) name) : isFunction node = true := by
  obtain ⟨inner, _, _, _, _, _, _, _, _, place⟩ := defines
  have first := List.head?_dropWhile_not (fun node => !Lint.isFunction node) inner
  rw [← functionPlace, place] at first
  simpa using first

theorem exists_longer_name {inner outer : List Node} {function : String}
    (around : outer <:+ inner) (named : functionAround outer = some function) :
    ∃ name, functionAround inner = some name ∧ function.length ≤ name.length := by
  induction inner with
  | nil =>
      rw [List.suffix_nil.mp around] at named
      cases named
  | cons node inner ih =>
      rcases List.suffix_cons_iff.mp around with rfl | further
      · exact ⟨function, named, Nat.le_refl _⟩
      · obtain ⟨name, isName, notShorter⟩ := ih further
        cases node with
        | functionDef pos isAsync own =>
            refine ⟨name ++ ".<locals>." ++ own, ?_, ?_⟩
            · simp [functionAround, Scope.qualify, isName]
            · simp only [String.length_append]
              omega
        | _ => exact ⟨name, isName, notShorter⟩

namespace Resolves

variable {module : Module} {name : String} {above function : List Node}

theorem defines (resolves : Resolves module name above function) :
    DefinesNested module function name := by
  induction resolves with
  | here defines => exact defines
  | outward _ _ ih => exact ih

theorem suffix (resolves : Resolves module name above function) : function <:+ above := by
  induction resolves with
  | here => exact List.suffix_rfl
  | outward _ _ ih => exact ih.trans (List.suffix_cons _ _)

theorem eq_functionPlace (resolves : Resolves module name above function)
    (own : DefinesNested module (functionPlace above) name) : function = functionPlace above := by
  induction resolves with
  | here defines =>
      simp [functionPlace, defines.isFunction]
  | @outward node above function undefined _ ih =>
      cases isFun : isFunction node with
      | false =>
          have same : functionPlace (node :: above) = functionPlace above := by
            simp [functionPlace, isFun]
          rw [same] at own ⊢
          exact ih own
      | true =>
          have same : functionPlace (node :: above) = node :: above := by
            simp [functionPlace, isFun]
          exact absurd (same ▸ own) undefined

theorem length_outer_lt (resolves : Resolves module name above function)
    (notOwn : ¬DefinesNested module (functionPlace above) name) {outer caller : String}
    (definer : functionAround function = some outer) (calling : functionAround above = some caller) :
    outer.length < caller.length := by
  induction resolves with
  | here defines =>
      refine absurd ?_ notOwn
      simpa [functionPlace, defines.isFunction] using defines
  | @outward node above function _ further ih =>
      cases node with
      | functionDef pos isAsync own =>
          obtain ⟨around, isAround, notShorter⟩ := exists_longer_name further.suffix definer
          simp only [functionAround, Scope.qualify, isAround, Option.some.injEq] at calling
          rw [← calling]
          simp only [String.length_append]
          have mark : ".<locals>.".length = 10 := by decide
          omega
      | _ => exact ih notOwn definer calling

end Resolves

section

variable {module : Module} (formed : module.Formed)

include formed

theorem DefinesNested.defined {name outer : String} {function : List Node}
    (defines : DefinesNested module function name) (named : functionAround function = some outer) :
    IsWord name.toList ∧ outer ++ ".<locals>." ++ name ∈ definedFunctions module := by
  obtain ⟨above, pos, isAsync, signature, parts, body, decorators, returns, occurs, rfl⟩ := defines
  rw [functionAround_functionPlace] at named
  have word : IsWord name.toList := (formed.fits occurs).named
  refine ⟨word, (nested_defined_iff formed.namedByWords word).mpr ?_⟩
  exact ⟨above, pos, isAsync, signature, parts, body, decorators, returns, occurs, named⟩

theorem CallGraph.calls_nested_iff {caller function name : String} (word : IsWord name.toList) :
    (CallGraph.ofModule module).Calls caller (function ++ ".<locals>." ++ name) ↔
      caller = function ∧ function ++ ".<locals>." ++ name ∈ definedFunctions module := by
  have words := formed.namedByWords
  rw [CallGraph.calls_ofModule]
  constructor
  · intro along
    obtain ⟨⟨graph, above, node⟩, isStage, added⟩ := List.mem_filterMap.mp along
    have occurs := List.mem_map_of_mem (f := (·.2)) isStage
    rw [map_stagesOf] at occurs
    cases node with
    | functionDef pos isAsync own =>
        obtain ⟨outer, around, same⟩ := Option.map_eq_some_iff.mp added
        obtain ⟨sameCaller, sameName⟩ := Prod.mk.inj same
        obtain ⟨aroundToo, _⟩ := qualify_eq_nested words occurs (words.named occurs) word sameName
        have isFunction : outer = function := Option.some.inj (around.symm.trans aroundToo)
        refine ⟨sameCaller.symm.trans isFunction, ?_⟩
        exact List.mem_filterMap.mpr ⟨_, occurs, congrArg some sameName⟩
    | call =>
        obtain ⟨outer, around, found⟩ := Option.bind_eq_some_iff.mp added
        obtain ⟨target, refers, same⟩ := Option.map_eq_some_iff.mp found
        obtain ⟨rfl, rfl⟩ := Prod.mk.inj same
        rcases CallGraph.target_cases formed occurs List.mem_cons_self refers with
          ⟨_, id, aroundToo, idWord, sameName, known⟩ | absent
        · obtain ⟨rfl, _⟩ := nested_inj word idWord sameName
          refine ⟨Option.some.inj (around.symm.trans aroundToo), ?_⟩
          rw [← CallGraph.mem_names_ofModule, CallGraph.ofModule_eq]
          exact CallGraph.names_of_stage isStage known
        · exact absurd (by simp) absent
    | _ => cases added
  · rintro ⟨rfl, defined⟩
    obtain ⟨above, pos, isAsync, signature, parts, body, decorators, returns, occurs, around⟩ :=
      (nested_defined_iff words word).mp defined
    rw [← map_stagesOf CallGraph.visitAt {} module.occurrences] at occurs
    obtain ⟨⟨graph, _⟩, isStage, rfl⟩ := List.mem_map.mp occurs
    refine List.mem_filterMap.mpr ⟨_, isStage, ?_⟩
    simp [CallGraph.callAt?, Scope.qualify, scopeAround, around]

theorem CallGraph.reaches_nested_iff {sources : List String} {function name : String}
    (word : IsWord name.toList)
    (defined : function ++ ".<locals>." ++ name ∈ definedFunctions module) :
    (CallGraph.ofModule module).reaches sources (function ++ ".<locals>." ++ name) = true ↔
      function ++ ".<locals>." ++ name ∈ sources ∨
        (CallGraph.ofModule module).reaches sources function = true := by
  rw [CallGraph.reaches_iff, CallGraph.reaches_iff]
  constructor
  · intro reached
    generalize nested : function ++ ".<locals>." ++ name = target at reached
    cases reached with
    | source isSource => exact .inl isSource
    | call reachedCaller called =>
        rw [← nested] at called
        obtain ⟨rfl, _⟩ := (CallGraph.calls_nested_iff formed word).mp called
        exact .inr reachedCaller
  · rintro (isSource | reached)
    · exact .source isSource
    · exact .call reached ((CallGraph.calls_nested_iff formed word).mpr ⟨rfl, defined⟩)

end

/-- A function calls by a bare name what the innermost function around that defines the name has
under it. -/
structure BareCall (module : Module) (above function : List Node) (name caller outer : String) :
    Prop where
  occurs : ∃ pos place args keywords,
    (above, .call pos (.name place name) args keywords) ∈ module.occurrences
  calling : functionAround above = some caller
  resolves : Resolves module name above function
  definer : functionAround function = some outer

/-- A call by a bare name leads to the function that is meant exactly if that one is defined in the
calling function itself. If it is defined further out, calls lead to it only by way of the function
that it is defined in, or it is the calling function. -/
theorem bare_call_resolved_iff {source : String} {module : Module}
    (parsed : parse source = .ok module) {above function : List Node} {name caller outer : String}
    (call : BareCall module above function name caller outer) :
    (outer ++ ".<locals>." ++ name ∈ (CallGraph.ofModule module).callees caller ↔
      DefinesNested module (functionPlace above) name) ∧
    ((CallGraph.ofModule module).reaches [caller] (outer ++ ".<locals>." ++ name) = true ↔
      outer ++ ".<locals>." ++ name = caller ∨
        (CallGraph.ofModule module).reaches [caller] outer = true) := by
  have formed := parse_formed parsed
  obtain ⟨word, defined⟩ := call.resolves.defines.defined formed call.definer
  constructor
  · change (CallGraph.ofModule module).Calls caller _ ↔ _
    rw [CallGraph.calls_nested_iff formed word]
    constructor
    · rintro ⟨rfl, _⟩
      by_contra notOwn
      exact absurd (call.resolves.length_outer_lt notOwn call.definer call.calling)
        (Nat.lt_irrefl _)
    · intro own
      have place := call.resolves.eq_functionPlace own
      have sameName : some outer = some caller := by
        rw [← call.definer, place, functionAround_functionPlace, call.calling]
      exact ⟨(Option.some.inj sameName).symm, defined⟩
  · rw [CallGraph.reaches_nested_iff formed word defined, List.mem_singleton]

def isNamed (name : String) : Node → Bool
  | .functionDef _ _ own _ _ _ _ _ => own = name
  | _ => false

def callsByName (name : String) : Node → Bool
  | .call _ (.name _ id) _ _ => id = name
  | _ => false

theorem isFunction_of_isNamed {name : String} {node : Node} (named : isNamed name node = true) :
    isFunction node = true := by
  cases node with
  | functionDef => rfl
  | _ => cases named

theorem functionAround_cons_of_isNamed {name : String} {node : Node} {above : List Node}
    (named : isNamed name node = true) :
    functionAround (node :: above) = some ((scopeAround above).qualify name) := by
  cases node with
  | functionDef =>
      rw [← of_decide_eq_true named]
      rfl
  | _ => cases named

theorem functionAround_cons_of_not_isFunction {node : Node} {above : List Node}
    (notFunction : isFunction node = false) : functionAround (node :: above) = functionAround above := by
  cases node with
  | functionDef => cases notFunction
  | _ => rfl

theorem definesNested_of_child {module : Module} {function inner : Node} {above : List Node}
    {name : String} (occurs : (above, function) ∈ module.occurrences)
    (isFun : isFunction function = true) (isChild : inner ∈ function.children)
    (named : isNamed name inner = true) : DefinesNested module (function :: above) name := by
  have occursInner := Module.occurrences_inner occurs isChild
  cases inner with
  | functionDef =>
      rw [← of_decide_eq_true named]
      exact ⟨_, _, _, _, _, _, _, _, occursInner, by simp [functionPlace, isFun]⟩
  | _ => cases named

structure InnerCall (module : Module) (name : String) (outer inner line : Node) : Prop where
  occursOuter : ([], outer) ∈ module.occurrences
  occursInner : ([outer], inner) ∈ module.occurrences
  isOuter : isNamed "f" outer = true
  isInner : isNamed "g" inner = true
  notFunction : isFunction line = false
  calls : ∃ pos place args keywords,
    ([line, inner, outer], .call pos (.name place name) args keywords) ∈ module.occurrences

def hasInnerCall (name : String) (holds : Node → Node → Bool) (module : Module) : Bool :=
  module.body.any fun outer => isNamed "f" outer && outer.children.any fun inner =>
    isNamed "g" inner && holds outer inner && inner.children.any fun line =>
      !isFunction line && line.children.any (callsByName name)

theorem exists_innerCall {module : Module} {name : String} {holds : Node → Node → Bool}
    (found : hasInnerCall name holds module = true) :
    ∃ outer inner line, holds outer inner = true ∧ InnerCall module name outer inner line := by
  simp only [hasInnerCall, List.any_eq_true, Bool.and_eq_true, Bool.not_eq_true'] at found
  obtain ⟨outer, isStatement, isOuter, inner, isChild, ⟨isInner, held⟩, line, isLine, notFunction,
    call, isCall, called⟩ := found
  have occursOuter := Module.occurrences_root isStatement
  have occursInner := Module.occurrences_inner occursOuter isChild
  have occursCall := Module.occurrences_inner (Module.occurrences_inner occursInner isLine) isCall
  refine ⟨outer, inner, line, held, occursOuter, occursInner, isOuter, isInner, notFunction, ?_⟩
  unfold callsByName at called
  split at called
  next => exact ⟨_, _, _, _, of_decide_eq_true called ▸ occursCall⟩
  next => cases called

theorem InnerCall.calling {module : Module} {name : String} {outer inner line : Node}
    (call : InnerCall module name outer inner line) :
    functionAround [line, inner, outer] = some "f.<locals>.g" := by
  rw [functionAround_cons_of_not_isFunction call.notFunction,
    functionAround_cons_of_isNamed call.isInner, scopeAround,
    functionAround_cons_of_isNamed call.isOuter]
  rfl

def laterText : String := "def f():\n def g():\n  n()\n  def n():pass"

theorem bare_call_resolved_later : ∃ module above function, parse laterText = .ok module ∧
    BareCall module above function "n" "f.<locals>.g" "f.<locals>.g" ∧
    "f.<locals>.g.<locals>.n" ∈ (CallGraph.ofModule module).callees "f.<locals>.g" := by
  have facts : (parse laterText).toOption.any
      (hasInnerCall "n" fun _ inner => inner.children.any (isNamed "n")) = true := by
    decide +kernel
  obtain ⟨module, parsed, facts⟩ := exists_parsed facts
  obtain ⟨outer, inner, line, held, call⟩ := exists_innerCall facts
  obtain ⟨nested, isChild, named⟩ := List.any_eq_true.mp held
  have own : DefinesNested module [inner, outer] "n" :=
    definesNested_of_child call.occursInner (isFunction_of_isNamed call.isInner) isChild named
  have above : BareCall module [line, inner, outer] [inner, outer] "n" "f.<locals>.g"
      "f.<locals>.g" := by
    refine ⟨call.calls, call.calling, .outward ?_ (.here own), ?_⟩
    · exact fun defines => absurd (call.notFunction.symm.trans defines.isFunction) (by decide)
    · rw [← functionAround_cons_of_not_isFunction call.notFunction]
      exact call.calling
  refine ⟨module, _, _, parsed, above, (bare_call_resolved_iff parsed above).1.mpr ?_⟩
  simpa [functionPlace, call.notFunction, isFunction_of_isNamed call.isInner] using own

def siblingText : String :=
  "def f():\n def n():gl.nondet.x()\n def g():n()\n gl.vm.run_nondet(g)"

def siblingFacts (module : Module) : Bool :=
  let graph := CallGraph.ofModule module
  decide ("f.<locals>.g.<locals>.n" ∉ graph.names) &&
    decide ("f.<locals>.n" ∉ graph.callees "f.<locals>.g") &&
    graph.answersWithin 20 ["f.<locals>.g"] "f.<locals>.n" false &&
    graph.answersWithin 20 (EntryPoints.ofModule module).all "f.<locals>.n" false &&
    decide (⟨some "f.<locals>.n", ⟨2, 9⟩⟩ ∈ nondetCalls module)

theorem sibling_call_unresolved : ∃ module above function, parse siblingText = .ok module ∧
    BareCall module above function "n" "f.<locals>.g" "f" ∧
    "f.<locals>.n" ∉ (CallGraph.ofModule module).callees "f.<locals>.g" ∧
    (CallGraph.ofModule module).reaches ["f.<locals>.g"] "f.<locals>.n" = false ∧
    findingAt (.looseCall "f.<locals>.n") ⟨2, 9⟩ ∈ findingsIn looseCalls siblingText := by
  have facts : (parse siblingText).toOption.any (fun module => siblingFacts module &&
      hasInnerCall "n" (fun outer _ => outer.children.any (isNamed "n")) module) = true := by
    decide +kernel
  obtain ⟨module, parsed, facts⟩ := exists_parsed facts
  obtain ⟨facts, found⟩ := (Bool.and_eq_true _ _).mp facts
  simp only [siblingFacts, Bool.and_eq_true, decide_eq_true_eq] at facts
  obtain ⟨⟨⟨⟨undefined, uncalled⟩, apart⟩, unreached⟩, recorded⟩ := facts
  obtain ⟨outer, inner, line, held, call⟩ := exists_innerCall found
  obtain ⟨nested, isChild, named⟩ := List.any_eq_true.mp held
  have notFunction : ¬DefinesNested module [line, inner, outer] "n" :=
    fun defines => absurd (call.notFunction.symm.trans defines.isFunction) (by decide)
  have notOwn : ¬DefinesNested module [inner, outer] "n" := by
    intro defines
    have calling := call.calling
    rw [functionAround_cons_of_not_isFunction call.notFunction] at calling
    obtain ⟨_, defined⟩ := defines.defined (parse_formed parsed) calling
    exact undefined (CallGraph.mem_names_ofModule.mpr defined)
  have beside : DefinesNested module [outer] "n" :=
    definesNested_of_child call.occursOuter (isFunction_of_isNamed call.isOuter) isChild named
  refine ⟨module, [line, inner, outer], [outer], parsed,
    ⟨call.calls, call.calling, .outward notFunction (.outward notOwn (.here beside)), ?_⟩,
    uncalled, CallGraph.reaches_of_answersWithin apart, ?_⟩
  · rw [functionAround_cons_of_isNamed call.isOuter]
    rfl
  · rw [findingsIn_eq parsed]
    refine List.mem_filterMap.mpr ⟨_, recorded, if_neg ?_⟩
    rw [CallGraph.reaches_of_answersWithin unreached]
    exact Bool.false_ne_true

end ContractLint.Lint
