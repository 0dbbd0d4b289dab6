import ContractLint.Proofs.Lint.NestedFunctions

/-! Code that is handed to a block. One visitor registers it by a name that it makes up where it is
handed over, another records calls under a name that it makes up where the code stands; in every form
in which code is handed over the two names are the same. -/

namespace ContractLint.Lint

open Source

def isCode : Node → Bool
  | .functionDef .. | .lambda .. => true
  | _ => false

/-- The innermost function or lambda among the nodes, with the nodes above it. -/
def codePlace (above : List Node) : List Node := above.dropWhile fun node => !isCode node

def codeName (outer : List Node) : Node → Option String
  | .functionDef _ _ own _ _ _ _ _ => some ((scopeAround outer).qualify own)
  | .lambda pos _ _ _ => some (lambdaName pos)
  | _ => none

/-- A function or lambda below the nodes is handed to a block: a lambda as an argument, a function by
a decorator, by its bare name or as a method of `self`. A bare name means a function outside of
functions and classes, or one in the function that hands it over. -/
inductive HandedCode (module : Module) : List Node → Node → Prop
  | lambda {above pos callee args keywords place signature parts body} :
      (above, .call pos callee args keywords) ∈ module.occurrences →
      .lambda place signature parts body ∈ blockArguments callee args →
      HandedCode module (.call pos callee args keywords :: above)
        (.lambda place signature parts body)
  | decorated {above pos isAsync own signature parts body decorators returns} :
      decorators.any isStrictDecorator = true →
      HandedCode module above (.functionDef pos isAsync own signature parts body decorators returns)
  | outermost {outer place above pos isAsync own signature parts body decorators returns} :
      HandsOver module outer (.name place own) → functionAround above = none →
      classAround above = none →
      HandedCode module above (.functionDef pos isAsync own signature parts body decorators returns)
  | nested {outer place function above pos isAsync own signature parts body decorators returns} :
      HandsOver module outer (.name place own) → functionAround outer = some function →
      functionAround above = some function →
      HandedCode module above (.functionDef pos isAsync own signature parts body decorators returns)
  | method {outer place spot className above pos isAsync own signature parts body decorators
      returns} :
      HandsOver module outer (.attribute place (.name spot "self") own) →
      classAround outer = some className → classAround above = some className →
      functionAround above = none →
      HandedCode module above (.functionDef pos isAsync own signature parts body decorators returns)

def HandedScope (module : Module) (scope : String) : Prop :=
  ∃ outer code, (outer, code) ∈ module.occurrences ∧ HandedCode module outer code ∧
    codeName outer code = some scope

/-- The scopes that calls are followed from: handed code, and for a lambda that is handed over the
function around it, which the graph keeps the calls of the lambda under. -/
def StartsBlock (module : Module) (scope : String) : Prop :=
  HandedScope module scope ∨ LambdaHost module scope

theorem occurs_of_suffix {module : Module} {above outer : List Node} {node inner : Node}
    (occurs : (above, inner) ∈ module.occurrences) (around : node :: outer <:+ above) :
    (outer, node) ∈ module.occurrences := by
  induction above generalizing inner with
  | nil => cases List.suffix_nil.mp around
  | cons parent above ih =>
      obtain ⟨occursParent, _⟩ := Module.occurrences_outer occurs
      rcases List.suffix_cons_iff.mp around with same | further
      · cases same
        exact occursParent
      · exact ih occursParent further

theorem nondetScope_eq_codeName {module : Module} (formed : module.Formed) {above outer : List Node}
    {node code : Node} (occurs : (above, node) ∈ module.occurrences)
    (inside : codePlace above = code :: outer) : nondetScope above = codeName outer code := by
  induction above generalizing node with
  | nil => cases inside
  | cons parent above ih =>
      cases parent with
      | lambda =>
          cases inside
          rfl
      | functionDef =>
          cases inside
          rw [nondetScope_of_outside (lambdaAround_of_functionFirst formed occurs rfl)]
          rfl
      | _ => exact ih (Module.occurrences_outer occurs).1 inside

theorem HandedScope.mem_functions {module : Module} {scope : String}
    (handed : HandedScope module scope) : scope ∈ (EntryPoints.ofModule module).functions := by
  obtain ⟨outer, code, occurs, handed, named⟩ := handed
  rw [EntryPoints.mem_functions_iff]
  cases handed with
  | lambda occursCall isArgument =>
      cases named
      exact .inr (.lambda ⟨_, _, _, _, occursCall, isArgument⟩)
  | decorated strict =>
      cases named
      exact .inl (.decorated occurs strict)
  | outermost hands noFunction noClass =>
      simp only [codeName, Scope.qualify, scopeAround, noFunction, noClass] at named
      cases named
      exact .inl (.bare hands)
  | nested hands around sameFunction =>
      simp only [codeName, Scope.qualify, scopeAround, sameFunction] at named
      cases named
      exact .inl (.nested hands around)
  | method hands around sameClass noFunction =>
      simp only [codeName, Scope.qualify, scopeAround, sameClass, noFunction] at named
      cases named
      exact .inl (.method hands around)

theorem StartsBlock.mem_all {module : Module} {scope : String} (starts : StartsBlock module scope) :
    scope ∈ (EntryPoints.ofModule module).all := by
  rcases starts with handed | hosts
  · exact List.mem_append_left _ handed.mem_functions
  · exact List.mem_append_right _ (EntryPoints.mem_lambdaScopes_iff.mpr hosts)

/-- The finding is about a non-deterministic call that is not recorded under the scope. -/
def Elsewhere (module : Module) (scope : String) (finding : Finding) : Prop :=
  ∃ above pos issue, CallsNondet module above pos ∧ nondetScope above ≠ some scope ∧
    issue ≠ .looseCall scope ∧ finding = findingAt issue pos

theorem elsewhere_of_isReached {module : Module} {scope : String} {finding : Finding}
    (isReached : isReached module scope = true) (reported : finding ∈ looseCalls module) :
    Elsewhere module scope finding := by
  obtain ⟨above, pos, calls, ⟨outside, rfl⟩ | ⟨other, within, notReached, rfl⟩⟩ :=
    mem_looseCalls_iff.mp reported
  · exact ⟨above, pos, _, calls, by simp [outside], by simp, rfl⟩
  · have different : other ≠ scope := by
      rintro rfl
      exact absurd (isReached.symm.trans notReached) (by decide)
    exact ⟨above, pos, _, calls, by simpa [within] using different, by simpa using different, rfl⟩

/-- A non-deterministic call is recorded under its innermost function or lambda. If that is handed to
a block, or calls lead to it from code that is, all findings are about other calls. -/
theorem handed_code_guarded {source : String} {module : Module}
    (parsed : parse source = .ok module) {above outer : List Node} {pos : Pos} {code : Node}
    {scope : String} (calls : CallsNondet module above pos)
    (inside : codePlace above = code :: outer) (named : codeName outer code = some scope)
    (runs : HandedCode module outer code ∨
      (CallGraph.ofModule module).Reach (StartsBlock module) scope) :
    ⟨some scope, pos⟩ ∈ nondetCalls module ∧
      ∀ finding ∈ findingsIn looseCalls source, Elsewhere module scope finding := by
  have formed := parse_formed parsed
  obtain ⟨_, _, _, occurs, _⟩ := id calls
  have recorded : nondetScope above = some scope :=
    (nondetScope_eq_codeName formed occurs inside).trans named
  have occursCode : (outer, code) ∈ module.occurrences :=
    occurs_of_suffix occurs (inside ▸ List.dropWhile_suffix _)
  have reached : (CallGraph.ofModule module).Reach (StartsBlock module) scope := by
    rcases runs with handed | reached
    · exact .source (.inl ⟨outer, code, occursCode, handed, named⟩)
    · exact reached
  have isReached : isReached module scope = true :=
    CallGraph.reaches_iff.mpr (reached.mono fun _ starts => starts.mem_all)
  refine ⟨mem_nondetCalls_iff.mpr ⟨above, calls, recorded⟩, ?_⟩
  rw [findingsIn_eq parsed]
  exact fun finding reported => elsewhere_of_isReached isReached reported

def isSelfAttribute (name : String) : Node → Bool
  | .attribute _ (.name _ "self") attr => attr = name
  | _ => false

def handsMethod (className name : String) : List Node × Node → Bool
  | (outer, .call _ callee args _) => decide (classAround outer = some className) &&
    (blockArguments callee args).any (isSelfAttribute name)
  | _ => false

def isMethod (className name : String) (occurrence : List Node × Node) : Bool :=
  isNamed name occurrence.2 && decide (functionAround occurrence.1 = none ∧
    classAround occurrence.1 = some className)

def callsWithin (scope : String) : List Node × Node → Bool
  | (above, .call _ callee _ _) => isNondetCallee callee &&
    (codePlace above).head?.any fun code => codeName (codePlace above).tail code == some scope
  | _ => false

theorem handsOver_of_handsMethod {module : Module} {className name : String}
    (found : module.occurrences.any (handsMethod className name) = true) :
    ∃ outer place spot, HandsOver module outer (.attribute place (.name spot "self") name) ∧
      classAround outer = some className := by
  obtain ⟨⟨outer, node⟩, occurs, hands⟩ := List.any_eq_true.mp found
  cases node with
  | call =>
      obtain ⟨around, handed⟩ := (Bool.and_eq_true _ _).mp hands
      obtain ⟨argument, isArgument, isSelf⟩ := List.any_eq_true.mp handed
      unfold isSelfAttribute at isSelf
      split at isSelf
      next place spot attr =>
        rw [of_decide_eq_true isSelf] at isArgument
        exact ⟨outer, place, spot, ⟨_, _, _, _, occurs, isArgument⟩, of_decide_eq_true around⟩
      next => cases isSelf
  | _ => cases hands

theorem handedScope_of_method {module : Module} {className name : String}
    (handed : module.occurrences.any (handsMethod className name) = true)
    (defined : module.occurrences.any (isMethod className name) = true) :
    HandedScope module (className ++ "." ++ name) := by
  obtain ⟨outer, place, spot, hands, around⟩ := handsOver_of_handsMethod handed
  obtain ⟨⟨above, node⟩, occurs, method⟩ := List.any_eq_true.mp defined
  obtain ⟨named, places⟩ := (Bool.and_eq_true _ _).mp method
  obtain ⟨noFunction, sameClass⟩ := of_decide_eq_true places
  cases node with
  | functionDef pos isAsync own =>
      have same : own = name := of_decide_eq_true named
      subst same
      refine ⟨above, _, occurs, .method hands around sameClass noFunction, ?_⟩
      simp only [codeName, Scope.qualify, scopeAround, sameClass, noFunction]
  | _ => cases named

theorem exists_call_of_callsWithin {module : Module} {scope : String}
    (found : module.occurrences.any (callsWithin scope) = true) :
    ∃ above outer pos code, CallsNondet module above pos ∧ codePlace above = code :: outer ∧
      codeName outer code = some scope := by
  obtain ⟨⟨above, node⟩, occurs, called⟩ := List.any_eq_true.mp found
  cases node with
  | call pos callee args keywords =>
      obtain ⟨isNondet, inside⟩ := (Bool.and_eq_true _ _).mp called
      cases place : codePlace above with
      | nil =>
          rw [place] at inside
          cases inside
      | cons code outer =>
          rw [place] at inside
          exact ⟨above, outer, pos, code, ⟨callee, args, keywords, occurs, isNondet⟩, place,
            eq_of_beq inside⟩
  | _ => cases called

def methodText : String :=
  "class C:\n def m(self):\n  def h():return gl.nondet.x()\n  return h()\n" ++
    " def r(self):gl.vm.run_nondet(self.m)"

theorem handed_code_guarded_method : ∃ module above outer pos code,
    parse methodText = .ok module ∧ CallsNondet module above pos ∧
    codePlace above = code :: outer ∧ codeName outer code = some "C.m.<locals>.h" ∧
    HandedScope module "C.m" ∧
    (CallGraph.ofModule module).Reach (StartsBlock module) "C.m.<locals>.h" ∧
    ⟨some "C.m.<locals>.h", pos⟩ ∈ nondetCalls module ∧
    ∀ finding ∈ findingsIn looseCalls methodText,
      Elsewhere module "C.m.<locals>.h" finding := by
  have facts : (parse methodText).toOption.any (fun module =>
      module.occurrences.any (handsMethod "C" "m") && module.occurrences.any (isMethod "C" "m") &&
        module.occurrences.any (callsWithin "C.m.<locals>.h") &&
        decide ("C.m.<locals>.h" ∈ (CallGraph.ofModule module).callees "C.m")) = true := by
    decide +kernel
  obtain ⟨module, parsed, facts⟩ := exists_parsed facts
  simp only [Bool.and_eq_true, decide_eq_true_eq] at facts
  obtain ⟨⟨⟨hands, defined⟩, within⟩, called⟩ := facts
  obtain ⟨above, outer, pos, code, calls, inside, named⟩ := exists_call_of_callsWithin within
  have handed : HandedScope module "C.m" := handedScope_of_method hands defined
  have reached : (CallGraph.ofModule module).Reach (StartsBlock module) "C.m.<locals>.h" :=
    .call (.source (.inl handed)) called
  exact ⟨module, above, outer, pos, code, parsed, calls, inside, named, handed, reached,
    handed_code_guarded parsed calls inside named (.inr reached)⟩

end ContractLint.Lint
