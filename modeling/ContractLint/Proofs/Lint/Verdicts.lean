import ContractLint.Lint.BlockOperation
import ContractLint.Lint.LooseCall
import ContractLint.Proofs.Lint.Blocks

/-! What the two rules on blocks report: operations that blocks forbid, in functions that a block
reaches, and non-deterministic calls, in functions that no block reaches. -/

namespace ContractLint.Lint

open Source

/-- A node below the nodes `above` performs the operation, at its place. -/
def Performs (module : Module) (above : List Node) (operation : Operation) (pos : Pos) : Prop :=
  ∃ node, (above, node) ∈ module.occurrences ∧
    (operation, pos) ∈ operationsAt (interfaceClasses module) node

/-- A call below the nodes `above` is a non-deterministic one. -/
def CallsNondet (module : Module) (above : List Node) (pos : Pos) : Prop :=
  ∃ callee args keywords, (above, .call pos callee args keywords) ∈ module.occurrences ∧
    isNondetCallee callee = true

/-- A block reaches the function, as far as the rules can tell. -/
def isReached (module : Module) (function : String) : Bool :=
  (CallGraph.ofModule module).reaches (EntryPoints.ofModule module).all function

theorem mem_scopedOperations_iff {module : Module} {found : ScopedOperation} :
    found ∈ scopedOperations module ↔
      ∃ above, Performs module above found.operation found.pos ∧
        functionAround above = found.scope := by
  unfold scopedOperations
  simp only [walk_enter, List.mem_flatMap, List.mem_map]
  constructor
  · rintro ⟨_, ⟨⟨above, node⟩, occurs, rfl⟩, ⟨operation, pos⟩, performed, rfl⟩
    exact ⟨above, ⟨node, occurs, performed⟩, rfl⟩
  · rintro ⟨above, ⟨node, occurs, performed⟩, around⟩
    refine ⟨_, ⟨⟨above, node⟩, occurs, rfl⟩, (found.operation, found.pos), performed, ?_⟩
    rw [scopeAround, around]

theorem mem_forbiddenOperations_iff {module : Module} {finding : Finding} :
    finding ∈ forbiddenOperations module ↔
      ∃ above operation pos function, Performs module above operation pos ∧
        functionAround above = some function ∧ isReached module function = true ∧
        finding = findingAt (.forbiddenOperation operation function) pos := by
  unfold forbiddenOperations
  rw [List.mem_filterMap]
  constructor
  · rintro ⟨⟨operation, scope, pos⟩, listed, reported⟩
    obtain ⟨above, performs, around⟩ := mem_scopedOperations_iff.mp listed
    cases scope with
    | none => cases reported
    | some function =>
        obtain ⟨reached, same⟩ := Option.ite_none_right_eq_some.mp reported
        exact ⟨above, operation, pos, function, performs, around, reached,
          (Option.some.inj same).symm⟩
  · rintro ⟨above, operation, pos, function, performs, around, reached, rfl⟩
    exact ⟨⟨operation, some function, pos⟩,
      mem_scopedOperations_iff.mpr ⟨above, performs, around⟩, if_pos reached⟩

/-- The function or lambda around, as the finder of non-deterministic calls names it. -/
def nondetScope (above : List Node) : Option String :=
  (contextBelow Scope.enterLambdas {} above).function

theorem mem_nondetCalls_iff {module : Module} {call : NondetCall} :
    call ∈ nondetCalls module ↔
      ∃ above, CallsNondet module above call.pos ∧ nondetScope above = call.scope := by
  unfold nondetCalls
  rw [Module.walk_eq_map, List.filterMap_map, List.mem_filterMap]
  constructor
  · rintro ⟨⟨above, node⟩, occurs, found⟩
    cases node with
    | call pos callee args keywords =>
        obtain ⟨isNondet, same⟩ := Option.ite_none_right_eq_some.mp found
        rw [← Option.some.inj same]
        exact ⟨above, ⟨callee, args, keywords, occurs, isNondet⟩, rfl⟩
    | _ => cases found
  · rintro ⟨above, ⟨callee, args, keywords, occurs, isNondet⟩, around⟩
    refine ⟨_, occurs, Option.ite_none_right_eq_some.mpr ⟨isNondet, ?_⟩⟩
    change some (NondetCall.mk (nondetScope above) call.pos) = some call
    rw [around]

theorem mem_looseCalls_iff {module : Module} {finding : Finding} :
    finding ∈ looseCalls module ↔ ∃ above pos, CallsNondet module above pos ∧
      (nondetScope above = none ∧ finding = findingAt .looseCallInModule pos ∨
        ∃ scope, nondetScope above = some scope ∧ isReached module scope = false ∧
          finding = findingAt (.looseCall scope) pos) := by
  unfold looseCalls
  rw [List.mem_filterMap]
  constructor
  · rintro ⟨⟨scope, pos⟩, listed, reported⟩
    obtain ⟨above, calls, around⟩ := mem_nondetCalls_iff.mp listed
    refine ⟨above, pos, calls, ?_⟩
    cases scope with
    | none => exact .inl ⟨around, (Option.some.inj reported).symm⟩
    | some scope =>
        obtain ⟨notReached, same⟩ := Option.ite_none_left_eq_some.mp reported
        exact .inr ⟨scope, around, (Bool.not_eq_true _).mp notReached, (Option.some.inj same).symm⟩
  · rintro ⟨above, pos, calls, ⟨around, rfl⟩ | ⟨scope, around, notReached, rfl⟩⟩
    · exact ⟨⟨none, pos⟩, mem_nondetCalls_iff.mpr ⟨above, calls, around⟩, rfl⟩
    · exact ⟨⟨some scope, pos⟩, mem_nondetCalls_iff.mpr ⟨above, calls, around⟩,
        if_neg ((Bool.not_eq_true _).mpr notReached)⟩

theorem isReached_of_forbidden {module : Module} {finding : Finding} {operation : Operation}
    {function : String} (reported : finding ∈ forbiddenOperations module)
    (issue : finding.issue = .forbiddenOperation operation function) :
    isReached module function = true := by
  obtain ⟨_, _, _, other, _, _, reached, rfl⟩ := mem_forbiddenOperations_iff.mp reported
  cases issue
  exact reached

theorem not_isReached_of_loose {module : Module} {finding : Finding} {scope : String}
    (reported : finding ∈ looseCalls module) (issue : finding.issue = .looseCall scope) :
    isReached module scope = false := by
  obtain ⟨_, _, _, ⟨_, rfl⟩ | ⟨other, _, notReached, rfl⟩⟩ := mem_looseCalls_iff.mp reported
  · cases issue
  · cases issue
    exact notReached

theorem forbidden_iff_isReached {module : Module} {above : List Node} {operation : Operation}
    {pos : Pos} {function : String} (performs : Performs module above operation pos)
    (around : functionAround above = some function) :
    findingAt (.forbiddenOperation operation function) pos ∈ forbiddenOperations module ↔
      isReached module function = true := by
  constructor
  · exact fun reported => isReached_of_forbidden reported rfl
  · intro reached
    exact mem_forbiddenOperations_iff.mpr ⟨above, operation, pos, function, performs, around,
      reached, rfl⟩

theorem loose_iff_not_isReached {module : Module} {above : List Node} {pos : Pos} {scope : String}
    (calls : CallsNondet module above pos) (around : nondetScope above = some scope) :
    findingAt (.looseCall scope) pos ∈ looseCalls module ↔ isReached module scope = false := by
  constructor
  · exact fun reported => not_isReached_of_loose reported rfl
  · intro notReached
    exact mem_looseCalls_iff.mpr ⟨above, pos, calls, .inr ⟨scope, around, notReached, rfl⟩⟩

theorem nondetScope_of_outside {above : List Node} (outside : lambdaAround above = none) :
    nondetScope above = functionAround above := by
  rw [nondetScope, contextBelow_enterLambdas outside]
  rfl

def ReportsLoose (module : Module) (scope : String) : Prop :=
  ∃ finding ∈ looseCalls module, finding.issue = .looseCall scope

def ReportsForbidden (module : Module) (scope : String) : Prop :=
  ∃ finding ∈ forbiddenOperations module, ∃ operation,
    finding.issue = .forbiddenOperation operation scope

/-- No function is reported by both rules. One that has both a non-deterministic call outside
lambdas and a forbidden operation is reported by exactly one of them, and that rule then reports
all that it has recorded for the function. -/
theorem verdicts_exclusive (module : Module) (function : String) :
    ¬(ReportsLoose module function ∧ ReportsForbidden module function) ∧
    ((∃ above pos, CallsNondet module above pos ∧ lambdaAround above = none ∧
        functionAround above = some function) →
      (∃ above operation pos, Performs module above operation pos ∧
        functionAround above = some function) →
      ReportsLoose module function ∧ ¬ReportsForbidden module function ∨
        ¬ReportsLoose module function ∧ ReportsForbidden module function) ∧
    (ReportsLoose module function → ∀ call ∈ nondetCalls module, call.scope = some function →
      findingAt (.looseCall function) call.pos ∈ looseCalls module) ∧
    (ReportsForbidden module function → ∀ found ∈ scopedOperations module,
      found.scope = some function →
      findingAt (.forbiddenOperation found.operation function) found.pos ∈
        forbiddenOperations module) := by
  have loose : ReportsLoose module function → isReached module function = false :=
    fun ⟨_, reported, issue⟩ => not_isReached_of_loose reported issue
  have forbidden : ReportsForbidden module function → isReached module function = true :=
    fun ⟨_, reported, _, issue⟩ => isReached_of_forbidden reported issue
  have exclusive : ¬(ReportsLoose module function ∧ ReportsForbidden module function) :=
    fun ⟨isLoose, isForbidden⟩ =>
      absurd ((loose isLoose).symm.trans (forbidden isForbidden)) Bool.false_ne_true
  refine ⟨exclusive, ?_, ?_, ?_⟩
  · rintro ⟨above, pos, calls, outside, around⟩ ⟨other, operation, place, performs, aroundOther⟩
    cases reached : isReached module function with
    | false =>
        have isLoose : ReportsLoose module function :=
          ⟨_, (loose_iff_not_isReached calls (nondetScope_of_outside outside ▸ around)).mpr reached,
            rfl⟩
        exact .inl ⟨isLoose, fun isForbidden => exclusive ⟨isLoose, isForbidden⟩⟩
    | true =>
        have isForbidden : ReportsForbidden module function :=
          ⟨_, (forbidden_iff_isReached performs aroundOther).mpr reached, operation, rfl⟩
        exact .inr ⟨fun isLoose => exclusive ⟨isLoose, isForbidden⟩, isForbidden⟩
  · intro isLoose call listed recorded
    obtain ⟨above, calls, around⟩ := mem_nondetCalls_iff.mp listed
    exact (loose_iff_not_isReached calls (around.trans recorded)).mpr (loose isLoose)
  · intro isForbidden found listed recorded
    obtain ⟨above, performs, around⟩ := mem_scopedOperations_iff.mp listed
    exact (forbidden_iff_isReached performs (around.trans recorded)).mpr (forbidden isForbidden)

end ContractLint.Lint
