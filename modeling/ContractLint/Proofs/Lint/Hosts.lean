import ContractLint.Lint.Check
import ContractLint.Proofs.Lint.Verdicts
import ContractLint.Proofs.Source.Statements

/-! Functions that hand a lambda to a block. The rules take such a function for one that runs in
the block, though it only opens it: where they report too much and too little for that reason. -/

namespace ContractLint.Lint

open Source

inductive HandsLambda : Node → Node → Node → Prop
  | hands {pos callee args keywords place signature parts body} :
      .lambda place signature parts body ∈ blockArguments callee args →
      HandsLambda (.call pos callee args keywords) (.lambda place signature parts body) body

/-- The innermost of the nodes stand inside a lambda that is handed to a block. -/
def InHandedLambda (nodes : List Node) : Prop :=
  ∃ call lambda body, HandsLambda call lambda body ∧ [lambda, call] <:+: nodes

def InHandedBody (nodes : List Node) : Prop :=
  ∃ call lambda body, HandsLambda call lambda body ∧ [body, lambda, call] <:+: nodes

inductive CalledInLambda (module : Module) : String → Prop
  | call {graph above pos callee args keywords name} :
      (graph, above, .call pos callee args keywords) ∈
        stagesOf CallGraph.visitAt {} module.occurrences →
      InHandedBody (.call pos callee args keywords :: above) →
      graph.target (scopeAround above) callee = some name → CalledInLambda module name

/-- The functions that run in a block: registered by name or called in a handed lambda, or called
from such functions on. -/
def RunsInBlock (module : Module) (function : String) : Prop :=
  (CallGraph.ofModule module).Reach
    (fun name => Registered module name ∨ CalledInLambda module name) function

/-- Calls lead to the function from one that hands a lambda to a block. -/
def BelowHost (module : Module) (function : String) : Prop :=
  (CallGraph.ofModule module).Reach (LambdaHost module) function

theorem RunsInBlock.of_registered {module : Module} {function : String}
    (reached : (CallGraph.ofModule module).Reach (Registered module) function) :
    RunsInBlock module function :=
  reached.mono fun _ => .inl

theorem findingsIn_eq {rule : Module → List Finding} {source : String} {module : Module}
    (parsed : parse source = .ok module) : findingsIn rule source = rule module := by
  rw [findingsIn, parsed]

theorem InHandedLambda.inside {nodes : List Node} (handed : InHandedLambda nodes) :
    lambdaAround nodes ≠ none := by
  obtain ⟨_, _, _, ⟨_⟩, within⟩ := handed
  exact lambdaAround_ne_none (within.subset List.mem_cons_self)

theorem InHandedBody.inLambda {nodes : List Node} (handed : InHandedBody nodes) :
    InHandedLambda nodes := by
  obtain ⟨call, lambda, body, hands, within⟩ := handed
  exact ⟨call, lambda, body, hands, (List.suffix_cons body [lambda, call]).isInfix.trans within⟩

def hostText : String := "def f():gl.nondet.x();gl.vm.run_nondet(lambda:0)"

def hostCall : Node :=
  .call ⟨1, 8⟩ (.attribute ⟨1, 8⟩ (.attribute ⟨1, 8⟩ (.name ⟨1, 8⟩ "gl") "nondet") "x") [] []

def hostOpener : Node :=
  .attribute ⟨1, 22⟩ (.attribute ⟨1, 22⟩ (.name ⟨1, 22⟩ "gl") "vm") "run_nondet"

def hostLambda : Node := .lambda ⟨1, 39⟩ {} [] (.constant ⟨1, 46⟩ (.integer 0))

def hostBlock : Node := .call ⟨1, 22⟩ hostOpener [hostLambda] []

def hostFunction : Node :=
  .functionDef ⟨1, 0⟩ false "f" {} [] [.expression ⟨1, 8⟩ hostCall, .expression ⟨1, 22⟩ hostBlock]
    [] none

def hostModule : Module := ⟨[hostFunction]⟩

/-- The module has the form of `hostModule`, with the same names and places in it. -/
def isHostModule : Module → Bool
  | ⟨[.functionDef place isAsync name signature []
      [.expression callLine (.call callPos
          (.attribute xPos (.attribute nondetPos (.name glPos gl) nondet) x) [] []),
        .expression blockLine (.call blockPos
          (.attribute runPos (.attribute vmPos (.name rootPos root) vm) run)
          [.lambda lambdaPos parameters [] (.constant valuePos (.integer value))] [])]
      [] none]⟩ =>
    [place, callLine, callPos, xPos, nondetPos, glPos] = ⟨1, 0⟩ :: List.replicate 5 ⟨1, 8⟩ ∧
    [blockLine, blockPos, runPos, vmPos, rootPos, lambdaPos, valuePos] =
      List.replicate 5 ⟨1, 22⟩ ++ [⟨1, 39⟩, ⟨1, 46⟩] ∧
    [name, gl, nondet, x, root, vm, run] = ["f", "gl", "nondet", "x", "gl", "vm", "run_nondet"] ∧
    isAsync = false ∧ signature = {} ∧ parameters = {} ∧ value = 0
  | _ => false

theorem eq_hostModule {module : Module} (isHost : isHostModule module = true) :
    module = hostModule := by
  unfold isHostModule at isHost
  split at isHost
  · obtain ⟨callPlaces, blockPlaces, names, rfl, rfl, rfl, rfl⟩ := of_decide_eq_true isHost
    simp only [List.replicate, List.cons_append, List.nil_append, List.cons.injEq, and_true]
      at callPlaces blockPlaces names
    obtain ⟨rfl, rfl, rfl, rfl, rfl, rfl⟩ := callPlaces
    obtain ⟨rfl, rfl, rfl, rfl, rfl, rfl, rfl⟩ := blockPlaces
    obtain ⟨rfl, rfl, rfl, rfl, rfl, rfl, rfl⟩ := names
    rfl
  · cases isHost

theorem hostText_parsed : parse hostText = .ok hostModule := by
  have found : (parse hostText).toOption.any isHostModule = true := by decide +kernel
  obtain ⟨module, parsed, isHost⟩ := exists_parsed found
  obtain rfl := eq_hostModule isHost
  exact parsed

def hostAbove (line : Node) : List Node := [line, hostFunction]

theorem hostLine_occurs {pos : Pos} {value : Node}
    (member : .expression pos value ∈ hostFunction.children) :
    (hostAbove (.expression pos value), value) ∈ hostModule.occurrences := by
  have root : ([], hostFunction) ∈ hostModule.occurrences :=
    Module.occurrences_root List.mem_cons_self
  exact Module.occurrences_inner (Module.occurrences_inner root member) List.mem_cons_self

theorem hostCall_occurs :
    (hostAbove (.expression ⟨1, 8⟩ hostCall), hostCall) ∈ hostModule.occurrences :=
  hostLine_occurs (by simp [hostFunction, Node.children])

theorem hostBlock_occurs :
    (hostAbove (.expression ⟨1, 22⟩ hostBlock), hostBlock) ∈ hostModule.occurrences :=
  hostLine_occurs (by simp [hostFunction, Node.children])

theorem hostModule_calls {above : List Node} {pos : Pos} {callee : Node}
    {args keywords : List Node}
    (occurs : (above, .call pos callee args keywords) ∈ hostModule.occurrences) :
    lambdaAround above = none ∧ ∀ argument ∈ args, argument = hostLambda := by
  simp [hostModule, hostFunction, hostBlock, hostCall, hostOpener, hostLambda, Module.occurrences,
    Module.walk, Node.walk_eq, Node.children] at occurs
  rcases occurs with ⟨rfl, _, _, rfl, _⟩ | ⟨rfl, _, _, rfl, _⟩
  · exact ⟨rfl, by simp⟩
  · exact ⟨rfl, by simp [hostLambda]⟩

theorem hostModule_undecorated {above : List Node} {pos : Pos} {isAsync : Bool} {own : String}
    {signature : Signature} {parts body decorators : List Node} {returns : Option Node}
    (occurs : (above, .functionDef pos isAsync own signature parts body decorators returns) ∈
      hostModule.occurrences) : decorators = [] := by
  simp [hostModule, hostFunction, hostBlock, hostCall, hostOpener, hostLambda, Module.occurrences,
    Module.walk, Node.walk_eq, Node.children] at occurs
  exact occurs.2.2.2.2.2.2.2.1

theorem hostModule_not_runsInBlock (function : String) : ¬RunsInBlock hostModule function := by
  have handed : ∀ {above argument}, HandsOver hostModule above argument →
      argument = hostLambda := by
    rintro above argument ⟨pos, callee, args, keywords, occurs, isArgument⟩
    exact (hostModule_calls occurs).2 argument (mem_of_mem_blockArguments isArgument)
  intro runs
  induction runs with
  | call _ _ ih => exact ih
  | source isSource =>
      rcases isSource with registered | called
      · cases registered with
        | nested hands => cases handed hands
        | bare hands => cases handed hands
        | method hands => cases handed hands
        | dotted hands => cases handed hands
        | decorated occurs strict =>
            rw [hostModule_undecorated occurs] at strict
            cases strict
      · cases called with
        | call stage inBody =>
            have occurs := List.mem_map_of_mem (f := (·.2)) stage
            rw [map_stagesOf] at occurs
            exact inBody.inLambda.inside (hostModule_calls occurs).1

theorem hostOpener_spelled : dottedName hostOpener = some "gl.vm.run_nondet" := by
  decide

theorem hostModule_isReached : isReached hostModule "f" = true := by
  have opens : hostLambda ∈ blockArguments hostOpener [hostLambda] := by
    simp [blockArguments, fullCallName?_eq, hostOpener_spelled, blockOpeners]
  have host : LambdaHost hostModule "f" := .host ⟨_, _, _, _, hostBlock_occurs, opens⟩ rfl
  refine CallGraph.reaches_iff.mpr (.source ?_)
  exact List.mem_append_right _ (EntryPoints.mem_lambdaScopes_iff.mpr host)

theorem hostBlock_performs : Performs hostModule (hostAbove (.expression ⟨1, 22⟩ hostBlock))
    (.nestedBlock "gl.vm.run_nondet") ⟨1, 22⟩ := by
  refine ⟨hostBlock, hostBlock_occurs, List.mem_map.mpr ⟨.nestedBlock "gl.vm.run_nondet", ?_, rfl⟩⟩
  simp [callOperations, fullCallName?_eq, hostOpener_spelled, nestedOpeners]

theorem hostBlock_reported :
    findingAt (.forbiddenOperation (.nestedBlock "gl.vm.run_nondet") "f") ⟨1, 22⟩ ∈
      findingsIn forbiddenOperations hostText := by
  rw [findingsIn_eq hostText_parsed]
  exact (forbidden_iff_isReached hostBlock_performs rfl).mpr hostModule_isReached

theorem hostCall_calls :
    CallsNondet hostModule (hostAbove (.expression ⟨1, 8⟩ hostCall)) ⟨1, 8⟩ :=
  ⟨_, _, _, hostCall_occurs, by decide⟩

/-- The rule on forbidden operations reports exactly the operations in functions that calls lead
to from what is registered by name or from the hosts of lambdas. So it keeps to the operations that
run in blocks exactly when every operation below a host runs in one. -/
theorem forbiddenOperations_confined_iff {source : String} {module : Module}
    (parsed : parse source = .ok module) :
    (∀ finding, finding ∈ findingsIn forbiddenOperations source ↔
      ∃ above operation pos function, Performs module above operation pos ∧
        functionAround above = some function ∧
        ((CallGraph.ofModule module).Reach (Registered module) function ∨
          BelowHost module function) ∧
        finding = findingAt (.forbiddenOperation operation function) pos) ∧
    ((∀ above operation pos function, Performs module above operation pos →
        functionAround above = some function →
        findingAt (.forbiddenOperation operation function) pos ∈
          findingsIn forbiddenOperations source →
        InHandedLambda above ∨ RunsInBlock module function) ↔
      ∀ above operation pos function, Performs module above operation pos →
        functionAround above = some function → BelowHost module function →
        InHandedLambda above ∨ RunsInBlock module function) := by
  have formed := parse_formed parsed
  rw [findingsIn_eq parsed]
  have reached : ∀ {above operation pos function}, Performs module above operation pos →
      functionAround above = some function → (isReached module function = true ↔
        (CallGraph.ofModule module).Reach (Registered module) function ∨
          BelowHost module function) :=
    fun ⟨_, occurs, _⟩ around => reaches_entryPoints_iff formed occurs around
  refine ⟨fun finding => ?_, ?_, ?_⟩
  · rw [mem_forbiddenOperations_iff]
    constructor
    · rintro ⟨above, operation, pos, function, performs, around, isReached, same⟩
      exact ⟨above, operation, pos, function, performs, around,
        (reached performs around).mp isReached, same⟩
    · rintro ⟨above, operation, pos, function, performs, around, below, same⟩
      exact ⟨above, operation, pos, function, performs, around,
        (reached performs around).mpr below, same⟩
  · intro confined above operation pos function performs around below
    refine confined above operation pos function performs around ?_
    exact (forbidden_iff_isReached performs around).mpr
      ((reached performs around).mpr (.inr below))
  · intro hosts above operation pos function performs around reported
    have isReached := (forbidden_iff_isReached performs around).mp reported
    rcases (reached performs around).mp isReached with registered | below
    · exact .inr (.of_registered registered)
    · exact hosts above operation pos function performs around below

theorem forbiddenOperations_confined_host : parse hostText = .ok hostModule ∧
    ∃ above operation pos function, Performs hostModule above operation pos ∧
      functionAround above = some function ∧
      ((CallGraph.ofModule hostModule).Reach (Registered hostModule) function ∨
        BelowHost hostModule function) ∧
      findingAt (.forbiddenOperation (.nestedBlock "gl.vm.run_nondet") "f") ⟨1, 22⟩ =
        findingAt (.forbiddenOperation operation function) pos := by
  exact ⟨hostText_parsed,
    ((forbiddenOperations_confined_iff hostText_parsed).1 _).mp hostBlock_reported⟩

theorem opening_call_reported : parse hostText = .ok hostModule ∧
    Performs hostModule (hostAbove (.expression ⟨1, 22⟩ hostBlock))
      (.nestedBlock "gl.vm.run_nondet") ⟨1, 22⟩ ∧
    functionAround (hostAbove (.expression ⟨1, 22⟩ hostBlock)) = some "f" ∧
    findingAt (.forbiddenOperation (.nestedBlock "gl.vm.run_nondet") "f") ⟨1, 22⟩ ∈
      findingsIn forbiddenOperations hostText ∧
    ¬InHandedLambda (hostAbove (.expression ⟨1, 22⟩ hostBlock)) ∧ ¬RunsInBlock hostModule "f" := by
  exact ⟨hostText_parsed, hostBlock_performs, rfl, hostBlock_reported,
    fun handed => handed.inside rfl, hostModule_not_runsInBlock "f"⟩

/-- The rule on non-deterministic calls reports those at module level, and in a function exactly if
calls lead to it neither from what is registered by name nor from the hosts of lambdas. So it
reports every call in a function that does not run in a block exactly when no host, and nothing
called from one, is such a function. -/
theorem looseCalls_complete_iff {source : String} {module : Module}
    (parsed : parse source = .ok module) :
    (∀ above pos, CallsNondet module above pos → lambdaAround above = none →
      functionAround above = none →
      findingAt .looseCallInModule pos ∈ findingsIn looseCalls source) ∧
    (∀ above pos function, CallsNondet module above pos → functionFirst above = true →
      functionAround above = some function →
      (findingAt (.looseCall function) pos ∈ findingsIn looseCalls source ↔
        ¬(CallGraph.ofModule module).Reach (Registered module) function ∧
          ¬BelowHost module function)) ∧
    ((∀ above pos function, CallsNondet module above pos → functionFirst above = true →
        functionAround above = some function → ¬RunsInBlock module function →
        findingAt (.looseCall function) pos ∈ findingsIn looseCalls source) ↔
      ∀ above pos function, CallsNondet module above pos → functionFirst above = true →
        functionAround above = some function → BelowHost module function →
        RunsInBlock module function) := by
  have formed := parse_formed parsed
  rw [findingsIn_eq parsed]
  have reported : ∀ {above pos function}, CallsNondet module above pos →
      functionFirst above = true → functionAround above = some function →
      (findingAt (.looseCall function) pos ∈ looseCalls module ↔
        ¬(CallGraph.ofModule module).Reach (Registered module) function ∧
          ¬BelowHost module function) := by
    intro above pos function calls first around
    obtain ⟨_, _, _, occurs, _⟩ := id calls
    have outside := lambdaAround_of_functionFirst formed occurs first
    rw [loose_iff_not_isReached calls (nondetScope_of_outside outside ▸ around),
      ← Bool.not_eq_true, ← not_or]
    exact not_congr (reaches_entryPoints_iff formed occurs around)
  refine ⟨?_, fun above pos function calls first around => reported calls first around, ?_, ?_⟩
  · intro above pos calls outside around
    refine mem_looseCalls_iff.mpr ⟨above, pos, calls, .inl ⟨?_, rfl⟩⟩
    rw [nondetScope_of_outside outside, around]
  · intro complete above pos function calls first around below
    by_contra runs
    exact ((reported calls first around).mp
      (complete above pos function calls first around runs)).2 below
  · intro hosts above pos function calls first around runs
    refine (reported calls first around).mpr ⟨fun registered => ?_, fun below => ?_⟩
    · exact runs (.of_registered registered)
    · exact runs (hosts above pos function calls first around below)

theorem looseCalls_complete_host : parse hostText = .ok hostModule ∧
    (findingAt (.looseCall "f") ⟨1, 8⟩ ∈ findingsIn looseCalls hostText ↔
      ¬(CallGraph.ofModule hostModule).Reach (Registered hostModule) "f" ∧
        ¬BelowHost hostModule "f") :=
  ⟨hostText_parsed,
    (looseCalls_complete_iff hostText_parsed).2.1 _ _ _ hostCall_calls rfl rfl⟩

theorem own_call_not_reported : parse hostText = .ok hostModule ∧
    CallsNondet hostModule (hostAbove (.expression ⟨1, 8⟩ hostCall)) ⟨1, 8⟩ ∧
    functionFirst (hostAbove (.expression ⟨1, 8⟩ hostCall)) = true ∧
    functionAround (hostAbove (.expression ⟨1, 8⟩ hostCall)) = some "f" ∧
    ¬RunsInBlock hostModule "f" ∧
    findingAt (.looseCall "f") ⟨1, 8⟩ ∉ findingsIn looseCalls hostText := by
  refine ⟨hostText_parsed, hostCall_calls, rfl, rfl, hostModule_not_runsInBlock "f", ?_⟩
  rw [findingsIn_eq hostText_parsed]
  intro reported
  have notReached : isReached hostModule "f" = false :=
    (loose_iff_not_isReached hostCall_calls rfl).mp reported
  rw [hostModule_isReached] at notReached
  cases notReached

end ContractLint.Lint
