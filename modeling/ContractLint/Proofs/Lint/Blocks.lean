import ContractLint.Proofs.Lint.FullNames
import ContractLint.Proofs.Lint.Reachability

/-! What runs in non-deterministic blocks: the functions that are handed to a block, the functions
that hand a lambda to one, and what calls lead to from them. -/

namespace ContractLint.Lint

open Source

/-- A call below the nodes `above` hands the argument to a block that it opens. -/
def HandsOver (module : Module) (above : List Node) (argument : Node) : Prop :=
  ∃ pos callee args keywords, (above, .call pos callee args keywords) ∈ module.occurrences ∧
    argument ∈ blockArguments callee args

/-- The functions that are handed to a block by name, or that a decorator puts into one. -/
inductive Registered (module : Module) : String → Prop
  | nested {above pos id function} : HandsOver module above (.name pos id) →
      functionAround above = some function → Registered module (function ++ ".<locals>." ++ id)
  | bare {above pos id} : HandsOver module above (.name pos id) → Registered module id
  | method {above pos place attr className} :
      HandsOver module above (.attribute pos (.name place "self") attr) →
      classAround above = some className → Registered module (className ++ "." ++ attr)
  | dotted {above pos value attr name} : HandsOver module above (.attribute pos value attr) →
      (∀ place, value ≠ .name place "self") → dottedName (.attribute pos value attr) = some name →
      Registered module name
  | decorated {above pos isAsync own signature parts body decorators returns} :
      (above, .functionDef pos isAsync own signature parts body decorators returns) ∈
        module.occurrences →
      decorators.any isStrictDecorator = true →
      Registered module ((scopeAround above).qualify own)

inductive HandedLambda (module : Module) : String → Prop
  | lambda {above pos signature parts body} :
      HandsOver module above (.lambda pos signature parts body) →
      HandedLambda module (lambdaName pos)

inductive LambdaHost (module : Module) : String → Prop
  | host {above pos signature parts body function} :
      HandsOver module above (.lambda pos signature parts body) →
      functionAround above = some function → LambdaHost module function

theorem mem_of_mem_blockArguments {callee argument : Node} {args : List Node}
    (member : argument ∈ blockArguments callee args) : argument ∈ args := by
  unfold blockArguments at member
  split at member
  next =>
    obtain ⟨place, _, found⟩ := List.mem_filterMap.mp member
    exact List.mem_of_getElem? found
  next => cases member

theorem mem_foldl_iff {σ ι : Type} {view : σ → List String} {step : σ → ι → σ}
    {adds : ι → String → Prop}
    (each : ∀ state item name, name ∈ view (step state item) ↔ name ∈ view state ∨ adds item name)
    (items : List ι) (state : σ) (name : String) :
    name ∈ view (items.foldl step state) ↔ name ∈ view state ∨ ∃ item ∈ items, adds item name := by
  induction items generalizing state with
  | nil => simp
  | cons item rest ih =>
      rw [List.foldl_cons, ih, each]
      simp only [List.exists_mem_cons_iff]
      exact or_assoc

def argumentNames (scope : Scope) : Node → List String
  | .name _ id => (scope.function.map (· ++ ".<locals>." ++ id)).toList ++ [id]
  | .attribute _ (.name _ "self") attr => (scope.className.map (· ++ "." ++ attr)).toList
  | .attribute pos value attr => (dottedName (.attribute pos value attr)).toList
  | .lambda pos _ _ _ => [lambdaName pos]
  | _ => []

def argumentHosts (scope : Scope) : Node → List String
  | .lambda _ _ _ _ => scope.function.toList
  | _ => []

theorem EntryPoints.mem_functions_addArgument (scope : Scope) (points : EntryPoints)
    (argument : Node) (name : String) :
    name ∈ (points.addArgument scope argument).functions ↔
      name ∈ points.functions ∨ name ∈ argumentNames scope argument := by
  unfold EntryPoints.addArgument argumentNames EntryPoints.addFunction
  split
  next =>
    cases scope.function with
    | none => simp [mem_insertNew]
    | some function => simp [mem_insertNew, or_assoc]
  next => cases scope.className <;> simp [mem_insertNew]
  next pos value attr _ =>
    rw [climbedName_eq]
    cases spelled : dottedName (.attribute pos value attr) with
    | none => simp [spelled]
    | some found => simp [mem_insertNew, spelled]
  next => cases scope.function <;> simp [mem_insertNew]
  next => simp

theorem EntryPoints.mem_lambdaScopes_addArgument (scope : Scope) (points : EntryPoints)
    (argument : Node) (name : String) :
    name ∈ (points.addArgument scope argument).lambdaScopes ↔
      name ∈ points.lambdaScopes ∨ name ∈ argumentHosts scope argument := by
  unfold EntryPoints.addArgument argumentHosts EntryPoints.addFunction
  split
  next => cases scope.function <;> simp
  next => cases scope.className <;> simp
  next pos value attr _ =>
    rw [climbedName_eq]
    cases dottedName (.attribute pos value attr) <;> simp
  next => cases scope.function <;> simp [mem_insertNew]
  next => simp

def registeredAt : List Node × Node → List String
  | (above, .functionDef _ _ own _ _ _ decorators _) =>
    if decorators.any isStrictDecorator then [(scopeAround above).qualify own] else []
  | (above, .call _ callee args _) =>
    (blockArguments callee args).flatMap (argumentNames (scopeAround above))
  | _ => []

def hostsAt : List Node × Node → List String
  | (above, .call _ callee args _) =>
    (blockArguments callee args).flatMap (argumentHosts (scopeAround above))
  | _ => []

def EntryPoints.visitAt (points : EntryPoints) (occurrence : List Node × Node) : EntryPoints :=
  points.visit (scopeAround occurrence.1) occurrence.2

theorem EntryPoints.ofModule_eq (module : Module) :
    EntryPoints.ofModule module = module.occurrences.foldl EntryPoints.visitAt {} := by
  rw [EntryPoints.ofModule, walk_enter, List.foldl_map]
  rfl

theorem EntryPoints.mem_functions_visitAt (points : EntryPoints) (occurrence : List Node × Node)
    (name : String) : name ∈ (points.visitAt occurrence).functions ↔
      name ∈ points.functions ∨ name ∈ registeredAt occurrence := by
  obtain ⟨above, node⟩ := occurrence
  cases node with
  | functionDef =>
      simp only [EntryPoints.visitAt, EntryPoints.visit, registeredAt]
      split
      · simp [EntryPoints.addFunction, mem_insertNew]
      · simp
  | call pos callee args keywords =>
      simp only [EntryPoints.visitAt, EntryPoints.visit, registeredAt, List.mem_flatMap]
      exact mem_foldl_iff (EntryPoints.mem_functions_addArgument _) _ points name
  | _ => simp [EntryPoints.visitAt, EntryPoints.visit, registeredAt]

theorem EntryPoints.mem_lambdaScopes_visitAt (points : EntryPoints)
    (occurrence : List Node × Node) (name : String) :
    name ∈ (points.visitAt occurrence).lambdaScopes ↔
      name ∈ points.lambdaScopes ∨ name ∈ hostsAt occurrence := by
  obtain ⟨above, node⟩ := occurrence
  cases node with
  | functionDef =>
      simp only [EntryPoints.visitAt, EntryPoints.visit, hostsAt]
      split <;> simp [EntryPoints.addFunction]
  | call pos callee args keywords =>
      simp only [EntryPoints.visitAt, EntryPoints.visit, hostsAt, List.mem_flatMap]
      exact mem_foldl_iff (EntryPoints.mem_lambdaScopes_addArgument _) _ points name
  | _ => simp [EntryPoints.visitAt, EntryPoints.visit, hostsAt]

theorem registered_of_argument {module : Module} {above : List Node} {argument : Node}
    {name : String} (handed : HandsOver module above argument)
    (named : name ∈ argumentNames (scopeAround above) argument) :
    Registered module name ∨ HandedLambda module name := by
  unfold argumentNames at named
  split at named
  next =>
    rcases List.mem_append.mp named with nested | bare
    · obtain ⟨function, around, rfl⟩ := Option.map_eq_some_iff.mp (Option.mem_toList.mp nested)
      exact .inl (.nested handed around)
    · rw [List.mem_singleton.mp bare]
      exact .inl (.bare handed)
  next =>
    obtain ⟨className, around, rfl⟩ := Option.map_eq_some_iff.mp (Option.mem_toList.mp named)
    exact .inl (.method handed around)
  next pos value attr notSelf =>
    exact .inl (.dotted handed (fun place same => notSelf place same) (Option.mem_toList.mp named))
  next =>
    rw [List.mem_singleton.mp named]
    exact .inr (.lambda handed)
  next => cases named

theorem exists_registeredAt {module : Module} {above : List Node} {argument : Node} {name : String}
    (handed : HandsOver module above argument)
    (named : name ∈ argumentNames (scopeAround above) argument) :
    ∃ occurrence ∈ module.occurrences, name ∈ registeredAt occurrence := by
  obtain ⟨pos, callee, args, keywords, occurs, isArgument⟩ := handed
  exact ⟨_, occurs, List.mem_flatMap.mpr ⟨argument, isArgument, named⟩⟩

theorem argumentNames_of_notSelf {scope : Scope} {pos : Pos} {value : Node} {attr : String}
    (notSelf : ∀ place, value ≠ .name place "self") :
    argumentNames scope (.attribute pos value attr) =
      (dottedName (.attribute pos value attr)).toList := by
  rw [argumentNames]
  exact notSelf

theorem EntryPoints.mem_functions_iff {module : Module} {name : String} :
    name ∈ (EntryPoints.ofModule module).functions ↔
      Registered module name ∨ HandedLambda module name := by
  rw [EntryPoints.ofModule_eq, mem_foldl_iff EntryPoints.mem_functions_visitAt]
  simp only [List.not_mem_nil, false_or]
  constructor
  · rintro ⟨⟨above, node⟩, occurs, listed⟩
    cases node with
    | functionDef =>
        simp only [registeredAt] at listed
        split at listed
        next strict =>
          rw [List.mem_singleton.mp listed]
          exact .inl (.decorated occurs strict)
        next => cases listed
    | call pos callee args keywords =>
        obtain ⟨argument, isArgument, named⟩ := List.mem_flatMap.mp listed
        exact registered_of_argument ⟨pos, callee, args, keywords, occurs, isArgument⟩ named
    | _ => cases listed
  · rintro (registered | isLambda)
    · cases registered with
      | nested handed around =>
          exact exists_registeredAt handed (by simp [argumentNames, scopeAround, around])
      | bare handed => exact exists_registeredAt handed (by simp [argumentNames])
      | method handed around =>
          exact exists_registeredAt handed (by simp [argumentNames, scopeAround, around])
      | dotted handed notSelf spelled =>
          exact exists_registeredAt handed (by simp [argumentNames_of_notSelf notSelf, spelled])
      | decorated occurs strict => exact ⟨_, occurs, by simp [registeredAt, strict]⟩
    · cases isLambda with
      | lambda handed => exact exists_registeredAt handed (by simp [argumentNames])

theorem EntryPoints.mem_lambdaScopes_iff {module : Module} {name : String} :
    name ∈ (EntryPoints.ofModule module).lambdaScopes ↔ LambdaHost module name := by
  rw [EntryPoints.ofModule_eq, mem_foldl_iff EntryPoints.mem_lambdaScopes_visitAt]
  simp only [List.not_mem_nil, false_or]
  constructor
  · rintro ⟨⟨above, node⟩, occurs, listed⟩
    cases node with
    | call pos callee args keywords =>
        obtain ⟨argument, isArgument, hosted⟩ := List.mem_flatMap.mp listed
        cases argument with
        | lambda =>
            exact .host ⟨pos, callee, args, keywords, occurs, isArgument⟩
              (Option.mem_toList.mp hosted)
        | _ => cases hosted
    | _ => cases listed
  · rintro ⟨⟨pos, callee, args, keywords, occurs, isArgument⟩, around⟩
    refine ⟨_, occurs, List.mem_flatMap.mpr ⟨_, isArgument, ?_⟩⟩
    simp [argumentHosts, scopeAround, around]

theorem reaches_entryPoints_iff {module : Module} (formed : module.Formed) {above : List Node}
    {node : Node} (occurs : (above, node) ∈ module.occurrences) {function : String}
    (around : functionAround above = some function) :
    (CallGraph.ofModule module).reaches (EntryPoints.ofModule module).all function = true ↔
      (CallGraph.ofModule module).Reach (Registered module) function ∨
        (CallGraph.ofModule module).Reach (LambdaHost module) function := by
  have sources : (· ∈ (EntryPoints.ofModule module).all) =
      fun name => (Registered module name ∨ HandedLambda module name) ∨ LambdaHost module name := by
    funext name
    rw [EntryPoints.all, List.mem_append, EntryPoints.mem_functions_iff,
      EntryPoints.mem_lambdaScopes_iff]
  rw [CallGraph.reaches_iff, sources, CallGraph.Reach.or_iff, CallGraph.Reach.or_iff]
  -- A handed lambda has a name that no function has: the graph holds no calls of it, and it is not
  -- the function asked for.
  have noLambda : ¬(CallGraph.ofModule module).Reach (HandedLambda module) function := by
    intro reached
    have isLambda := reached.of_absent fun name isLambda defined => by
      rw [CallGraph.mem_names_ofModule] at defined
      cases isLambda with
      | lambda =>
          exact lambdaName_bracketed _ (definedFunctions_unbracketed formed _ defined)
    cases isLambda with
    | lambda =>
        exact lambdaName_bracketed _ (functionAround_unbracketed formed occurs _ around)
  simp only [noLambda, or_false]

end ContractLint.Lint
