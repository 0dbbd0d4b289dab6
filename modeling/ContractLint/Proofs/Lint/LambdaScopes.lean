import ContractLint.Proofs.Lint.Hosts
import ContractLint.Proofs.Lint.StatementOrder

/-! Lambdas as scopes of their own. The rule on non-deterministic calls names the innermost lambda
around a call and asks whether a block reaches it; calls never lead to a lambda, so a block reaches
it only if it is handed over itself, whatever function it stands in. -/

namespace ContractLint.Lint

open Source Text

theorem lambdaName_injective {first second : Pos}
    (same : lambdaName first = lambdaName second) : first = second := by
  have chars : Nat.toDigits 10 first.line ++ ':' :: (Nat.toDigits 10 first.column ++ ['>']) =
      Nat.toDigits 10 second.line ++ ':' :: (Nat.toDigits 10 second.column ++ ['>']) := by
    simpa [lambdaName] using congrArg String.toList same
  obtain ⟨lines, further⟩ := append_mark_inj (mark_notMem_toDigits rfl _)
    (mark_notMem_toDigits rfl _) chars
  have columns := List.append_cancel_right further
  cases first
  cases second
  rw [Pos.mk.injEq]
  exact ⟨toDigits_injective lines, toDigits_injective columns⟩

theorem mem_joinParts {parts : List String} {c : Char} (member : c ∈ (joinParts parts).toList) :
    c = '.' ∨ ∃ part ∈ parts, c ∈ part.toList := by
  unfold joinParts at member
  induction parts with
  | nil => cases member
  | cons part rest ih =>
      cases rest with
      | nil => exact .inr ⟨part, List.mem_cons_self, by simpa using member⟩
      | cons next rest =>
          rw [String.intercalate_cons_cons, String.toList_append, String.toList_append,
            List.mem_append, List.mem_append] at member
          rcases member with (inPart | isDot) | inRest
          · exact .inr ⟨part, List.mem_cons_self, inPart⟩
          · exact .inl (List.mem_singleton.mp isDot)
          · refine (ih inRest).imp_right ?_
            rintro ⟨later, isLater, inLater⟩
            exact ⟨later, List.mem_cons_of_mem _ isLater, inLater⟩

theorem bracket_notMem_of_word {name : String} (word : IsWord name.toList) : '<' ∉ name.toList := by
  intro member
  exact absurd (word '<' member) (by decide)

theorem unbracketed_of_notMem {name : String} (absent : '<' ∉ name.toList) : Unbracketed name :=
  fun bracketed => absent (List.mem_of_mem_head? bracketed)

theorem HandsOver.argument_occurs {module : Module} {above : List Node} {argument : Node}
    (handed : HandsOver module above argument) :
    ∃ call, (call :: above, argument) ∈ module.occurrences := by
  obtain ⟨pos, callee, args, keywords, occurs, isArgument⟩ := handed
  refine ⟨_, Module.occurrences_inner occurs ?_⟩
  simp [Node.children, mem_of_mem_blockArguments isArgument]

section

variable {module : Module} (formed : module.Formed)

include formed

theorem trailingParts_words {above : List Node} {node : Node}
    (occurs : (above, node) ∈ module.occurrences) :
    ∀ part ∈ trailingParts node, IsWord part.toList := by
  fun_induction trailingParts node generalizing above with
  | case1 pos id =>
      intro part member
      rw [List.mem_singleton.mp member]
      exact (formed.fits occurs).named
  | case2 pos value attr ih =>
      intro part member
      rcases List.mem_append.mp member with inner | last
      · exact ih (Module.occurrences_inner occurs List.mem_cons_self) part inner
      · rw [List.mem_singleton.mp last]
        exact (formed.fits occurs).named
  | case3 => simp

theorem bracket_notMem_calledName {above : List Node} {node : Node}
    (occurs : (above, node) ∈ module.occurrences) : '<' ∉ (calledName node).toList := by
  intro member
  rcases mem_joinParts member with isDot | ⟨part, isPart, inPart⟩
  · exact absurd isDot (by decide)
  · exact bracket_notMem_of_word (trailingParts_words formed occurs part isPart) inPart

theorem dottedName_unbracketed {above : List Node} {node : Node}
    (occurs : (above, node) ∈ module.occurrences) {name : String}
    (spelled : dottedName node = some name) : Unbracketed name := by
  rw [dottedName_eq, Option.map_eq_some_iff] at spelled
  obtain ⟨parts, named, rfl⟩ := spelled
  rw [← trailingParts_eq named]
  exact unbracketed_of_notMem (bracket_notMem_calledName formed occurs)

theorem Registered.unbracketed {name : String} (registered : Registered module name) :
    Unbracketed name := by
  cases registered with
  | nested handed around =>
      obtain ⟨call, occurs⟩ := handed.argument_occurs
      obtain ⟨_, _, _, _, occursCall, _⟩ := handed
      have outer := functionAround_unbracketed formed occursCall _ around
      exact (outer.append unbracketed_locals).append
        (unbracketed_of_word (formed.fits occurs).named)
  | bare handed =>
      obtain ⟨call, occurs⟩ := handed.argument_occurs
      exact unbracketed_of_word (formed.fits occurs).named
  | method handed around =>
      obtain ⟨call, occurs⟩ := handed.argument_occurs
      obtain ⟨_, _, _, _, occursCall, _⟩ := handed
      have outer := classAround_unbracketed formed occursCall _ around
      exact (outer.append unbracketed_point).append
        (unbracketed_of_word (formed.fits occurs).named)
  | dotted handed _ spelled =>
      obtain ⟨call, occurs⟩ := handed.argument_occurs
      exact dottedName_unbracketed formed occurs spelled
  | decorated occurs =>
      exact definedFunctions_unbracketed formed _ (List.mem_filterMap.mpr ⟨_, occurs, rfl⟩)

theorem LambdaHost.unbracketed {name : String} (hosts : LambdaHost module name) :
    Unbracketed name := by
  cases hosts with
  | host handed around =>
      obtain ⟨_, _, _, _, occurs, _⟩ := handed
      exact functionAround_unbracketed formed occurs _ around

theorem CallGraph.target_cases {graph : CallGraph} {above : List Node} {node callee : Node}
    (occurs : (above, node) ∈ module.occurrences) (isChild : callee ∈ node.children)
    {target : String} (refers : graph.target (scopeAround above) callee = some target) :
    (∃ function id, functionAround above = some function ∧ IsWord id.toList ∧
      target = function ++ ".<locals>." ++ id ∧ target ∈ graph.names) ∨ '<' ∉ target.toList := by
  have inside := Module.occurrences_inner occurs isChild
  have own := (formed.fits inside).named
  unfold CallGraph.target at refers
  split at refers
  next pos id =>
    have absent := bracket_notMem_of_word own
    split at refers
    next function around =>
      dsimp only at refers
      split at refers
      next known =>
        cases refers
        exact .inl ⟨function, id, around, own, rfl, List.contains_iff_mem.mp known⟩
      next =>
        cases refers
        exact .inr absent
    next =>
      cases refers
      exact .inr absent
  next pos place attr =>
    split at refers
    next className around =>
      cases refers
      have outer := classAround_word formed.namedByWords occurs className around
      right
      simp [bracket_notMem_of_word outer, bracket_notMem_of_word own]
    next =>
      cases refers
      exact .inr (bracket_notMem_calledName formed inside)
  next =>
    cases refers
    exact .inr (bracket_notMem_calledName formed inside)
  next => cases refers

theorem CallGraph.target_unbracketed {graph : CallGraph} {above : List Node} {node callee : Node}
    (occurs : (above, node) ∈ module.occurrences) (isChild : callee ∈ node.children)
    {target : String} (refers : graph.target (scopeAround above) callee = some target) :
    Unbracketed target := by
  rcases CallGraph.target_cases formed occurs isChild refers with
    ⟨function, id, around, word, rfl, _⟩ | absent
  · have outer := functionAround_unbracketed formed occurs function around
    exact (outer.append unbracketed_locals).append (unbracketed_of_word word)
  · exact unbracketed_of_notMem absent

theorem CallGraph.calls_unbracketed {caller callee : String}
    (calls : (CallGraph.ofModule module).Calls caller callee) : Unbracketed callee := by
  rw [CallGraph.calls_ofModule] at calls
  obtain ⟨⟨graph, above, node⟩, isStage, added⟩ := List.mem_filterMap.mp calls
  have occurs := List.mem_map_of_mem (f := (·.2)) isStage
  rw [map_stagesOf] at occurs
  cases node with
  | functionDef =>
      obtain ⟨outer, _, same⟩ := Option.map_eq_some_iff.mp added
      cases same
      exact definedFunctions_unbracketed formed _ (List.mem_filterMap.mpr ⟨_, occurs, rfl⟩)
  | call =>
      obtain ⟨function, _, found⟩ := Option.bind_eq_some_iff.mp added
      obtain ⟨target, refers, same⟩ := Option.map_eq_some_iff.mp found
      cases same
      exact CallGraph.target_unbracketed formed occurs List.mem_cons_self refers
  | _ => cases added

end

/-- A lambda at the place is handed to a block. -/
def HandedAt (module : Module) (place : Pos) : Prop :=
  ∃ above signature parts body, HandsOver module above (.lambda place signature parts body)

def lambdaPlace? : Node → Option Pos
  | .lambda pos _ _ _ => some pos
  | _ => none

def placesHanded : Node → List Pos
  | .call _ callee args _ => (blockArguments callee args).filterMap lambdaPlace?
  | _ => []

theorem handedAt_iff {module : Module} {place : Pos} : HandedAt module place ↔
    ∃ occurrence ∈ module.occurrences, place ∈ placesHanded occurrence.2 := by
  constructor
  · rintro ⟨above, _, _, _, pos, callee, args, keywords, occurs, isArgument⟩
    exact ⟨_, occurs, List.mem_filterMap.mpr ⟨_, isArgument, rfl⟩⟩
  · rintro ⟨⟨above, node⟩, occurs, member⟩
    cases node with
    | call =>
        obtain ⟨argument, isArgument, isPlace⟩ := List.mem_filterMap.mp member
        cases argument with
        | lambda =>
            cases isPlace
            exact ⟨above, _, _, _, _, _, _, _, occurs, isArgument⟩
        | _ => cases isPlace
    | _ => cases member

instance (module : Module) (place : Pos) : Decidable (HandedAt module place) :=
  decidable_of_iff _ handedAt_iff.symm

theorem handedLambda_lambdaName_iff {module : Module} {place : Pos} :
    HandedLambda module (lambdaName place) ↔ HandedAt module place := by
  constructor
  · generalize named : lambdaName place = name
    rintro ⟨handed⟩
    rw [lambdaName_injective named]
    exact ⟨_, _, _, _, handed⟩
  · rintro ⟨_, _, _, _, handed⟩
    exact .lambda handed

theorem isReached_lambdaName_iff {module : Module} (formed : module.Formed) {place : Pos} :
    isReached module (lambdaName place) = true ↔ HandedAt module place := by
  have bracketed := lambdaName_bracketed place
  rw [isReached, CallGraph.reaches_iff, ← handedLambda_lambdaName_iff]
  constructor
  · -- A path of calls to the lambda would have to begin at it: nothing else leads to its name.
    generalize lambdaName place = name at bracketed
    intro reached
    cases reached with
    | source listed =>
        rw [EntryPoints.all, List.mem_append, EntryPoints.mem_functions_iff,
          EntryPoints.mem_lambdaScopes_iff] at listed
        rcases listed with (registered | isLambda) | hosts
        · exact absurd (registered.unbracketed formed) bracketed
        · exact isLambda
        · exact absurd (hosts.unbracketed formed) bracketed
    | call _ called => exact absurd (CallGraph.calls_unbracketed formed called) bracketed
  · intro isLambda
    refine .source (List.mem_append_left _ ?_)
    exact EntryPoints.mem_functions_iff.mpr (.inr isLambda)

theorem nondetScope_of_lambda {module : Module} (formed : module.Formed) {above : List Node}
    {node : Node} (occurs : (above, node) ∈ module.occurrences) {place : Pos}
    (inside : lambdaAround above = some place) : nondetScope above = some (lambdaName place) := by
  rw [nondetScope, contextBelow_enterLambdas_of_lambda formed occurs inside]

theorem loose_lambda_iff {source : String} {module : Module} (parsed : parse source = .ok module)
    {above : List Node} {pos place : Pos} (calls : CallsNondet module above pos)
    (inside : lambdaAround above = some place) :
    findingAt (.looseCall (lambdaName place)) pos ∈ findingsIn looseCalls source ↔
      ¬HandedAt module place := by
  have formed := parse_formed parsed
  obtain ⟨_, _, _, occurs, _⟩ := id calls
  rw [findingsIn_eq parsed,
    loose_iff_not_isReached calls (nondetScope_of_lambda formed occurs inside),
    ← isReached_lambdaName_iff formed, Bool.not_eq_true]

/-- A non-deterministic call inside a lambda is reported exactly if its innermost lambda is not
handed to a block. So the calls inside lambdas of functions that a block reaches are all left alone
exactly if each of these lambdas is handed to a block itself. -/
theorem lambda_calls_guarded_iff {source : String} {module : Module}
    (parsed : parse source = .ok module) :
    (∀ above pos place, CallsNondet module above pos → lambdaAround above = some place →
      (findingAt (.looseCall (lambdaName place)) pos ∈ findingsIn looseCalls source ↔
        ¬HandedAt module place)) ∧
    ((∀ above pos place function, CallsNondet module above pos → lambdaAround above = some place →
        functionAround above = some function → isReached module function = true →
        findingAt (.looseCall (lambdaName place)) pos ∉ findingsIn looseCalls source) ↔
      ∀ above pos place function, CallsNondet module above pos → lambdaAround above = some place →
        functionAround above = some function → isReached module function = true →
        HandedAt module place) := by
  refine ⟨fun above pos place => loose_lambda_iff parsed, ?_, ?_⟩
  · intro guarded above pos place function calls inside around reached
    have notReported := guarded above pos place function calls inside around reached
    rwa [loose_lambda_iff parsed calls inside, not_not] at notReported
  · intro handed above pos place function calls inside around reached
    rw [loose_lambda_iff parsed calls inside, not_not]
    exact handed above pos place function calls inside around reached

def callsInside (place : Pos) (function : String) : List Node × Node → Bool
  | (above, .call _ callee _ _) => isNondetCallee callee &&
    decide (lambdaAround above = some place ∧ functionAround above = some function)
  | _ => false

theorem exists_lambda_call (text : String) (place : Pos) (function : String)
    (holds : Module → Bool)
    (found : (parse text).toOption.any (fun module => holds module &&
      decide (function ∈ (EntryPoints.ofModule module).all) &&
      module.occurrences.any (callsInside place function)) = true) :
    ∃ module above pos, parse text = .ok module ∧ CallsNondet module above pos ∧
      lambdaAround above = some place ∧ functionAround above = some function ∧
      isReached module function = true ∧ holds module = true := by
  obtain ⟨module, parsed, found⟩ := exists_parsed found
  simp only [Bool.and_eq_true, decide_eq_true_eq] at found
  obtain ⟨⟨held, isEntry⟩, called⟩ := found
  obtain ⟨⟨above, node⟩, occurs, isCall⟩ := List.any_eq_true.mp called
  have reached : isReached module function = true := CallGraph.reaches_iff.mpr (.source isEntry)
  cases node with
  | call pos callee args keywords =>
      obtain ⟨isNondet, places⟩ := (Bool.and_eq_true _ _).mp isCall
      obtain ⟨inside, around⟩ := of_decide_eq_true places
      exact ⟨module, above, pos, parsed, ⟨callee, args, keywords, occurs, isNondet⟩, inside, around,
        reached, held⟩
  | _ => cases isCall

def handedLambdaText : String := "def f():gl.vm.run_nondet(lambda:gl.nondet.x())"

theorem lambda_calls_guarded_handed : ∃ module above pos,
    parse handedLambdaText = .ok module ∧ CallsNondet module above pos ∧
      lambdaAround above = some ⟨1, 25⟩ ∧ functionAround above = some "f" ∧
      isReached module "f" = true ∧ HandedAt module ⟨1, 25⟩ ∧
      findingAt (.looseCall (lambdaName ⟨1, 25⟩)) pos ∉ findingsIn looseCalls handedLambdaText := by
  obtain ⟨module, above, pos, parsed, calls, inside, around, reached, facts⟩ :=
    exists_lambda_call handedLambdaText ⟨1, 25⟩ "f"
      (fun module => decide (HandedAt module ⟨1, 25⟩)) (by decide +kernel)
  have handed := of_decide_eq_true facts
  have reported := (lambda_calls_guarded_iff parsed).1 above pos ⟨1, 25⟩ calls inside
  exact ⟨module, above, pos, parsed, calls, inside, around, reached, handed,
    fun isReported => reported.mp isReported handed⟩

def passedLambdaText : String := "def g():return h(lambda:gl.nondet.x())\ngl.vm.run_nondet(g)"

theorem lambda_call_in_block_reported : ∃ module above pos,
    parse passedLambdaText = .ok module ∧ CallsNondet module above pos ∧
      lambdaAround above = some ⟨1, 17⟩ ∧ functionAround above = some "g" ∧
      isReached module "g" = true ∧
      findingAt (.looseCall (lambdaName ⟨1, 17⟩)) pos ∈ findingsIn looseCalls passedLambdaText := by
  obtain ⟨module, above, pos, parsed, calls, inside, around, reached, facts⟩ :=
    exists_lambda_call passedLambdaText ⟨1, 17⟩ "g"
      (fun module => decide (¬HandedAt module ⟨1, 17⟩)) (by decide +kernel)
  exact ⟨module, above, pos, parsed, calls, inside, around, reached,
    (loose_lambda_iff parsed calls inside).mpr (of_decide_eq_true facts)⟩

end ContractLint.Lint
