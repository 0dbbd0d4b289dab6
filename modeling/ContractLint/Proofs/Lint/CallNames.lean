import ContractLint.Lint.Hazard
import ContractLint.Proofs.Lint.Operations
import ContractLint.Proofs.Source.Outside

/-! The names that calls go by. A callee is a value with attributes behind it; if the value is a
name, it begins the name of the call, and if it is anything else, the attributes are the name all by
themselves. So a call can be taken for one of a function that it has nothing to do with. -/

namespace ContractLint.Lint

open Source Text

def isUnnamed : Node → Bool
  | .name .. | .attribute .. => false
  | _ => true

/-- An expression is the value with attributes behind it. -/
inductive Followed (value : Node) : List String → Node → Prop
  | here : Followed value [] value
  | further {parts node pos attr} : Followed value parts node →
      Followed value (parts ++ [attr]) (.attribute pos node attr)

theorem Followed.nameParts_eq {value node : Node} {parts : List String}
    (followed : Followed value parts node) :
    nameParts node = (nameParts value).map (· ++ parts) := by
  induction followed with
  | here => simp
  | further _ ih =>
      rw [nameParts, ih, Option.map_map]
      simp [Function.comp_def]

theorem Followed.trailingParts_eq {value node : Node} {parts : List String}
    (followed : Followed value parts node) : trailingParts node = trailingParts value ++ parts := by
  induction followed with
  | here => simp
  | further _ ih => rw [trailingParts, ih, List.append_assoc]

theorem exists_followed (node : Node) :
    (∃ pos id parts, Followed (.name pos id) parts node) ∨
      ∃ value parts, isUnnamed value = true ∧ Followed value parts node := by
  fun_induction trailingParts node with
  | case1 pos id => exact .inl ⟨pos, id, [], .here⟩
  | case2 pos value attr ih =>
      rcases ih with ⟨place, id, parts, followed⟩ | ⟨value, parts, unnamed, followed⟩
      · exact .inl ⟨place, id, _, followed.further⟩
      · exact .inr ⟨value, _, unnamed, followed.further⟩
  | case3 node notName notAttribute =>
      refine .inr ⟨node, [], ?_, .here⟩
      cases node with
      | name pos id => exact absurd rfl (notName pos id)
      | «attribute» pos value attr => exact absurd rfl (notAttribute pos value attr)
      | _ => rfl

theorem nameParts_of_unnamed {value : Node} (unnamed : isUnnamed value = true) :
    nameParts value = none := by
  cases value with
  | name | «attribute» => cases unnamed
  | _ => rfl

theorem trailingParts_eq_nil_iff {value : Node} :
    trailingParts value = [] ↔ isUnnamed value = true := by
  cases value with
  | name | «attribute» => simp [trailingParts, isUnnamed]
  | _ => exact iff_of_true rfl rfl

theorem Followed.calledName_eq {value node : Node} {parts : List String}
    (followed : Followed value parts node) (unnamed : isUnnamed value = true) :
    calledName node = joinParts parts := by
  rw [calledName, followed.trailingParts_eq, trailingParts_eq_nil_iff.mpr unnamed,
    List.nil_append]

/-- The name is spelled by attributes behind a value that begins no name. -/
def NamedBehind (callee : Node) (name : String) : Prop :=
  ∃ value parts, isUnnamed value = true ∧ Followed value parts callee ∧ joinParts parts = name

theorem NamedBehind.dottedName_eq {callee : Node} {name : String}
    (behind : NamedBehind callee name) : dottedName callee = none := by
  obtain ⟨value, parts, unnamed, followed, _⟩ := behind
  rw [Lint.dottedName_eq, followed.nameParts_eq, nameParts_of_unnamed unnamed]
  rfl

theorem calledName_of_dottedName {callee : Node} {name : String}
    (spelled : dottedName callee = some name) : calledName callee = name := by
  rw [dottedName_eq, Option.map_eq_some_iff] at spelled
  obtain ⟨parts, named, rfl⟩ := spelled
  rw [calledName, trailingParts_eq named]

theorem calledName_eq_iff {callee : Node} {name : String} :
    calledName callee = name ↔ dottedName callee = some name ∨ NamedBehind callee name := by
  constructor
  · rintro rfl
    rcases exists_followed callee with
      ⟨pos, id, parts, followed⟩ | ⟨value, parts, unnamed, followed⟩
    · left
      rw [dottedName_eq, followed.nameParts_eq, calledName, followed.trailingParts_eq]
      rfl
    · exact .inr ⟨value, parts, unnamed, followed, (followed.calledName_eq unnamed).symm⟩
  · rintro (spelled | ⟨value, parts, unnamed, followed, rfl⟩)
    · exact calledName_of_dottedName spelled
    · exact followed.calledName_eq unnamed

def callWarning? (named : Node → Option String) : Node → Option Finding
  | .call pos callee _ _ =>
    ((named callee).filter forbiddenCalls.contains).map fun name =>
      findingAt (.nondeterministicCall name) pos
  | _ => none

def callWarnings (source : String) : List Finding :=
  (findingsIn hazards source).filter (·.code = "W002")

theorem filter_hazardsAt (contracts : Nat) (node : Node) :
    (hazardsAt contracts node).filter (·.code = "W002") =
      (callWarning? (some <| calledName ·) node).toList := by
  cases node with
  | importing pos modules =>
      rw [hazardsAt, List.filter_map, List.filter_eq_nil_iff.mpr]
      · rfl
      · intro item _
        simp [findingAt, Finding.code, Issue.code]
  | importingFrom pos module level names =>
      cases module with
      | none => rfl
      | some module =>
          rw [hazardsAt]
          split <;> simp [findingAt, Finding.code, Issue.code, callWarning?]
  | call pos callee args keywords =>
      by_cases isForbidden : calledName callee ∈ forbiddenCalls
      · simp [hazardsAt, isForbidden, callWarning?, Option.filter, findingAt, Finding.code,
          Issue.code]
      · simp [hazardsAt, isForbidden, callWarning?, Option.filter]
  | raising pos exception cause =>
      cases exception with
      | none => rfl
      | some exception =>
          simp only [hazardsAt, callWarning?]
          split
          next name _ => split <;> simp [findingAt, Finding.code, Issue.code]
          next => rfl
  | _ => rfl

theorem callWarnings_eq {source : String} {module : Module} (parsed : parse source = .ok module) :
    callWarnings source = module.nodes.flatMap fun node =>
      (callWarning? (some <| calledName ·) node).toList := by
  rw [callWarnings, findingsIn_eq parsed, hazards, List.filter_flatMap]
  simp only [filter_hazardsAt]
  rw [Module.walk_eq_map, Module.nodes_eq_map, List.flatMap_map, List.flatMap_map]
  rfl

/-- A call by a bare name stands in the function. -/
def CallsBare (module : Module) (function name : String) : Prop :=
  ∃ above pos place args keywords,
    (above, .call pos (.name place name) args keywords) ∈ module.occurrences ∧
      functionAround above = some function

/-- A call of an attribute stands in the function, of a value that begins no name. -/
def CallsBehind (module : Module) (function name : String) : Prop :=
  ∃ above pos place value args keywords,
    (above, .call pos (.attribute place value name) args keywords) ∈ module.occurrences ∧
      isUnnamed value = true ∧ functionAround above = some function

theorem dot_mem_joinParts_concat {parts : List String} (inner : parts ≠ []) (last : String) :
    '.' ∈ (joinParts (parts ++ [last])).toList := by
  obtain ⟨first, rest, rfl⟩ := List.exists_cons_of_ne_nil inner
  obtain ⟨next, more, split⟩ := List.exists_cons_of_ne_nil (List.concat_ne_nil last rest)
  simp [joinParts, split, String.intercalate_cons_cons]

theorem CallGraph.target_undotted {graph : CallGraph} {scope : Scope} {callee : Node}
    {name : String} (undotted : '.' ∉ name.toList)
    (refers : graph.target scope callee = some name) :
    (∃ pos, callee = .name pos name) ∨
      ∃ pos value, callee = .attribute pos value name ∧ isUnnamed value = true := by
  have ends {pos : Pos} {value : Node} {attr : String}
      (called : calledName (.attribute pos value attr) = name) :
      attr = name ∧ isUnnamed value = true := by
    rw [calledName, trailingParts] at called
    by_cases unnamed : trailingParts value = []
    · rw [unnamed] at called
      exact ⟨by simpa [joinParts] using called, trailingParts_eq_nil_iff.mp unnamed⟩
    · rw [← called] at undotted
      exact absurd (dot_mem_joinParts_concat unnamed attr) undotted
  unfold CallGraph.target at refers
  split at refers
  next pos id =>
    split at refers
    next function _ =>
      dsimp only at refers
      split at refers
      next =>
        rw [← Option.some.inj refers] at undotted
        simp at undotted
      next => exact .inl ⟨pos, by rw [Option.some.inj refers]⟩
    next => exact .inl ⟨pos, by rw [Option.some.inj refers]⟩
  next pos place attr =>
    split at refers
    next className _ =>
      rw [← Option.some.inj refers] at undotted
      simp at undotted
    next => cases (ends (Option.some.inj refers)).2
  next pos value attr _ =>
    obtain ⟨rfl, unnamed⟩ := ends (Option.some.inj refers)
    exact .inr ⟨pos, value, rfl, unnamed⟩
  next => cases refers

theorem calls_undotted {module : Module} {function name : String} (undotted : '.' ∉ name.toList)
    (calls : (CallGraph.ofModule module).Calls function name) :
    CallsBare module function name ∨ CallsBehind module function name := by
  rw [CallGraph.calls_ofModule] at calls
  obtain ⟨⟨graph, above, node⟩, isStage, added⟩ := List.mem_filterMap.mp calls
  have occurs := List.mem_map_of_mem (f := (·.2)) isStage
  rw [map_stagesOf] at occurs
  cases node with
  | functionDef pos isAsync own =>
      obtain ⟨outer, around, same⟩ := Option.map_eq_some_iff.mp added
      obtain ⟨rfl, rfl⟩ := Prod.mk.inj same
      simp [Scope.qualify, scopeAround, around] at undotted
  | call pos callee args keywords =>
      obtain ⟨caller, around, found⟩ := Option.bind_eq_some_iff.mp added
      obtain ⟨target, refers, same⟩ := Option.map_eq_some_iff.mp found
      obtain ⟨rfl, rfl⟩ := Prod.mk.inj same
      rcases CallGraph.target_undotted undotted refers with
        ⟨place, rfl⟩ | ⟨place, value, rfl, unnamed⟩
      · exact .inl ⟨above, pos, place, args, keywords, occurs, around⟩
      · exact .inr ⟨above, pos, place, value, args, keywords, occurs, unnamed, around⟩
  | _ => cases added

theorem CallGraph.target_behind {graph : CallGraph} {scope : Scope} {pos : Pos} {value : Node}
    {attr : String} (unnamed : isUnnamed value = true) :
    graph.target scope (.attribute pos value attr) = some attr := by
  have called : calledName (.attribute pos value attr) = attr := by
    rw [Followed.here.further.calledName_eq unnamed]
    simp [joinParts]
  cases value with
  | name => cases unnamed
  | _ => exact congrArg some called

theorem calls_of_behind {module : Module} {function name : String}
    (behind : CallsBehind module function name) :
    (CallGraph.ofModule module).Calls function name := by
  obtain ⟨above, pos, place, value, args, keywords, occurs, unnamed, around⟩ := behind
  rw [CallGraph.calls_ofModule]
  rw [← map_stagesOf CallGraph.visitAt {} module.occurrences] at occurs
  obtain ⟨⟨graph, _⟩, isStage, rfl⟩ := List.mem_map.mp occurs
  refine List.mem_filterMap.mpr ⟨_, isStage, ?_⟩
  simp [CallGraph.callAt?, around, CallGraph.target_behind unnamed]

/-- Every warning on a call is for the dotted name of its callee, and every reference to a name
without a dot is a call by that name. -/
structure CallsNamedExactly (source : String) (module : Module) : Prop where
  warned : callWarnings source = module.nodes.filterMap (callWarning? dottedName)
  referred : ∀ function name, '.' ∉ name.toList →
    (CallGraph.ofModule module).Calls function name → CallsBare module function name

theorem mem_hazards_call_iff {source : String} {module : Module}
    (parsed : parse source = .ok module) {name : String} {pos : Pos} :
    findingAt (.nondeterministicCall name) pos ∈ findingsIn hazards source ↔
      name ∈ forbiddenCalls ∧ ∃ callee args keywords,
        .call pos callee args keywords ∈ module.nodes ∧ calledName callee = name := by
  have listed : findingAt (.nondeterministicCall name) pos ∈ findingsIn hazards source ↔
      findingAt (.nondeterministicCall name) pos ∈ callWarnings source := by
    simp [callWarnings, findingAt, Finding.code, Issue.code]
  rw [listed, callWarnings_eq parsed, List.mem_flatMap]
  constructor
  · rintro ⟨node, isNode, warned⟩
    cases node with
    | call place callee args keywords =>
        obtain ⟨_, called, same⟩ := Option.map_eq_some_iff.mp (Option.mem_toList.mp warned)
        obtain ⟨issue, rfl⟩ := findingAt_inj same
        cases issue
        obtain ⟨named, isForbidden⟩ := Option.filter_eq_some_iff.mp called
        exact ⟨List.contains_iff_mem.mp isForbidden, callee, args, keywords, isNode,
          Option.some.inj named⟩
    | _ => cases warned
  · rintro ⟨isForbidden, callee, args, keywords, isNode, rfl⟩
    refine ⟨_, isNode, ?_⟩
    simp [callWarning?, Option.filter, isForbidden]

theorem callWarning?_of_dottedName {callee : Node} {name : String}
    (spelled : dottedName callee = some name) (pos : Pos) (args keywords : List Node) :
    callWarning? dottedName (.call pos callee args keywords) =
      callWarning? (some <| calledName ·) (.call pos callee args keywords) := by
  simp only [callWarning?, spelled, calledName_of_dottedName spelled]

theorem callWarning?_sublist (node : Node) : (callWarning? dottedName node).toList.Sublist
    (callWarning? (some <| calledName ·) node).toList := by
  cases node with
  | call pos callee args keywords =>
      cases spelled : dottedName callee with
      | none => simp [callWarning?, spelled]
      | some name => rw [callWarning?_of_dottedName spelled]
  | _ => exact List.Sublist.refl []

theorem callWarning?_eq_iff (pos : Pos) (callee : Node) (args keywords : List Node) :
    (callWarning? dottedName (.call pos callee args keywords)).toList =
        (callWarning? (some <| calledName ·) (.call pos callee args keywords)).toList ↔
      ∀ name ∈ forbiddenCalls, ¬NamedBehind callee name := by
  cases spelled : dottedName callee with
  | some name =>
      refine iff_of_true (by rw [callWarning?_of_dottedName spelled]) ?_
      intro other _ behind
      rw [behind.dottedName_eq] at spelled
      cases spelled
  | none =>
      have behind : ∀ name, calledName callee = name ↔ NamedBehind callee name := by
        intro name
        simp [calledName_eq_iff, spelled]
      simp only [← behind, List.forall_mem_ne]
      rw [eq_comm]
      simp [callWarning?, spelled, Option.filter]

theorem warnings_named_iff {source : String} {module : Module}
    (parsed : parse source = .ok module) :
    callWarnings source = module.nodes.filterMap (callWarning? dottedName) ↔
      ∀ pos callee args keywords, .call pos callee args keywords ∈ module.nodes →
        ∀ name ∈ forbiddenCalls, ¬NamedBehind callee name := by
  rw [callWarnings_eq parsed, List.filterMap_eq_flatMap_toList, eq_comm,
    flatMap_eq_iff fun node _ => callWarning?_sublist node]
  constructor
  · intro same pos callee args keywords isNode
    exact (callWarning?_eq_iff pos callee args keywords).mp (same _ isNode)
  · intro none node isNode
    cases node with
    | call pos callee args keywords =>
        exact (callWarning?_eq_iff pos callee args keywords).mpr
          (none pos callee args keywords isNode)
    | _ => rfl

/-- A call is warned of if its callee ends in a forbidden name, and a name without a dot is referred
to wherever a callee ends in it, also behind a value that begins no name. So the calls of a module
are named exactly if no callee has a forbidden name behind such a value, and if a function that
calls an attribute of such a value also calls the function of that name. -/
theorem calls_named_exactly_iff {source : String} {module : Module}
    (parsed : parse source = .ok module) :
    (∀ name pos, findingAt (.nondeterministicCall name) pos ∈ findingsIn hazards source ↔
      name ∈ forbiddenCalls ∧ ∃ callee args keywords,
        .call pos callee args keywords ∈ module.nodes ∧
          (dottedName callee = some name ∨ NamedBehind callee name)) ∧
    (∀ function name, CallsBehind module function name →
      (CallGraph.ofModule module).Calls function name) ∧
    (∀ function name, '.' ∉ name.toList → (CallGraph.ofModule module).Calls function name →
      CallsBare module function name ∨ CallsBehind module function name) ∧
    (CallsNamedExactly source module ↔
      (∀ pos callee args keywords, .call pos callee args keywords ∈ module.nodes →
        ∀ name ∈ forbiddenCalls, ¬NamedBehind callee name) ∧
      ∀ function name, CallsBehind module function name → CallsBare module function name) := by
  refine ⟨?_, fun function name => calls_of_behind, fun function name => calls_undotted, ?_⟩
  · intro name pos
    simp only [mem_hazards_call_iff parsed, calledName_eq_iff]
  · rw [← warnings_named_iff parsed]
    constructor
    · rintro ⟨warned, referred⟩
      refine ⟨warned, fun function name behind => ?_⟩
      refine referred function name ?_ (calls_of_behind behind)
      obtain ⟨above, pos, place, value, args, keywords, occurs, _⟩ := behind
      have isCallee := Module.occurrences_inner occurs List.mem_cons_self
      exact dot_notMem_of_word ((parse_formed parsed).fits isCallee).named
    · rintro ⟨warned, covered⟩
      refine ⟨warned, fun function name undotted calls => ?_⟩
      exact (calls_undotted undotted calls).elim id (covered function name)

def bareCall? : List Node × Node → Option (String × String)
  | (above, .call _ (.name _ id) _ _) => (functionAround above).map (·, id)
  | _ => none

def callBehind? : List Node × Node → Option (String × String)
  | (above, .call _ (.attribute _ value attr) _ _) =>
    if isUnnamed value then (functionAround above).map (·, attr) else none
  | _ => none

theorem callsBare_iff {module : Module} {function name : String} :
    CallsBare module function name ↔ (function, name) ∈ module.occurrences.filterMap bareCall? := by
  rw [List.mem_filterMap]
  constructor
  · rintro ⟨above, pos, place, args, keywords, occurs, around⟩
    exact ⟨_, occurs, by simp [bareCall?, around]⟩
  · rintro ⟨⟨above, node⟩, occurs, found⟩
    unfold bareCall? at found
    split at found
    next above pos place id args keywords same =>
      cases same
      obtain ⟨_, around, same⟩ := Option.map_eq_some_iff.mp found
      obtain ⟨rfl, rfl⟩ := Prod.mk.inj same
      exact ⟨above, pos, place, args, keywords, occurs, around⟩
    next => cases found

theorem callsBehind_iff {module : Module} {function name : String} :
    CallsBehind module function name ↔
      (function, name) ∈ module.occurrences.filterMap callBehind? := by
  rw [List.mem_filterMap]
  constructor
  · rintro ⟨above, pos, place, value, args, keywords, occurs, unnamed, around⟩
    exact ⟨_, occurs, by simp [callBehind?, unnamed, around]⟩
  · rintro ⟨⟨above, node⟩, occurs, found⟩
    unfold callBehind? at found
    split at found
    next above pos place value attr args keywords same =>
      cases same
      obtain ⟨unnamed, found⟩ := Option.ite_none_right_eq_some.mp found
      obtain ⟨_, around, same⟩ := Option.map_eq_some_iff.mp found
      obtain ⟨rfl, rfl⟩ := Prod.mk.inj same
      exact ⟨above, pos, place, value, args, keywords, occurs, unnamed, around⟩
    next => cases found

instance (module : Module) (function name : String) : Decidable (CallsBare module function name) :=
  decidable_of_iff _ callsBare_iff.symm

instance (module : Module) (function name : String) :
    Decidable (CallsBehind module function name) :=
  decidable_of_iff _ callsBehind_iff.symm

def isWarnedExactly : Node → Bool
  | .call _ callee _ _ =>
    (dottedName callee).isSome || !forbiddenCalls.contains (calledName callee)
  | _ => true

theorem not_namedBehind_of_isWarnedExactly {pos : Pos} {callee : Node} {args keywords : List Node}
    (exactly : isWarnedExactly (.call pos callee args keywords) = true) {name : String}
    (isForbidden : name ∈ forbiddenCalls) : ¬NamedBehind callee name := by
  intro behind
  have called := calledName_eq_iff.mpr (.inr behind)
  simp [isWarnedExactly, behind.dottedName_eq, called, isForbidden] at exactly

def namedText : String := "def f():\n xs[0].h()\n h()\n time.time()"

theorem calls_named_exactly_both : ∃ module, parse namedText = .ok module ∧
    CallsBehind module "f" "h" ∧
    findingAt (.nondeterministicCall "time.time") ⟨4, 1⟩ ∈ findingsIn hazards namedText ∧
    CallsNamedExactly namedText module := by
  have facts : (parse namedText).toOption.any (fun module =>
      (hazards module).contains (findingAt (.nondeterministicCall "time.time") ⟨4, 1⟩) &&
      decide (CallsBehind module "f" "h") && module.nodes.all isWarnedExactly &&
      (module.occurrences.filterMap callBehind?).all fun call =>
        decide (CallsBare module call.1 call.2)) = true := by
    decide +kernel
  obtain ⟨module, parsed, facts⟩ := exists_parsed facts
  simp only [Bool.and_eq_true, decide_eq_true_eq, List.all_eq_true, List.contains_iff_mem] at facts
  obtain ⟨⟨⟨warned, behind⟩, exactly⟩, covered⟩ := facts
  refine ⟨module, parsed, behind, by rwa [findingsIn_eq parsed], ?_⟩
  refine (calls_named_exactly_iff parsed).2.2.2.mpr ⟨?_, fun function name isBehind => ?_⟩
  · intro pos callee args keywords isNode name isForbidden
    exact not_namedBehind_of_isWarnedExactly (exactly _ isNode) isForbidden
  · exact covered (function, name) (callsBehind_iff.mp isBehind)

def strayText : String := "def f():x().time.time();xs[0].helper()"

theorem stray_calls_taken_for_named : ∃ module, parse strayText = .ok module ∧
    (∀ node ∈ module.nodes, callWarning? dottedName node = none) ∧
    findingAt (.nondeterministicCall "time.time") ⟨1, 8⟩ ∈ findingsIn hazards strayText ∧
    (CallGraph.ofModule module).Calls "f" "helper" ∧ ¬CallsBare module "f" "helper" := by
  have facts : (parse strayText).toOption.any (fun module =>
      (hazards module).contains (findingAt (.nondeterministicCall "time.time") ⟨1, 8⟩) &&
      decide (CallsBehind module "f" "helper" ∧ ¬CallsBare module "f" "helper") &&
      module.nodes.all fun node => (callWarning? dottedName node).isNone) = true := by
    decide +kernel
  obtain ⟨module, parsed, facts⟩ := exists_parsed facts
  simp only [Bool.and_eq_true, decide_eq_true_eq, List.all_eq_true, List.contains_iff_mem,
    Option.isNone_iff_eq_none] at facts
  obtain ⟨⟨warned, behind, notBare⟩, unnamed⟩ := facts
  exact ⟨module, parsed, unnamed, by rwa [findingsIn_eq parsed], calls_of_behind behind,
    notBare⟩

end ContractLint.Lint
