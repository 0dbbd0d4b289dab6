import Mathlib.Data.List.Basic
import ContractLint.Proofs.Lint.Calls
import ContractLint.Proofs.Lint.Verdicts
import ContractLint.Proofs.Source.Statements
import ContractLint.Proofs.Text.Patterns

/-! The order of the statements of a module. While a graph is built, names are looked up among the
functions met so far; what a statement asks for there can only be defined in that statement, as long
as no other one defines a function of the same name. -/

namespace ContractLint.Source

def Node.asModule (statement : Node) : Module := ⟨[statement]⟩

/-- Every node of the module that bears a name has a word for it. -/
def Module.NamedByWords (module : Module) : Prop := ∀ node ∈ module.nodes, node.NamedByWord

theorem Module.NamedByWords.named {module : Module} (words : module.NamedByWords)
    {above : List Node} {node : Node} (occurs : (above, node) ∈ module.occurrences) :
    node.NamedByWord := by
  refine words node ?_
  rw [Module.nodes_eq_map]
  exact List.mem_map.mpr ⟨(above, node), occurs, rfl⟩

theorem Module.Formed.namedByWords {module : Module} (formed : module.Formed) :
    module.NamedByWords :=
  fun node listed => (formed node listed).named

theorem Module.NamedByWords.statement {module : Module} (words : module.NamedByWords)
    {statement : Node} (member : statement ∈ module.body) :
    statement.asModule.NamedByWords := by
  intro node listed
  refine words node ?_
  rw [Module.nodes_eq] at listed ⊢
  obtain ⟨_, isStatement, listed⟩ := List.mem_flatMap.mp listed
  rw [List.mem_singleton.mp isStatement] at listed
  exact List.mem_flatMap.mpr ⟨statement, member, listed⟩

theorem Module.NamedByWords.of_perm {module other : Module} (permuted : module.body.Perm other.body)
    (words : module.NamedByWords) : other.NamedByWords := by
  intro node listed
  refine words node ?_
  rw [Module.nodes_eq] at listed ⊢
  exact (permuted.flatMap_right _).mem_iff.mpr listed

theorem Module.occurrences_cons (statement : Node) (rest : List Node) :
    Module.occurrences ⟨statement :: rest⟩ =
      statement.asModule.occurrences ++ Module.occurrences ⟨rest⟩ := by
  simp [Module.occurrences, Module.walk, Node.asModule]

theorem Module.occurrences_perm {module other : Module} (permuted : module.body.Perm other.body) :
    module.occurrences.Perm other.occurrences :=
  permuted.flatMap_right _

end ContractLint.Source

namespace ContractLint.Lint

open Source Text

theorem dot_notMem_of_word {name : String} (word : IsWord name.toList) : '.' ∉ name.toList := by
  intro member
  exact absurd (word '.' member) (by decide)

theorem nested_eq (function name : String) :
    function ++ ".<locals>." ++ name = (function ++ ".<locals>") ++ "." ++ name := by
  have parts : ".<locals>." = ".<locals>" ++ "." := by decide
  rw [parts]
  simp only [String.append_assoc]

theorem nested_inj {first second name other : String} (word : IsWord name.toList)
    (otherWord : IsWord other.toList)
    (same : first ++ ".<locals>." ++ name = second ++ ".<locals>." ++ other) :
    first = second ∧ name = other := by
  rw [nested_eq, nested_eq] at same
  obtain ⟨sameOuter, sameName⟩ := append_last_mark_inj (dot_notMem_of_word word)
    (dot_notMem_of_word otherWord) same
  exact ⟨by simpa using sameOuter, sameName⟩

theorem classAround_word {module : Module} (words : module.NamedByWords) {above : List Node}
    {node : Node} (occurs : (above, node) ∈ module.occurrences) :
    ∀ name ∈ classAround above, IsWord name.toList := by
  induction above generalizing node with
  | nil => simp [classAround]
  | cons parent above ih =>
      obtain ⟨occursParent, _⟩ := Module.occurrences_outer occurs
      cases parent with
      | classDef =>
          intro name found
          cases found
          exact words.named occursParent
      | _ => exact ih occursParent

theorem qualify_eq_nested {module : Module} (words : module.NamedByWords) {above : List Node}
    {node : Node} (occurs : (above, node) ∈ module.occurrences) {own function name : String}
    (ownWord : IsWord own.toList) (word : IsWord name.toList)
    (same : (scopeAround above).qualify own = function ++ ".<locals>." ++ name) :
    functionAround above = some function ∧ own = name := by
  have noDot := dot_notMem_of_word ownWord
  simp only [Scope.qualify, scopeAround] at same
  split at same
  next outer around =>
    obtain ⟨rfl, sameOwn⟩ := nested_inj ownWord word same
    exact ⟨around, sameOwn⟩
  next className _ around =>
    rw [nested_eq] at same
    obtain ⟨sameClass, _⟩ := append_last_mark_inj noDot (dot_notMem_of_word word) same
    have classWord := classAround_word words occurs className around
    exact absurd (by simp [sameClass]) (dot_notMem_of_word classWord)
  next => exact absurd (by simp [same]) noDot

theorem nested_defined_iff {module : Module} (words : module.NamedByWords)
    {function name : String} (word : IsWord name.toList) :
    function ++ ".<locals>." ++ name ∈ definedFunctions module ↔
      ∃ above pos isAsync signature parts body decorators returns,
        (above, .functionDef pos isAsync name signature parts body decorators returns) ∈
          module.occurrences ∧ functionAround above = some function := by
  constructor
  · intro defined
    obtain ⟨⟨above, node⟩, occurs, found⟩ := List.mem_filterMap.mp defined
    cases node with
    | functionDef =>
        obtain ⟨around, rfl⟩ := qualify_eq_nested words occurs (words.named occurs) word
          (Option.some.inj found)
        exact ⟨above, _, _, _, _, _, _, _, occurs, around⟩
    | _ => cases found
  · rintro ⟨above, pos, isAsync, signature, parts, body, decorators, returns, occurs, around⟩
    refine List.mem_filterMap.mpr ⟨_, occurs, ?_⟩
    simp [definedFunction?, Scope.qualify, scopeAround, around]

theorem outer_defined {module : Module} (words : module.NamedByWords) {function name : String}
    (word : IsWord name.toList)
    (defined : function ++ ".<locals>." ++ name ∈ definedFunctions module) :
    function ∈ definedFunctions module := by
  obtain ⟨above, _, _, _, _, _, _, _, occurs, around⟩ := (nested_defined_iff words word).mp defined
  exact functionAround_defined occurs function around

def nestedAsked? : List Node × Node → Option String
  | (above, .call _ (.name _ id) _ _) => (functionAround above).map (· ++ ".<locals>." ++ id)
  | _ => none

theorem shared_of_nestedAsked {module other : Module} (words : module.NamedByWords)
    (otherWords : other.NamedByWords) {occurrence : List Node × Node}
    (occurs : occurrence ∈ module.occurrences) {nested : String}
    (asked : nestedAsked? occurrence = some nested) (defined : nested ∈ definedFunctions other) :
    ∃ name, name ∈ definedFunctions module ∧ name ∈ definedFunctions other := by
  obtain ⟨above, node⟩ := occurrence
  unfold nestedAsked? at asked
  split at asked
  next above _ place id _ _ same =>
    cases same
    obtain ⟨function, around, rfl⟩ := Option.map_eq_some_iff.mp asked
    have isCallee := Module.occurrences_inner occurs List.mem_cons_self
    have word : IsWord id.toList := words.named isCallee
    exact ⟨function, functionAround_defined occurs function around,
      outer_defined otherWords word defined⟩
  next => cases asked

namespace CallGraph

theorem target_congr {graph other : CallGraph} {above args keywords : List Node} {pos : Pos}
    {callee : Node}
    (same : ∀ nested ∈ nestedAsked? (above, .call pos callee args keywords),
      (nested ∈ graph.names ↔ nested ∈ other.names)) :
    graph.target (scopeAround above) callee = other.target (scopeAround above) callee := by
  unfold target
  split
  next place id =>
    simp only [scopeAround]
    cases around : functionAround above with
    | none => rfl
    | some function =>
        have asked := same (function ++ ".<locals>." ++ id) (by simp [nestedAsked?, around])
        simp only [List.contains_iff_mem, asked]
  next => rfl
  next => rfl
  next => rfl

theorem callAt?_congr {graph other : CallGraph} {occurrence : List Node × Node}
    (same : ∀ nested ∈ nestedAsked? occurrence, (nested ∈ graph.names ↔ nested ∈ other.names)) :
    graph.callAt? occurrence = other.callAt? occurrence := by
  obtain ⟨above, node⟩ := occurrence
  cases node with
  | call => simp only [callAt?, target_congr same]
  | _ => rfl

theorem callsAlong_congr {graph other : CallGraph} {occurrences : List (List Node × Node)}
    (same : ∀ occurrence ∈ occurrences, ∀ nested ∈ nestedAsked? occurrence,
      (nested ∈ graph.names ↔ nested ∈ other.names)) :
    graph.callsAlong occurrences = other.callsAlong occurrences := by
  induction occurrences generalizing graph other with
  | nil => rfl
  | cons occurrence rest ih =>
      rw [List.forall_mem_cons] at same
      have here := callAt?_congr same.1
      have further : (graph.visitAt occurrence).callsAlong rest =
          (other.visitAt occurrence).callsAlong rest := by
        refine ih fun later member nested asked => ?_
        rw [mem_names_visitAt, mem_names_visitAt, same.2 later member nested asked]
      unfold callsAlong at further ⊢
      rw [stagesOf, stagesOf, List.filterMap_cons, List.filterMap_cons, here, further]

theorem callsAlong_append (graph : CallGraph) (first second : List (List Node × Node)) :
    graph.callsAlong (first ++ second) =
      graph.callsAlong first ++ (first.foldl visitAt graph).callsAlong second := by
  rw [callsAlong, stagesOf_append, List.filterMap_append]
  rfl

end CallGraph

/-- No two statements define functions of one name. -/
def DefineApart (statements : List Node) : Prop :=
  statements.Pairwise fun first second => ∀ name ∈ (CallGraph.ofModule first.asModule).names,
    name ∉ (CallGraph.ofModule second.asModule).names

instance : DecidablePred DefineApart :=
  fun statements => inferInstanceAs (Decidable (statements.Pairwise _))

theorem DefineApart.perm {statements others : List Node} (permuted : statements.Perm others)
    (apart : DefineApart statements) : DefineApart others :=
  permuted.pairwise apart fun unshared name isSecond isFirst => unshared name isFirst isSecond

theorem callsAlong_statements {statements : List Node} (graph : CallGraph)
    (words : ∀ statement ∈ statements, statement.asModule.NamedByWords)
    (apart : DefineApart statements)
    (unasked : ∀ statement ∈ statements, ∀ occurrence ∈ statement.asModule.occurrences,
      ∀ nested ∈ nestedAsked? occurrence, nested ∉ graph.names) :
    graph.callsAlong (Module.occurrences ⟨statements⟩) = statements.flatMap fun statement =>
      CallGraph.callsAlong {} statement.asModule.occurrences := by
  induction statements generalizing graph with
  | nil => rfl
  | cons statement rest ih =>
      rw [List.forall_mem_cons] at words unasked
      obtain ⟨apartHere, apartRest⟩ := List.pairwise_cons.mp apart
      have here : graph.callsAlong statement.asModule.occurrences =
          CallGraph.callsAlong {} statement.asModule.occurrences := by
        refine CallGraph.callsAlong_congr fun occurrence occurs nested asked => ?_
        exact iff_of_false (unasked.1 occurrence occurs nested asked) List.not_mem_nil
      rw [Module.occurrences_cons, CallGraph.callsAlong_append, here, List.flatMap_cons]
      congr 1
      refine ih _ words.2 apartRest fun later isLater occurrence occurs nested asked known => ?_
      rcases CallGraph.mem_names_foldl_visitAt.mp known with earlier | defined
      · exact unasked.2 later isLater occurrence occurs nested asked earlier
      · obtain ⟨name, isLaters, isOurs⟩ := shared_of_nestedAsked (words.2 later isLater) words.1
          occurs asked defined
        exact apartHere later isLater name (CallGraph.mem_names_ofModule.mpr isOurs)
          (CallGraph.mem_names_ofModule.mpr isLaters)

section

variable {module other : Module} (permuted : module.body.Perm other.body)

include permuted

theorem calls_perm (words : module.NamedByWords) (apart : DefineApart module.body)
    (caller callee : String) : (CallGraph.ofModule module).Calls caller callee ↔
      (CallGraph.ofModule other).Calls caller callee := by
  have otherWords := words.of_perm permuted
  have first := callsAlong_statements {} (fun _ => words.statement) apart
    fun _ _ _ _ _ _ => List.not_mem_nil
  have second := callsAlong_statements {} (fun _ => otherWords.statement)
    (apart.perm permuted) fun _ _ _ _ _ _ => List.not_mem_nil
  rw [CallGraph.calls_ofModule, CallGraph.calls_ofModule, first, second]
  exact (permuted.flatMap_right _).mem_iff

theorem mem_entryPoints_perm (name : String) :
    name ∈ (EntryPoints.ofModule module).all ↔ name ∈ (EntryPoints.ofModule other).all := by
  have same {names : List Node × Node → List String} :
      (∃ occurrence ∈ module.occurrences, name ∈ names occurrence) ↔
        ∃ occurrence ∈ other.occurrences, name ∈ names occurrence := by
    simp only [(Module.occurrences_perm permuted).mem_iff]
  simp only [EntryPoints.all, List.mem_append, EntryPoints.ofModule_eq,
    mem_foldl_iff EntryPoints.mem_functions_visitAt,
    mem_foldl_iff EntryPoints.mem_lambdaScopes_visitAt, List.not_mem_nil, false_or, same]

theorem reaches_perm (words : module.NamedByWords) (apart : DefineApart module.body)
    (function : String) :
    (CallGraph.ofModule module).reaches (EntryPoints.ofModule module).all function =
      (CallGraph.ofModule other).reaches (EntryPoints.ofModule other).all function :=
  CallGraph.reaches_congr (mem_entryPoints_perm permuted) (calls_perm permuted words apart) function

theorem nondetCalls_perm : (nondetCalls module).Perm (nondetCalls other) :=
  (permuted.flatMap_right _).filterMap _

theorem mem_interfaceClasses_perm (name : String) :
    name ∈ interfaceClasses module ↔ name ∈ interfaceClasses other := by
  have nodes : module.nodes.Perm other.nodes := by
    rw [Module.nodes_eq, Module.nodes_eq]
    exact permuted.flatMap_right _
  exact (nodes.filterMap _).mem_iff

theorem scopedOperations_perm : (scopedOperations module).Perm (scopedOperations other) := by
  have operations (node : Node) : operationsAt (interfaceClasses module) node =
      operationsAt (interfaceClasses other) node := by
    have known (name : String) : (interfaceClasses module).contains name =
        (interfaceClasses other).contains name := by
      rw [Bool.eq_iff_iff, List.contains_iff_mem, List.contains_iff_mem]
      exact mem_interfaceClasses_perm permuted name
    cases node with
    | call pos callee => simp only [operationsAt, callOperations, known]
    | _ => rfl
  simp only [scopedOperations, operations]
  exact (permuted.flatMap_right _).flatMap_right _

end

/-- Whatever the order of the statements of a module, the rules on blocks report the same, as long
as no two statements define functions of one name. -/
theorem findings_perm_of_statements {module other : Module}
    (permuted : module.body.Perm other.body) (words : module.NamedByWords)
    (apart : DefineApart module.body) :
    (looseCalls module).Perm (looseCalls other) ∧
      (forbiddenOperations module).Perm (forbiddenOperations other) := by
  have reaches := reaches_perm permuted words apart
  constructor
  · have verdict : looseCall? (CallGraph.ofModule module) (EntryPoints.ofModule module).all =
        looseCall? (CallGraph.ofModule other) (EntryPoints.ofModule other).all := by
      funext call
      simp only [looseCall?, reaches]
    rw [looseCalls, verdict]
    exact (nondetCalls_perm permuted).filterMap _
  · have verdict : forbidden? (CallGraph.ofModule module) (EntryPoints.ofModule module).all =
        forbidden? (CallGraph.ofModule other) (EntryPoints.ofModule other).all := by
      funext found
      simp only [forbidden?, reaches]
    rw [forbiddenOperations, verdict]
    exact (scopedOperations_perm permuted).filterMap _

def orderedText : String :=
  "def w():\n g()\n return h()\ndef g():x.emit()\ndef h():return gl.nondet.run()\n" ++
    "def f():\n def h():gl.nondet.run()\n h()\ngl.eq_principle.strict_eq(w)"

theorem findings_perm_of_reversed : ∃ module, parse orderedText = .ok module ∧
    (module.body.Perm module.body.reverse ∧ module.NamedByWords ∧ DefineApart module.body) ∧
    (isReached module "h" = true ∧ isReached module "f.<locals>.h" = false) ∧
    (looseCalls module).Perm (looseCalls ⟨module.body.reverse⟩) ∧
    (forbiddenOperations module).Perm (forbiddenOperations ⟨module.body.reverse⟩) := by
  have facts : (parse orderedText).toOption.any (fun module =>
      let graph := CallGraph.ofModule module
      let sources := (EntryPoints.ofModule module).all
      decide (DefineApart module.body ∧ sources.length + graph.callCount < 20 ∧
        graph.reachesWithin 20 sources "h" = some true ∧
        graph.reachesWithin 20 sources "f.<locals>.h" = some false)) = true := by
    decide +kernel
  obtain ⟨module, parsed, facts⟩ := exists_parsed facts
  obtain ⟨apart, enough, reached, notReached⟩ := of_decide_eq_true facts
  rw [CallGraph.reachesWithin_eq _ _ _ _ enough] at reached notReached
  have words : module.NamedByWords := fun node listed => (parse_formed parsed node listed).named
  have permuted : module.body.Perm module.body.reverse := (List.reverse_perm _).symm
  obtain ⟨loose, forbidden⟩ := findings_perm_of_statements permuted words apart
  exact ⟨module, parsed, ⟨permuted, words, apart⟩,
    ⟨Option.some.inj reached, Option.some.inj notReached⟩, loose, forbidden⟩

end ContractLint.Lint
