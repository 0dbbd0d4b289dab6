import ContractLint.Proofs.Lint.Calls
import ContractLint.Proofs.Lint.Hosts

/-! What strict equality is blamed for. Each mismatch comes from a raw call in a function that is
wrapped, or one call further on; the rule on unguarded calls, which knows functions by their
qualified names only, takes the same function for one that a block reaches. -/

namespace ContractLint.Lint

open Source

def opensScope : Node → Bool
  | .functionDef .. | .classDef .. | .lambda .. => true
  | _ => false

inductive Beneath (outer : List Node) : List Node → Prop
  | here : Beneath outer outer
  | inner {above node} : Beneath outer above → opensScope node = false →
      Beneath outer (node :: above)

namespace Beneath

variable {outer above : List Node}

theorem functionAround_eq (beneath : Beneath outer above) :
    functionAround above = functionAround outer := by
  induction beneath with
  | here => rfl
  | @inner above node _ plain ih =>
      cases node with
      | functionDef => cases plain
      | _ => exact ih

theorem functionFirst_eq (beneath : Beneath outer above) :
    functionFirst above = functionFirst outer := by
  induction beneath with
  | here => rfl
  | @inner above node _ plain ih =>
      cases node with
      | functionDef | lambda => cases plain
      | _ => exact ih

end Beneath

structure Placed (module : Module) (outer above : List Node) (node : Node) : Prop where
  beneath : Beneath outer above
  occurs : (above, node) ∈ module.occurrences

theorem Placed.child {module : Module} {outer above : List Node} {node inner : Node}
    (placed : Placed module outer above node) (plain : opensScope node = false)
    (isChild : inner ∈ node.children) : Placed module outer (node :: above) inner :=
  ⟨placed.beneath.inner plain, Module.occurrences_inner placed.occurs isChild⟩

theorem Placed.innerStatement {module : Module} {outer above : List Node} {node statement : Node}
    (placed : Placed module outer above node) (inner : statement ∈ innerStatements node) :
    ∃ below, Placed module outer below statement := by
  cases node with
  | branch | forLoop | whileLoop =>
      refine ⟨_, placed.child rfl ?_⟩
      simp only [Node.children, List.mem_cons]
      simp only [innerStatements] at inner
      simp [inner]
  | withBlock => exact ⟨_, placed.child rfl (List.mem_append_right _ inner)⟩
  | tryBlock pos isGroup body handlers otherwise cleanup =>
      cases isGroup with
      | true => cases inner
      | false =>
          simp only [innerStatements, List.mem_append, List.mem_flatMap] at inner
          rcases inner with inBody | ⟨handler, isHandler, inHandler⟩ | further
          · exact ⟨_, placed.child rfl (by simp [Node.children, inBody])⟩
          · -- A handler is a node of its own between the block and its statements.
            have outside : Placed module outer _ handler :=
              placed.child rfl (by simp [Node.children, isHandler])
            cases handler with
            | handler => exact ⟨_, outside.child rfl (List.mem_append_right _ inHandler)⟩
            | _ => cases inHandler
          · refine ⟨_, placed.child rfl ?_⟩
            simp only [Node.children, List.mem_append]
            exact .inr (.inr further)
  | _ => cases inner

theorem Placed.ownReturn {module : Module} {outer above : List Node} {statement returned : Node}
    (placed : Placed module outer above statement) (own : returned ∈ ownReturns statement) :
    ∃ below, Placed module outer below returned := by
  fun_induction ownReturns statement generalizing above with
  | case1 statement isReturn =>
      rw [List.mem_singleton.mp own]
      exact ⟨above, placed⟩
  | case2 statement _ ih =>
      obtain ⟨⟨inner, isInner⟩, _, further⟩ := List.mem_flatMap.mp own
      obtain ⟨below, placedInner⟩ := placed.innerStatement isInner
      exact ih inner isInner placedInner further

theorem Placed.ownAssignment {module : Module} {outer above : List Node} {statement : Node}
    {assignment : VariableAssignment} (placed : Placed module outer above statement)
    (own : assignment ∈ ownAssignments statement) :
    ∃ below assigning, Placed module outer below assigning ∧
      assignmentAt? assigning = some assignment := by
  fun_induction ownAssignments statement generalizing above with
  | case1 statement ih =>
      rcases List.mem_append.mp own with here | later
      · exact ⟨above, statement, placed, Option.mem_toList.mp here⟩
      · obtain ⟨⟨inner, isInner⟩, _, further⟩ := List.mem_flatMap.mp later
        obtain ⟨below, placedInner⟩ := placed.innerStatement isInner
        exact ih inner isInner placedInner further

def aboveAwaited (above : List Node) : Node → List Node
  | .await pos value => .await pos value :: above
  | _ => above

theorem Placed.awaited {module : Module} {outer above : List Node} {value : Node}
    (placed : Placed module outer above value) :
    Placed module outer (aboveAwaited above value) (awaited value) := by
  cases value with
  | await => exact placed.child rfl List.mem_cons_self
  | _ => exact placed

/-- A function returns the value below `above`, at once or after waiting for it. The function and
what is around it are the nodes `inside`. -/
inductive Returns (module : Module) (inside : List Node) : List Node → Node → Prop
  | returned {above pos value} : Placed module inside above (.returning pos (some value)) →
      Returns module inside (aboveAwaited (.returning pos (some value) :: above) value)
        (awaited value)

def assigned? : Node → Option (String × Node)
  | .assign _ [.name _ id] value => some (id, value)
  | .annAssign _ (.name _ id) _ (some value) => some (id, value)
  | _ => none

/-- The value below `above` comes out of a function: it is returned, or given to a variable that
is. -/
inductive ComesOut (module : Module) (inside : List Node) : List Node → Node → Prop
  | returned {above value} : Returns module inside above value → ComesOut module inside above value
  | passed {above pos id below statement value} : Returns module inside above (.name pos id) →
      Placed module inside below statement → assigned? statement = some (id, value) →
      ComesOut module inside (aboveAwaited (statement :: below) value) (awaited value)

theorem Returns.placed {module : Module} {inside above : List Node} {value : Node}
    (returns : Returns module inside above value) : Placed module inside above value := by
  cases returns with
  | returned placed => exact (placed.child rfl (by simp [Node.children])).awaited

theorem ComesOut.placed {module : Module} {inside above : List Node} {value : Node}
    (comesOut : ComesOut module inside above value) : Placed module inside above value := by
  cases comesOut with
  | returned returns => exact returns.placed
  | @passed _ _ _ below statement value _ placed assigned =>
      refine Placed.awaited ?_
      unfold assigned? at assigned
      split at assigned
      next => cases assigned; exact placed.child rfl (by simp [Node.children])
      next => cases assigned; exact placed.child rfl (by simp [Node.children])
      next => cases assigned

/-- A returned value is raw: it is a raw call, a variable that is given raw calls only, or a call of
a function that is followed. -/
inductive IsRaw (assignments : List VariableAssignment)
    (follow : String → Option (Option RawCall)) (raw : RawCall) : Node → Prop
  | call {value} : plainRawCall? value = some raw → IsRaw assignments follow raw value
  | named {pos id} : rawVariable? assignments id = some raw →
      IsRaw assignments follow raw (.name pos id)
  | followed {pos place id args keywords} : follow id = some (some raw) →
      IsRaw assignments follow raw (.call pos (.name place id) args keywords)

theorem firstRaw_eq_some {assignments : List VariableAssignment}
    {follow : String → Option (Option RawCall)} {returns : List Node} {raw : RawCall}
    (found : firstRaw assignments follow returns = some raw) :
    ∃ pos value, .returning pos (some value) ∈ returns ∧
      IsRaw assignments follow raw (awaited value) := by
  fun_induction firstRaw assignments follow returns with
  | case1 => cases found
  | case2 pos value rest call isCall =>
      cases found
      exact ⟨pos, value, List.mem_cons_self, .call isCall⟩
  | case3 pos value rest _ place id isName call isVariable =>
      cases found
      refine ⟨pos, value, List.mem_cons_self, ?_⟩
      rw [isName]
      exact .named isVariable
  | case5 pos value rest _ place spot id args keywords isCall outcome follows =>
      cases found
      refine ⟨pos, value, List.mem_cons_self, ?_⟩
      rw [isCall]
      exact .followed follows
  | case4 | case6 | case7 | case8 =>
      rename_i ih
      obtain ⟨pos, value, member, isRaw⟩ := ih found
      exact ⟨pos, value, List.mem_cons_of_mem _ member, isRaw⟩

theorem rawVariable?_eq_some {assignments : List VariableAssignment} {id : String} {raw : RawCall}
    (found : rawVariable? assignments id = some raw) :
    ∃ assignment ∈ assignments, assignment.target = id ∧ assignment.source = some raw.name ∧
      assignment.line = raw.line := by
  unfold rawVariable? at found
  split at found
  next => cases found
  next first rest listed =>
    split at found
    next =>
      have member : first ∈ assignments.filter (·.target = id) := by
        rw [listed]
        exact List.mem_cons_self
      obtain ⟨isListed, isTarget⟩ := List.mem_filter.mp member
      obtain ⟨name, isSource, rfl⟩ := Option.map_eq_some_iff.mp found
      exact ⟨first, isListed, of_decide_eq_true isTarget, isSource, rfl⟩
    next => cases found

theorem assigned?_of_assignmentAt? {statement : Node} {assignment : VariableAssignment}
    {name : String} (assigns : assignmentAt? statement = some assignment)
    (isRaw : assignment.source = some name) :
    ∃ value, assigned? statement = some (assignment.target, value) ∧
      rawCall? value = some ⟨name, assignment.line⟩ := by
  have raw (target : String) (value : Node) (pos : Pos)
      (given : assignmentOf target value pos = assignment) :
      assignment.target = target ∧ rawCall? value = some ⟨name, assignment.line⟩ := by
    subst given
    unfold assignmentOf at isRaw ⊢
    split
    next call isCall =>
      simp only [isCall] at isRaw
      cases isRaw
      exact ⟨rfl, isCall⟩
    next isCall =>
      simp only [isCall] at isRaw
      cases isRaw
  unfold assignmentAt? at assigns
  split at assigns
  next pos _ id value =>
    obtain ⟨rfl, isCall⟩ := raw id value pos (Option.some.inj assigns)
    exact ⟨value, rfl, isCall⟩
  next pos _ id _ value =>
    obtain ⟨rfl, isCall⟩ := raw id value pos (Option.some.inj assigns)
    exact ⟨value, rfl, isCall⟩
  next =>
    cases assigns
    cases isRaw
  next => cases assigns

section

variable {module : Module} {outer : List Node} {function : Node} {own : String} {body : List Node}
  (occurs : (outer, function) ∈ module.occurrences)
  (defines : functionBody? function = some (own, body))

include occurs defines

theorem placed_statement {statement : Node} (member : statement ∈ body) :
    Placed module (function :: outer) (function :: outer) statement := by
  refine ⟨.here, Module.occurrences_inner occurs ?_⟩
  cases function with
  | functionDef =>
      cases defines
      simp [Node.children, member]
  | _ => cases defines

theorem exists_returns {pos : Pos} {value : Node}
    (member : .returning pos (some value) ∈ bodyReturns body) :
    ∃ above, Returns module (function :: outer) above (awaited value) := by
  obtain ⟨statement, isStatement, ownReturn⟩ := List.mem_flatMap.mp member
  obtain ⟨above, placed⟩ := (placed_statement occurs defines isStatement).ownReturn ownReturn
  exact ⟨_, .returned placed⟩

theorem exists_assigned {id : String} {raw : RawCall}
    (found : rawVariable? (bodyAssignments body) id = some raw) :
    ∃ below statement value, Placed module (function :: outer) below statement ∧
      assigned? statement = some (id, value) ∧ rawCall? value = some raw := by
  obtain ⟨assignment, listed, rfl, isSource, sameLine⟩ := rawVariable?_eq_some found
  obtain ⟨statement, isStatement, isOwn⟩ := List.mem_flatMap.mp listed
  obtain ⟨below, assigning, placed, assigns⟩ :=
    (placed_statement occurs defines isStatement).ownAssignment isOwn
  obtain ⟨value, assigned, isCall⟩ := assigned?_of_assignmentAt? assigns isSource
  rw [sameLine] at isCall
  exact ⟨below, assigning, value, placed, assigned, isCall⟩

theorem exists_comesOut {follow : String → Option (Option RawCall)} {raw : RawCall}
    (found : firstRaw (bodyAssignments body) follow (bodyReturns body) = some raw) :
    (∃ above call, ComesOut module (function :: outer) above call ∧
      plainRawCall? call = some raw) ∨
    ∃ above pos place id args keywords, Returns module (function :: outer) above
      (.call pos (.name place id) args keywords) ∧ follow id = some (some raw) := by
  obtain ⟨pos, value, member, isRaw⟩ := firstRaw_eq_some found
  obtain ⟨above, returns⟩ := exists_returns occurs defines member
  generalize awaited value = result at returns isRaw
  cases isRaw with
  | call isCall => exact .inl ⟨above, _, .returned returns, isCall⟩
  | named isVariable =>
      obtain ⟨below, statement, given, placed, assigned, isCall⟩ :=
        exists_assigned occurs defines isVariable
      exact .inl ⟨_, _, .passed returns placed assigned, isCall⟩
  | followed follows => exact .inr ⟨above, _, _, _, _, _, returns, follows⟩

theorem exists_comesOut_of_direct {raw : RawCall} (found : directRawOutput body = some raw) :
    ∃ above call, ComesOut module (function :: outer) above call ∧
      plainRawCall? call = some raw := by
  rcases exists_comesOut occurs defines found with comesOut | ⟨_, _, _, _, _, _, _, follows⟩
  · exact comesOut
  · cases follows

end

theorem definition_of_lookup {statements : List Node} {id : String} {body : List Node}
    (found : (definitionsIn statements).lookup id = some body) :
    ∃ function ∈ statements, functionBody? function = some (id, body) := by
  obtain ⟨before, after, split, _⟩ := List.lookup_eq_some_iff.mp found
  have member : (id, body) ∈ definitionsIn statements := by simp [split]
  exact List.mem_filterMap.mp (List.mem_reverse.mp member)

theorem class_of_lookup {statements : List Node} {className : String} {definitions : Definitions}
    (found : (methodsIn statements).lookup className = some definitions) :
    ∃ pos bases keywords body decorators,
      .classDef pos className bases keywords body decorators ∈ statements ∧
        definitions = definitionsIn body := by
  obtain ⟨before, after, split, _⟩ := List.lookup_eq_some_iff.mp found
  have member : (className, definitions) ∈ methodsIn statements := by simp [split]
  obtain ⟨statement, isStatement, same⟩ := List.mem_filterMap.mp (List.mem_reverse.mp member)
  cases statement with
  | classDef pos name bases keywords body decorators =>
      cases same
      exact ⟨pos, bases, keywords, body, decorators, isStatement, rfl⟩
  | _ => cases same

theorem plainRawCall?_eq_some {node : Node} {raw : RawCall} (isCall : plainRawCall? node = some raw) :
    ∃ pos callee args keywords, node = .call pos callee args keywords ∧
      dottedName callee = some raw.name := by
  cases node with
  | call pos callee args keywords =>
      refine ⟨pos, callee, args, keywords, rfl, ?_⟩
      obtain ⟨isRaw, same⟩ := Option.ite_none_right_eq_some.mp isCall
      cases same
      rw [fullCallName_eq] at isRaw
      rw [fullCallName_eq]
      cases spelled : dottedName callee with
      | none =>
          rw [spelled] at isRaw
          exact absurd isRaw (by decide)
      | some name => rfl
  | _ => cases isCall

/-- Strict equality at a place wraps a function, which stands below `outer`: it is handed over by
name or as a method of `self`, or it is decorated. -/
inductive Wraps (module : Module) : Pos → List Node → Node → Prop
  | named {above place callee pos id rest keywords function body} :
      (above, .call place callee (.name pos id :: rest) keywords) ∈ module.occurrences →
      isStrictEquality callee = true → function ∈ module.body →
      functionBody? function = some (id, body) → Wraps module place [] function
  | method {above place callee pos spot attr rest keywords classPos className bases classKeywords
      members decorators function body} :
      (above, .call place callee (.attribute pos (.name spot "self") attr :: rest) keywords) ∈
        module.occurrences →
      isStrictEquality callee = true → classAround above = some className →
      .classDef classPos className bases classKeywords members decorators ∈ module.body →
      function ∈ members → functionBody? function = some (attr, body) →
      Wraps module place [.classDef classPos className bases classKeywords members decorators]
        function
  | decorated {outer pos isAsync own signature parts body decorators returns decorator} :
      (outer, .functionDef pos isAsync own signature parts body decorators returns) ∈
        module.occurrences →
      decorator ∈ decorators → isStrictDecorator decorator = true →
      Wraps module (namePos decorator) outer
        (.functionDef pos isAsync own signature parts body decorators returns)

/-- Strict equality at a place is blamed for a call below `above`: in the body of a lambda, in the
function that is wrapped, or in a function of the module that the wrapped one returns a call of. In
the last case a function nested in the wrapped one could be meant, which has the name given last. -/
inductive Blamed (module : Module) : Pos → List Node → Node → Option String → Prop
  | inLambda {above place callee pos signature parts body rest keywords} :
      (above, .call place callee (.lambda pos signature parts body :: rest) keywords) ∈
        module.occurrences →
      isStrictEquality callee = true →
      Blamed module place (.lambda pos signature parts body ::
        .call place callee (.lambda pos signature parts body :: rest) keywords :: above) body none
  | inWrapped {place outer function above call} : Wraps module place outer function →
      ComesOut module (function :: outer) above call → Blamed module place above call none
  | inHelper {place outer function wrapped below pos spot id args keywords helper body above call} :
      Wraps module place outer function → definedFunction? (outer, function) = some wrapped →
      Returns module (function :: outer) below (.call pos (.name spot id) args keywords) →
      helper ∈ module.body → functionBody? helper = some (id, body) →
      ComesOut module [helper] above call →
      Blamed module place above call (some (wrapped ++ ".<locals>." ++ id))

theorem definedFunction?_of_defines {outer : List Node} {function : Node} {own : String}
    {body : List Node} (defines : functionBody? function = some (own, body)) :
    definedFunction? (outer, function) = some ((scopeAround outer).qualify own) := by
  cases function with
  | functionDef =>
      cases defines
      rfl
  | _ => cases defines

namespace Wraps

variable {module : Module} {place : Pos} {outer : List Node} {function : Node}

theorem occurs (wraps : Wraps module place outer function) :
    (outer, function) ∈ module.occurrences := by
  cases wraps with
  | named _ _ member _ => exact Module.occurrences_root member
  | method _ _ _ isClass member _ =>
      exact Module.occurrences_inner (Module.occurrences_root isClass)
        (by simp [Node.children, member])
  | decorated occurs _ _ => exact occurs

theorem exists_defined (wraps : Wraps module place outer function) :
    ∃ name, definedFunction? (outer, function) = some name := by
  cases wraps with
  | named _ _ _ defines => exact ⟨_, definedFunction?_of_defines defines⟩
  | method _ _ _ _ _ defines => exact ⟨_, definedFunction?_of_defines defines⟩
  | decorated => exact ⟨_, rfl⟩

theorem exists_blamed (wraps : Wraps module place outer function) {own : String}
    {body : List Node} (defines : functionBody? function = some (own, body)) {raw : RawCall}
    (found : rawOutput (definitionsIn module.body) body = some raw) :
    ∃ above call nested, Blamed module place above call nested ∧
      plainRawCall? call = some raw := by
  rcases exists_comesOut wraps.occurs defines found with
    ⟨above, call, comesOut, isCall⟩ | ⟨below, pos, spot, id, args, keywords, returns, follows⟩
  · exact ⟨above, call, none, .inWrapped wraps comesOut, isCall⟩
  · obtain ⟨helperBody, looked, direct⟩ := Option.map_eq_some_iff.mp follows
    obtain ⟨helper, isHelper, definesHelper⟩ := definition_of_lookup looked
    obtain ⟨above, call, comesOut, isCall⟩ := exists_comesOut_of_direct
      (Module.occurrences_root isHelper) definesHelper direct
    have named : definedFunction? (outer, function) = _ := definedFunction?_of_defines defines
    exact ⟨above, call, _, .inHelper wraps named returns isHelper definesHelper comesOut, isCall⟩

end Wraps

theorem exists_blamed_of_argument {module : Module} {above rest keywords : List Node} {place : Pos}
    {callee argument : Node}
    (occurs : (above, .call place callee (argument :: rest) keywords) ∈ module.occurrences)
    (strict : isStrictEquality callee = true) {raw : RawCall}
    (found : rawArgument (definitionsIn module.body) (methodsIn module.body) (classAround above)
      argument = some raw) :
    ∃ above call nested, Blamed module place above call nested ∧
      plainRawCall? call = some raw := by
  unfold rawArgument at found
  split at found
  next => exact ⟨_, _, none, .inLambda occurs strict, found⟩
  next =>
    obtain ⟨body, looked, found⟩ := Option.bind_eq_some_iff.mp found
    obtain ⟨function, member, defines⟩ := definition_of_lookup looked
    exact (Wraps.named occurs strict member defines).exists_blamed defines found
  next =>
    obtain ⟨body, looked, found⟩ := Option.bind_eq_some_iff.mp found
    obtain ⟨definitions, lookedClass, lookedMethod⟩ := Option.bind_eq_some_iff.mp looked
    obtain ⟨className, around, isListed⟩ := Option.bind_eq_some_iff.mp lookedClass
    obtain ⟨_, _, _, members, _, isClass, rfl⟩ := class_of_lookup isListed
    obtain ⟨function, member, defines⟩ := definition_of_lookup lookedMethod
    exact (Wraps.method occurs strict around isClass member defines).exists_blamed defines found
  next => cases found

theorem exists_blamed {module : Module} {finding : Finding}
    (reported : finding ∈ strictMismatches module) :
    ∃ place above call nested raw, Blamed module place above call nested ∧
      plainRawCall? call = some raw ∧ finding = strictEqualityFinding place raw := by
  unfold strictMismatches at reported
  rw [walk_enter, List.flatMap_map] at reported
  obtain ⟨⟨above, node⟩, occurs, listed⟩ := List.mem_flatMap.mp reported
  dsimp only at listed
  unfold mismatchesAt at listed
  split at listed
  next =>
    obtain ⟨decorator, isDecorator, found⟩ := List.mem_filterMap.mp listed
    obtain ⟨member, strict⟩ := List.mem_filter.mp isDecorator
    obtain ⟨raw, isRaw, rfl⟩ := Option.map_eq_some_iff.mp found
    obtain ⟨above, call, nested, blamed, isCall⟩ :=
      (Wraps.decorated occurs member strict).exists_blamed rfl isRaw
    exact ⟨_, above, call, nested, raw, blamed, isCall, rfl⟩
  next =>
    split at listed
    next strict =>
      obtain ⟨raw, isRaw, rfl⟩ := Option.map_eq_some_iff.mp (Option.mem_toList.mp listed)
      obtain ⟨above, call, nested, blamed, isCall⟩ :=
        exists_blamed_of_argument occurs strict isRaw
      exact ⟨_, above, call, nested, raw, blamed, isCall, rfl⟩
    next => cases listed
  next => cases listed

theorem mem_blockArguments_of_strict {callee : Node} (strict : isStrictEquality callee = true)
    (argument : Node) (rest : List Node) : argument ∈ blockArguments callee (argument :: rest) := by
  have opens : ∀ name ∈ strictEqualityNames, blockOpeners.lookup name = some [0] := by decide
  rw [isStrictEquality_eq] at strict
  cases spelled : dottedName callee with
  | none =>
      rw [spelled] at strict
      cases strict
  | some name =>
      rw [spelled] at strict
      have places := opens name (List.contains_iff_mem.mp strict)
      simp [blockArguments, fullCallName?_eq, spelled, places]

theorem Wraps.registered {module : Module} {place : Pos} {outer : List Node} {function : Node}
    {name : String} (wraps : Wraps module place outer function)
    (defined : definedFunction? (outer, function) = some name) : Registered module name := by
  cases wraps with
  | named occurs strict _ defines =>
      rw [definedFunction?_of_defines defines] at defined
      cases defined
      exact .bare ⟨_, _, _, _, occurs, mem_blockArguments_of_strict strict _ _⟩
  | method occurs strict around _ _ defines =>
      rw [definedFunction?_of_defines defines] at defined
      cases defined
      exact .method ⟨_, _, _, _, occurs, mem_blockArguments_of_strict strict _ _⟩ around
  | decorated occurs member strict =>
      cases defined
      exact .decorated occurs (List.any_eq_true.mpr ⟨_, member, strict⟩)

theorem isReached_of_reach {module : Module} {name : String}
    (reached : (CallGraph.ofModule module).Reach (Registered module) name) :
    isReached module name = true := by
  refine CallGraph.reaches_iff.mpr (reached.mono fun source registered => ?_)
  exact List.mem_append_left _ (EntryPoints.mem_functions_iff.mpr (.inl registered))

theorem Placed.functionAround_eq {module : Module} {outer above : List Node} {function node : Node}
    {name : String} (placed : Placed module (function :: outer) above node)
    (defined : definedFunction? (outer, function) = some name) :
    functionAround above = some name := by
  rw [placed.beneath.functionAround_eq]
  cases function with
  | functionDef => exact defined
  | _ => cases defined

theorem Placed.nondetScope_eq {module : Module} (formed : module.Formed) {outer above : List Node}
    {function node : Node} {name : String} (placed : Placed module (function :: outer) above node)
    (defined : definedFunction? (outer, function) = some name) : nondetScope above = some name := by
  have first : functionFirst above = true := by
    rw [placed.beneath.functionFirst_eq]
    cases function with
    | functionDef => rfl
    | _ => cases defined
  have outside := lambdaAround_of_functionFirst formed placed.occurs first
  rw [nondetScope_of_outside outside, placed.functionAround_eq defined]

namespace Blamed

variable {module : Module} {place : Pos} {above : List Node} {call : Node} {nested : Option String}

theorem occurs (blamed : Blamed module place above call nested) :
    (above, call) ∈ module.occurrences := by
  cases blamed with
  | inLambda occurs _ =>
      have isArgument := Module.occurrences_inner occurs (List.mem_cons_of_mem _ List.mem_cons_self)
      exact Module.occurrences_inner isArgument (by simp [Node.children])
  | inWrapped _ comesOut => exact comesOut.placed.occurs
  | inHelper _ _ _ _ _ comesOut => exact comesOut.placed.occurs

theorem nested_bracketed (blamed : Blamed module place above call nested) :
    ∀ key ∈ nested, '<' ∈ key.toList := by
  cases blamed with
  | inHelper =>
      intro key same
      cases same
      simp
  | _ => simp

theorem exists_reached (formed : module.Formed) (blamed : Blamed module place above call nested)
    (absent : ∀ key ∈ nested, key ∉ (CallGraph.ofModule module).names) :
    ∃ scope, nondetScope above = some scope ∧ isReached module scope = true := by
  cases blamed with
  | inLambda occurs strict =>
      refine ⟨_, rfl, CallGraph.reaches_iff.mpr (.source ?_)⟩
      refine List.mem_append_left _ (EntryPoints.mem_functions_iff.mpr (.inr ?_))
      exact .lambda ⟨_, _, _, _, occurs, mem_blockArguments_of_strict strict _ _⟩
  | inWrapped wraps comesOut =>
      obtain ⟨name, defined⟩ := wraps.exists_defined
      exact ⟨name, comesOut.placed.nondetScope_eq formed defined,
        isReached_of_reach (.source (wraps.registered defined))⟩
  | inHelper wraps defined returns member defines comesOut =>
      have scope := comesOut.placed.nondetScope_eq formed (definedFunction?_of_defines defines)
      refine ⟨_, scope, isReached_of_reach ?_⟩
      have calls := CallGraph.calls_of_bare returns.placed.occurs
        (returns.placed.functionAround_eq defined) (absent _ rfl)
      exact .call (.source (wraps.registered defined)) calls

end Blamed

/-- Every mismatch is blamed on a raw call. Wherever a blamed call is non-deterministic, and no
nested function could be meant in place of the one that it stands in, the rule on unguarded calls
has recorded it and does not report it. -/
theorem blamed_calls_guarded {source : String} {module : Module}
    (parsed : parse source = .ok module) :
    (∀ finding ∈ findingsIn strictMismatches source, ∃ place above call nested raw,
      Blamed module place above call nested ∧ plainRawCall? call = some raw ∧
        finding = strictEqualityFinding place raw) ∧
    ∀ place above pos callee args keywords nested,
      Blamed module place above (.call pos callee args keywords) nested →
      isNondetCallee callee = true → (∀ key ∈ nested, key ∉ (CallGraph.ofModule module).names) →
      ∃ scope, nondetScope above = some scope ∧ ⟨some scope, pos⟩ ∈ nondetCalls module ∧
        findingAt (.looseCall scope) pos ∉ findingsIn looseCalls source := by
  rw [findingsIn_eq parsed, findingsIn_eq parsed]
  refine ⟨fun finding reported => exists_blamed reported, ?_⟩
  intro place above pos callee args keywords nested blamed isNondet absent
  obtain ⟨scope, recorded, reached⟩ := blamed.exists_reached (parse_formed parsed) absent
  have calls : CallsNondet module above pos := ⟨callee, args, keywords, blamed.occurs, isNondet⟩
  refine ⟨scope, recorded, mem_nondetCalls_iff.mpr ⟨above, calls, recorded⟩, ?_⟩
  intro reported
  have notReached := (loose_iff_not_isReached calls recorded).mp reported
  exact absurd (reached.symm.trans notReached) (by decide)

def helperText : String :=
  "def h():return gl.nondet.exec_prompt()\nclass A:\n def w(self):return h()\n" ++
    " def m(self):gl.eq_principle.strict_eq(self.w)"

theorem blamed_calls_guarded_helper : ∃ module, parse helperText = .ok module ∧
    findingsIn strictMismatches helperText =
      [strictEqualityFinding ⟨4, 13⟩ ⟨"gl.nondet.exec_prompt", 1⟩] ∧
    ∃ place above pos callee args keywords nested scope,
      Blamed module place above (.call pos callee args keywords) nested ∧
      isNondetCallee callee = true ∧ (∀ key ∈ nested, key ∉ (CallGraph.ofModule module).names) ∧
      nondetScope above = some scope ∧ ⟨some scope, pos⟩ ∈ nondetCalls module ∧
      findingAt (.looseCall scope) pos ∉ findingsIn looseCalls helperText := by
  have facts : (parse helperText).toOption.any (fun module => decide
      (strictMismatches module = [strictEqualityFinding ⟨4, 13⟩ ⟨"gl.nondet.exec_prompt", 1⟩] ∧
        ∀ name ∈ (CallGraph.ofModule module).names, '<' ∉ name.toList)) = true := by
    decide +kernel
  obtain ⟨module, parsed, facts⟩ := exists_parsed facts
  obtain ⟨mismatches, plain⟩ := of_decide_eq_true facts
  have reported := (findingsIn_eq parsed).trans mismatches
  obtain ⟨causes, guarded⟩ := blamed_calls_guarded parsed
  rw [reported] at causes
  obtain ⟨place, above, call, nested, raw, blamed, isCall, same⟩ := causes _ List.mem_cons_self
  have sameName : "gl.nondet.exec_prompt" = raw.name :=
    (Issue.strictEquality.inj (congrArg Finding.issue same)).2.1
  obtain ⟨pos, callee, args, keywords, rfl, spelled⟩ := plainRawCall?_eq_some isCall
  have isNondet : isNondetCallee callee = true := by
    rw [isNondetCallee, fullCallName?_eq, spelled, ← sameName]
    decide
  have absent : ∀ key ∈ nested, key ∉ (CallGraph.ofModule module).names := by
    intro key isNested listed
    exact plain key listed (blamed.nested_bracketed key isNested)
  obtain ⟨scope, recorded, listed, notReported⟩ :=
    guarded place above pos callee args keywords nested blamed isNondet absent
  exact ⟨module, parsed, reported, place, above, pos, callee, args, keywords, nested, scope, blamed,
    isNondet, absent, recorded, listed, notReported⟩

end ContractLint.Lint
