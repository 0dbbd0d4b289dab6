import ContractLint.Lint.Hazard
import ContractLint.Proofs.Lint.RawOutput

/-! Variables that a function returns. The rule on strict equality takes a variable for raw output
if all assignments that it has recorded are raw calls. It records plain, annotated and augmented
assignments to one name; what else binds the variable may bind it to anything. -/

namespace ContractLint.Lint

open Source

def takesRest : Node → Bool
  | .starred .. | .pattern _ .star _ _ => true
  | _ => false

def elements? : Node → Option (List Node)
  | .tuple _ elements | .list _ elements =>
    if elements.any takesRest then none else some elements
  | _ => none

def unpacked (value : Option Node) (before : List Node) (target : Node) (after : List Node) :
    Option Node :=
  (value.bind elements?).bind fun elements =>
    if takesRest target then none
    else if before.any takesRest then elements.reverse[after.length]?
    else elements[before.length]?

/-- Assigning a value to a target binds a name. `none` stands for values that are no expression of
the text. -/
inductive TargetBinds : Node → Option Node → String → Option Node → Prop
  | name {pos id value} : TargetBinds (.name pos id) value id value
  | starred {pos target value id given} : TargetBinds target none id given →
      TargetBinds (.starred pos target) value id given
  | tuple {pos before target after value id given} :
      TargetBinds target (unpacked value before target after) id given →
      TargetBinds (.tuple pos (before ++ target :: after)) value id given
  | list {pos before target after value id given} :
      TargetBinds target (unpacked value before target after) id given →
      TargetBinds (.list pos (before ++ target :: after)) value id given

def matched (form : PatternForm) (value : Option Node) (before : List Node) (part : Node)
    (after : List Node) : Option Node :=
  match form with
  | .capture | .alternatives => value
  | .sequence => unpacked value before part after
  | _ => none

/-- Matching a pattern with a value binds a name. -/
inductive Captures : Node → Option Node → String → Option Node → Prop
  | whole {pos parts value id} : Captures (.pattern pos .capture parts (some id)) value id value
  | rest {pos form parts value id} : form ≠ .capture →
      Captures (.pattern pos form parts (some id)) value id none
  | part {pos form before part after captured value id given} :
      Captures part (matched form value before part after) id given →
      Captures (.pattern pos form (before ++ part :: after) captured) value id given

def headerParts : Node → List Node
  | .lambda _ _ parts _ => parts
  | .functionDef _ _ _ _ parts _ decorators returns => parts ++ (decorators ++ returns.toList)
  | .classDef _ _ bases keywords _ decorators => bases ++ (keywords ++ decorators)
  | _ => []

/-- A node binds a name in the scope around it. The targets of a comprehension are not bound there,
and a definition binds its name and what the parts of its header bind. -/
inductive Binds : Node → String → Option Node → Prop
  | assign {pos targets target value id given} : target ∈ targets →
      TargetBinds target (some value) id given → Binds (.assign pos targets value) id given
  | annAssign {pos target declaredType value id given} : TargetBinds target (some value) id given →
      Binds (.annAssign pos target declaredType (some value)) id given
  | augAssign {pos target value id given} : TargetBinds target none id given →
      Binds (.augAssign pos target value) id given
  | assignment {pos target value id given} : TargetBinds target (some value) id given →
      Binds (.assignment pos target value) id given
  | forLoop {pos isAsync target source body otherwise id given} : TargetBinds target none id given →
      Binds (.forLoop pos isAsync target source body otherwise) id given
  | withItem {context target id given} : TargetBinds target none id given →
      Binds (.withItem context (some target)) id given
  | matching {pos subject arms shape guard body id given} : .matchCase shape guard body ∈ arms →
      Captures shape (some subject) id given → Binds (.matching pos subject arms) id given
  | handler {pos exception id body} : Binds (.handler pos exception (some id) body) id none
  | functionDef {pos isAsync id signature parts body decorators returns} :
      Binds (.functionDef pos isAsync id signature parts body decorators returns) id none
  | classDef {pos id bases keywords body decorators} :
      Binds (.classDef pos id bases keywords body decorators) id none
  | importing {pos modules} {imported : Alias} : imported ∈ modules →
      Binds (.importing pos modules) (imported.boundTo.getD (topModule imported.name)) none
  | importingFrom {pos module level names} {imported : Alias} : imported ∈ names →
      Binds (.importingFrom pos module level names) (imported.boundTo.getD imported.name) none
  | header {node part inner id given} : part ∈ headerParts node →
      inner ∈ part.nodesOutside opensScope → Binds inner id given → Binds node id given

def bindsNames : Node → Bool
  | .assign .. | .annAssign .. | .augAssign .. | .assignment .. | .forLoop .. | .withItem ..
  | .matching .. | .handler .. | .importing .. | .importingFrom .. => true
  | node => opensScope node

theorem Binds.bindsNames {node : Node} {id : String} {given : Option Node}
    (binds : Binds node id given) : bindsNames node = true := by
  cases binds with
  | header isPart =>
      cases node with
      | lambda | functionDef | classDef => rfl
      | _ => cases isPart
  | _ => rfl

def GivesRaw (given : Option Node) : Prop :=
  ∃ value raw, given = some value ∧ rawCall? value = some raw

theorem givesRaw_of_source {id : String} {value : Node} {pos : Pos}
    (isRaw : (assignmentOf id value pos).source ≠ none) : GivesRaw (some value) := by
  unfold assignmentOf at isRaw
  split at isRaw
  next raw isCall => exact ⟨value, raw, rfl, isCall⟩
  next => exact absurd rfl isRaw

theorem assignmentOf_target (id : String) (value : Node) (pos : Pos) :
    (assignmentOf id value pos).target = id := by
  unfold assignmentOf
  split <;> rfl

theorem Binds.of_recorded {node : Node} {id : String} {given : Option Node}
    (binds : Binds node id given) {assignment : VariableAssignment}
    (recorded : assignmentAt? node = some assignment) :
    assignment.target = id ∧ (assignment.source ≠ none → GivesRaw given) := by
  unfold assignmentAt? at recorded
  split at recorded
  next pos place own value =>
    cases recorded
    cases binds with
    | assign isTarget bound =>
        cases List.mem_singleton.mp isTarget
        cases bound
        exact ⟨assignmentOf_target _ value pos, givesRaw_of_source⟩
    | header isPart => cases isPart
  next pos place own declaredType value =>
    cases recorded
    cases binds with
    | annAssign bound =>
        cases bound
        exact ⟨assignmentOf_target _ value pos, givesRaw_of_source⟩
    | header isPart => cases isPart
  next pos place own value =>
    cases recorded
    cases binds with
    | augAssign bound =>
        cases bound
        exact ⟨rfl, fun isRaw => absurd rfl isRaw⟩
    | header isPart => cases isPart
  next => cases recorded

theorem isStatement_of_recorded {node : Node} {assignment : VariableAssignment}
    (recorded : assignmentAt? node = some assignment) : node.isStatement = true := by
  unfold assignmentAt? at recorded
  split at recorded <;> first | rfl | cases recorded

theorem mem_bodyAssignments {body : List Node} (built : ∀ node ∈ body, node.Built .statement)
    {node : Node} (isOpen : node ∈ openNodes body) {assignment : VariableAssignment}
    (recorded : assignmentAt? node = some assignment) : assignment ∈ bodyAssignments body := by
  obtain ⟨statement, member, inside⟩ := List.mem_flatMap.mp isOpen
  have open_eq : openStatements statement = followed statement := gathered (built statement member)
  refine List.mem_flatMap.mpr ⟨statement, member, ?_⟩
  rw [ownAssignments_eq, ← open_eq, List.mem_filterMap]
  exact ⟨node, List.mem_filter.mpr ⟨inside, isStatement_of_recorded recorded⟩, recorded⟩

/-- The nodes of a body that the rule does not record as assignments: those of other forms, and all
in match statements and in try statements for exception groups. -/
def Unrecorded (body : List Node) (node : Node) : Prop :=
  assignmentAt? node = none ∨
    ∃ outer ∈ ownNodes body, isPassedOver outer = true ∧ node ∈ outer.nodesOutside opensScope

theorem mem_open_of_not_unrecorded {body : List Node} {node : Node}
    (inside : node ∈ ownNodes body) (isRecorded : ¬Unrecorded body node) :
    node ∈ openNodes body ∧ ∃ assignment, assignmentAt? node = some assignment := by
  unfold Unrecorded at isRecorded
  push Not at isRecorded
  obtain ⟨statement, member, below⟩ := List.mem_flatMap.mp inside
  refine ⟨List.mem_flatMap.mpr ⟨statement, member, ?_⟩,
    Option.ne_none_iff_exists'.mp isRecorded.1⟩
  rcases Node.mem_nodesOutside_or below with isOpen | ⟨outer, isOuter, passed, isInner⟩
  · exact isOpen
  · have listed := List.mem_flatMap.mpr ⟨statement, member, isOuter⟩
    exact absurd isInner (isRecorded.2 outer listed passed)

theorem ComesTo.recorded_raw {definitions : Definitions} {body : List Node} {pos : Pos}
    {value : Node} {outcome : Option RawCall}
    (comesTo : ComesTo definitions body (.returning pos (some value)) outcome) {place : Pos}
    {id : String} (isName : awaited value = .name place id) :
    ∀ assignment ∈ bodyAssignments body, assignment.target = id → assignment.source ≠ none := by
  intro assignment member isTarget
  cases comesTo with
  | call isCall =>
      rw [rawCall?, isName] at isCall
      cases isCall
  | passed alsoName listed allRaw =>
      cases isName.symm.trans alsoName
      refine allRaw assignment ?_
      rw [← listed]
      exact List.mem_filter.mpr ⟨member, decide_eq_true isTarget⟩
  | helper _ isCall => cases isName.symm.trans isCall

/-- A variable that is taken for raw output is bound to raw calls only, except where the rule records
no assignment. -/
theorem passed_variable_raw_or_unrecorded {source : String} {module : Module}
    (parsed : parse source = .ok module) {above : List Node} {function : Node}
    (occurs : (above, function) ∈ module.occurrences) {own : String} {body : List Node}
    (defines : functionBody? function = some (own, body)) {definitions : Definitions} {pos : Pos}
    {value : Node} {raw : RawCall}
    (ends : EndsAt definitions body (.returning pos (some value)) (some raw)) {place : Pos}
    {id : String} (isName : awaited value = .name place id) :
    rawOutput definitions body = some raw ∧
    ∀ node ∈ ownNodes body, ∀ given, Binds node id given → GivesRaw given ∨ Unrecorded body node := by
  refine ⟨ends.rawOutput_eq, fun node inside given binds => ?_⟩
  by_cases isRecorded : Unrecorded body node
  · exact .inr isRecorded
  · obtain ⟨isOpen, assignment, recorded⟩ := mem_open_of_not_unrecorded inside isRecorded
    have listed := mem_bodyAssignments (body_built parsed occurs defines) isOpen recorded
    obtain ⟨isTarget, gives⟩ := binds.of_recorded recorded
    obtain ⟨_, _, _, comesTo, _⟩ := ends
    exact .inl (gives (comesTo.recorded_raw isName assignment listed isTarget))

def returnedName? : Node → Option String
  | .returning _ (some value) =>
    match awaited value with
    | .name _ id => some id
    | _ => none
  | _ => none

theorem exists_endsAt_name {definitions : Definitions} {body : List Node} {raw : RawCall}
    {id : String} (found : rawOutput definitions body = some raw)
    (named : ∀ returned ∈ bodyReturns body, returnedName? returned = some id) :
    ∃ pos value place, EndsAt definitions body (.returning pos (some value)) (some raw) ∧
      awaited value = .name place id := by
  obtain ⟨returned, ends⟩ := rawOutput_eq_some_iff.mp found
  have isNamed := named returned ends.mem_bodyReturns
  unfold returnedName? at isNamed
  split at isNamed
  next pos value =>
    split at isNamed
    next place own isName =>
      cases isNamed
      exact ⟨pos, value, place, ends, isName⟩
    next => cases isNamed
  next => cases isNamed

def rawBranchesText : String :=
  "async def f():\n if x:v:t=exec_prompt()\n else:v:t=await get_webpage()\n return v"

theorem passed_variable_raw_branches : ∃ module function own body pos value place,
    parse rawBranchesText = .ok module ∧ ([], function) ∈ module.occurrences ∧
      functionBody? function = some (own, body) ∧
      EndsAt (definitionsIn module.body) body (.returning pos (some value))
        (some ⟨"exec_prompt", 2⟩) ∧
      awaited value = .name place "v" ∧ (bodyAssignments body).length = 2 ∧
      ∀ node ∈ ownNodes body, ∀ given, Binds node "v" given → GivesRaw given := by
  obtain ⟨module, function, own, body, parsed, occurs, defines, facts⟩ :=
    exists_function rawBranchesText
      (fun module body => decide (
        rawOutput (definitionsIn module.body) body = some ⟨"exec_prompt", 2⟩ ∧
        (∀ returned ∈ bodyReturns body, returnedName? returned = some "v") ∧
        (bodyAssignments body).length = 2 ∧
        ∀ node ∈ ownNodes body, isPassedOver node = false ∧
          (assignmentAt? node = none → bindsNames node = false)))
      (by decide +kernel)
  obtain ⟨found, named, two, others⟩ := of_decide_eq_true facts
  obtain ⟨pos, value, place, ends, isName⟩ := exists_endsAt_name found named
  obtain ⟨_, all⟩ := passed_variable_raw_or_unrecorded parsed occurs defines ends isName
  refine ⟨module, function, own, body, pos, value, place, parsed, occurs, defines, ends, isName,
    two, fun node inside given binds => ?_⟩
  rcases all node inside given binds with isRaw | notRecorded | ⟨outer, isOuter, passed, _⟩
  · exact isRaw
  · exact absurd binds.bindsNames (by simp [(others node inside).2 notRecorded])
  · exact absurd passed (by simp [(others outer isOuter).1])

def reboundText : String :=
  "def f():\n v:t=exec_prompt()\n if(v:=0):pass\n return v"

def rebinds (id : String) : Node → Bool
  | .assignment _ (.name _ target) value => target == id && (rawCall? value).isNone
  | _ => false

theorem exists_binds_of_rebinds {id : String} {node : Node} (found : rebinds id node = true) :
    ∃ given, Binds node id given ∧ ¬GivesRaw given := by
  unfold rebinds at found
  split at found
  next pos place target value =>
    obtain ⟨same, notRaw⟩ := (Bool.and_eq_true _ _).mp found
    cases eq_of_beq same
    refine ⟨some value, .assignment .name, ?_⟩
    rintro ⟨_, raw, ⟨⟩, isRaw⟩
    rw [isRaw] at notRaw
    cases notRaw
  next => cases found

theorem rebound_variable_taken_for_raw : ∃ module function own body pos value place,
    parse reboundText = .ok module ∧ ([], function) ∈ module.occurrences ∧
      functionBody? function = some (own, body) ∧
      EndsAt (definitionsIn module.body) body (.returning pos (some value))
        (some ⟨"exec_prompt", 2⟩) ∧
      awaited value = .name place "v" ∧
      ∃ node ∈ ownNodes body, ∃ given, Binds node "v" given ∧ ¬GivesRaw given := by
  obtain ⟨module, function, own, body, parsed, occurs, defines, facts⟩ :=
    exists_function reboundText
      (fun module body => decide (
        rawOutput (definitionsIn module.body) body = some ⟨"exec_prompt", 2⟩ ∧
        (∀ returned ∈ bodyReturns body, returnedName? returned = some "v") ∧
        (ownNodes body).any (rebinds "v") = true))
      (by decide +kernel)
  obtain ⟨found, named, rebound⟩ := of_decide_eq_true facts
  obtain ⟨pos, value, place, ends, isName⟩ := exists_endsAt_name found named
  obtain ⟨node, inside, isRebound⟩ := List.any_eq_true.mp rebound
  exact ⟨module, function, own, body, pos, value, place, parsed, occurs, defines, ends, isName,
    node, inside, exists_binds_of_rebinds isRebound⟩

end ContractLint.Lint
