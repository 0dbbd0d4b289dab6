import ContractLint.Proofs.Lint.HandedCode

/-! Operations in blocks, as the rule recognises them: which of the calls that open a block count as
opening one inside a block, and which of the statements that write a field count as writing it. -/

namespace ContractLint.Lint

open Source

theorem mem_callOperations_iff {interfaces : List String} {callee : Node} {operation : Operation} :
    operation ∈ callOperations interfaces callee ↔
      (∃ pos value, callee = .attribute pos value "emit" ∧ operation = .emission) ∨
      (∃ name, dottedName callee = some name ∧ name ∈ contractAccessCalls ∧
        operation = .contractAccess name) ∨
      (∃ pos id, callee = .name pos id ∧ id ∈ interfaces ∧ operation = .interfaceAccess id) ∨
      ∃ name, dottedName callee = some name ∧ name ∈ nestedOpeners ∧
        operation = .nestedBlock name := by
  unfold callOperations
  rw [fullCallName?_eq]
  simp only [List.mem_append, or_assoc]
  refine or_congr ?_ (or_congr ?_ (or_congr ?_ ?_))
  · split
    next pos value => simp
    next notEmit =>
      refine iff_of_false List.not_mem_nil ?_
      rintro ⟨pos, value, isEmit, _⟩
      exact notEmit pos value isEmit
  · cases dottedName callee with
    | none => simp
    | some name => simp
  · split
    next pos id => simp
    next notName =>
      refine iff_of_false List.not_mem_nil ?_
      rintro ⟨pos, id, isName, _⟩
      exact notName pos id isName
  · cases dottedName callee with
    | none => simp
    | some name => simp

def writtenField? : Node → Option (Pos × String)
  | .assign pos targets _ => (targets.findSome? storageField).map (pos, ·)
  | .augAssign pos target _ => (storageField target).map (pos, ·)
  | _ => none

theorem mem_operationsAt_iff {interfaces : List String} {node : Node} {operation : Operation}
    {pos : Pos} : (operation, pos) ∈ operationsAt interfaces node ↔
      (∃ callee args keywords, node = .call pos callee args keywords ∧
        operation ∈ callOperations interfaces callee) ∨
      ∃ field, writtenField? node = some (pos, field) ∧ operation = .storageWrite field := by
  cases node with
  | call place callee args keywords =>
      simp only [operationsAt, writtenField?, List.mem_map, Prod.mk.injEq]
      constructor
      · rintro ⟨_, performed, rfl, rfl⟩
        exact .inl ⟨callee, args, keywords, rfl, performed⟩
      · rintro (⟨_, _, _, same, performed⟩ | ⟨_, impossible, _⟩)
        · cases same
          exact ⟨operation, performed, rfl, rfl⟩
        · cases impossible
  | assign place targets value =>
      simp only [operationsAt, writtenField?]
      cases targets.findSome? storageField <;> simp [eq_comm, and_comm]
  | augAssign place target value =>
      simp only [operationsAt, writtenField?]
      cases storageField target <;> simp [eq_comm, and_comm]
  | _ => simp [operationsAt, writtenField?]

theorem findingAt_inj {issue other : Issue} {pos place : Pos}
    (same : findingAt issue pos = findingAt other place) : issue = other ∧ pos = place := by
  cases pos
  cases place
  simpa [findingAt] using same

theorem isReached_of_functions {module : Module} {function : String}
    (reached : (CallGraph.ofModule module).reaches (EntryPoints.ofModule module).functions
      function = true) : isReached module function = true := by
  refine CallGraph.reaches_iff.mpr ((CallGraph.reaches_iff.mp reached).mono fun source isEntry => ?_)
  exact List.mem_append_left _ isEntry

structure OpensBlock (module : Module) (above : List Node) (pos : Pos) (opener function : String) :
    Prop where
  calls : ∃ callee args keywords, (above, .call pos callee args keywords) ∈ module.occurrences ∧
    dottedName callee = some opener
  isOpener : opener ∈ blockOpeners.map (·.1)
  around : functionAround above = some function

theorem mem_nestedOpeners_iff {opener : String} (isOpener : opener ∈ blockOpeners.map (·.1)) :
    opener ∈ nestedOpeners ↔
      (opener ∈ strictEqualityNames → opener = "gl.eq_principle.strict_eq") := by
  have each : ∀ opener ∈ blockOpeners.map (·.1), (opener ∈ nestedOpeners ↔
      (opener ∈ strictEqualityNames → opener = "gl.eq_principle.strict_eq")) := by decide
  exact each opener isOpener

theorem performs_nestedBlock_iff {module : Module} {above : List Node} {opener : String} {pos : Pos} :
    Performs module above (.nestedBlock opener) pos ↔ opener ∈ nestedOpeners ∧
      ∃ callee args keywords, (above, .call pos callee args keywords) ∈ module.occurrences ∧
        dottedName callee = some opener := by
  constructor
  · rintro ⟨node, occurs, performed⟩
    rcases mem_operationsAt_iff.mp performed with ⟨callee, args, keywords, rfl, called⟩ | written
    · simp only [mem_callOperations_iff, reduceCtorEq, and_false, exists_false, false_or,
        Operation.nestedBlock.injEq] at called
      obtain ⟨_, spelled, isNested, rfl⟩ := called
      exact ⟨isNested, callee, args, keywords, occurs, spelled⟩
    · simp at written
  · rintro ⟨isNested, callee, args, keywords, occurs, spelled⟩
    refine ⟨_, occurs, mem_operationsAt_iff.mpr (.inl ⟨callee, args, keywords, rfl, ?_⟩)⟩
    exact mem_callOperations_iff.mpr (.inr (.inr (.inr ⟨opener, spelled, isNested, rfl⟩)))

/-- A call that opens a block in a function that runs in a block is reported exactly if it is not one
of the further spellings of strict equality, and then it is reported as nested. -/
theorem nested_openers_reported_iff {source : String} {module : Module}
    (parsed : parse source = .ok module) {above : List Node} {pos : Pos} {opener function : String}
    (opens : OpensBlock module above pos opener function)
    (reached : (CallGraph.ofModule module).reaches (EntryPoints.ofModule module).functions
      function = true) :
    findingAt (.forbiddenOperation (.nestedBlock opener) function) pos ∈
        findingsIn forbiddenOperations source ↔
      (opener ∈ strictEqualityNames → opener = "gl.eq_principle.strict_eq") := by
  rw [findingsIn_eq parsed, ← mem_nestedOpeners_iff opens.isOpener]
  constructor
  · intro reported
    obtain ⟨other, operation, place, _, performs, _, _, same⟩ :=
      mem_forbiddenOperations_iff.mp reported
    cases congrArg Finding.issue same
    exact (performs_nestedBlock_iff.mp performs).1
  · intro isNested
    have performs := performs_nestedBlock_iff.mpr ⟨isNested, opens.calls⟩
    exact (forbidden_iff_isReached performs opens.around).mpr (isReached_of_functions reached)

def foundSoon (module : Module) (function : String) : Bool :=
  (CallGraph.ofModule module).answersWithin 20 (EntryPoints.ofModule module).functions function true

theorem forbiddenOperations_eq_nil {module : Module}
    (outside : (scopedOperations module).all (·.scope.isNone) = true) :
    forbiddenOperations module = [] := by
  rw [forbiddenOperations, List.filterMap_eq_nil_iff]
  intro found recorded
  have isNone := Option.isNone_iff_eq_none.mp (List.all_eq_true.mp outside found recorded)
  simp only [forbidden?, isNone]

def opensAt (pos : Pos) (opener function : String) : List Node × Node → Bool
  | (above, .call place callee _ _) => decide (place = pos ∧ dottedName callee = some opener ∧
    functionAround above = some function ∧ functionFirst above = true)
  | _ => false

theorem exists_opensBlock {module : Module} {pos : Pos} {opener function : String}
    (isOpener : opener ∈ blockOpeners.map (·.1))
    (found : module.occurrences.any (opensAt pos opener function) = true) :
    ∃ above, OpensBlock module above pos opener function ∧ functionFirst above = true := by
  obtain ⟨⟨above, node⟩, occurs, opens⟩ := List.any_eq_true.mp found
  cases node with
  | call =>
      obtain ⟨rfl, spelled, around, first⟩ := of_decide_eq_true opens
      exact ⟨above, ⟨⟨_, _, _, occurs, spelled⟩, isOpener, around⟩, first⟩
  | _ => cases opens

def nestedText : String :=
  "def g():gl.eq_principle.prompt_comparative(h)\ndef f():g()\ngl.vm.run_nondet(f)"

theorem nested_openers_reported_called : ∃ module above, parse nestedText = .ok module ∧
    OpensBlock module above ⟨1, 8⟩ "gl.eq_principle.prompt_comparative" "g" ∧
    (CallGraph.ofModule module).reaches (EntryPoints.ofModule module).functions "g" = true ∧
    findingAt (.forbiddenOperation (.nestedBlock "gl.eq_principle.prompt_comparative") "g") ⟨1, 8⟩ ∈
      findingsIn forbiddenOperations nestedText := by
  have facts : (parse nestedText).toOption.any (fun module => foundSoon module "g" &&
      module.occurrences.any (opensAt ⟨1, 8⟩ "gl.eq_principle.prompt_comparative" "g")) = true := by
    decide +kernel
  obtain ⟨module, parsed, facts⟩ := exists_parsed facts
  obtain ⟨found, opens⟩ := (Bool.and_eq_true _ _).mp facts
  obtain ⟨above, opens, _⟩ := exists_opensBlock (by decide) opens
  have reached := CallGraph.reaches_of_answersWithin found
  exact ⟨module, above, parsed, opens, reached,
    (nested_openers_reported_iff parsed opens reached).mpr (by decide)⟩

def shortOpenerText : String := "def f():eq_principle_strict_eq(g)\ngl.vm.run_nondet(f)"

theorem short_opener_unreported : ∃ module above, parse shortOpenerText = .ok module ∧
    OpensBlock module above ⟨1, 8⟩ "eq_principle_strict_eq" "f" ∧ functionFirst above = true ∧
    (CallGraph.ofModule module).reaches (EntryPoints.ofModule module).functions "f" = true ∧
    findingsIn forbiddenOperations shortOpenerText = [] := by
  have facts : (parse shortOpenerText).toOption.any (fun module => foundSoon module "f" &&
      (scopedOperations module).all (·.scope.isNone) &&
      module.occurrences.any (opensAt ⟨1, 8⟩ "eq_principle_strict_eq" "f")) = true := by
    decide +kernel
  obtain ⟨module, parsed, facts⟩ := exists_parsed facts
  simp only [Bool.and_eq_true] at facts
  obtain ⟨⟨found, outside⟩, opens⟩ := facts
  obtain ⟨above, opens, first⟩ := exists_opensBlock (by decide) opens
  refine ⟨module, above, parsed, opens, first, CallGraph.reaches_of_answersWithin found, ?_⟩
  rw [findingsIn_eq parsed, forbiddenOperations_eq_nil outside]

/-- An expression stands for a field of the contract or for an item in one. -/
inductive IsField : Node → String → Prop
  | own {pos place field} : IsField (.attribute pos (.name place "self") field) field
  | item {pos value index field} : IsField value field → IsField (.subscript pos value index) field

/-- Assigning to a target writes a field, if need be by taking the value apart. -/
inductive Touches : Node → String → Prop
  | field {target field} : IsField target field → Touches target field
  | tuple {pos elements element field} : element ∈ elements → Touches element field →
      Touches (.tuple pos elements) field
  | list {pos elements element field} : element ∈ elements → Touches element field →
      Touches (.list pos elements) field
  | starred {pos value field} : Touches value field → Touches (.starred pos value) field

inductive Assigns : Node → Pos → Node → Prop
  | plain {pos targets value target} : target ∈ targets →
      Assigns (.assign pos targets value) pos target
  | augmented {pos target value} : Assigns (.augAssign pos target value) pos target
  | annotated {pos target declaredType value} :
      Assigns (.annAssign pos target declaredType (some value)) pos target

structure WritesInBlock (module : Module) (above : List Node) (statement : Node) (pos : Pos)
    (function : String) : Prop where
  occurs : (above, statement) ∈ module.occurrences
  writes : ∃ target field, Assigns statement pos target ∧ Touches target field
  around : functionAround above = some function
  reached : (CallGraph.ofModule module).reaches (EntryPoints.ofModule module).functions
    function = true

/-- The statement is no annotated one, and a target of its own is a field. -/
inductive WritesDirectly : Node → Pos → Prop
  | plain {pos targets value target field} : target ∈ targets → IsField target field →
      WritesDirectly (.assign pos targets value) pos
  | augmented {pos target value field} : IsField target field →
      WritesDirectly (.augAssign pos target value) pos

def WrittenAt (module : Module) (pos : Pos) (function : String) : Prop :=
  ∃ above statement, (above, statement) ∈ module.occurrences ∧
    functionAround above = some function ∧ WritesDirectly statement pos

def ReportsWrite (source : String) (pos : Pos) (function : String) : Prop :=
  ∃ field, findingAt (.forbiddenOperation (.storageWrite field) function) pos ∈
    findingsIn forbiddenOperations source

theorem storageField_eq_some_iff {node : Node} {field : String} :
    storageField node = some field ↔ IsField node field := by
  constructor
  · intro found
    fun_induction storageField node with
    | case1 =>
        cases found
        exact .own
    | case2 pos value index ih => exact .item (ih found)
    | case3 => cases found
  · intro isField
    induction isField with
    | own => rfl
    | item _ ih => exact ih

theorem exists_writtenField_iff {statement : Node} {pos : Pos} :
    (∃ field, writtenField? statement = some (pos, field)) ↔ WritesDirectly statement pos := by
  constructor
  · rintro ⟨field, written⟩
    cases statement with
    | assign place targets value =>
        obtain ⟨_, found, same⟩ := Option.map_eq_some_iff.mp written
        obtain ⟨rfl, rfl⟩ := Prod.mk.inj same
        obtain ⟨target, isTarget, isField⟩ := List.exists_of_findSome?_eq_some found
        exact .plain isTarget (storageField_eq_some_iff.mp isField)
    | augAssign place target value =>
        obtain ⟨_, found, same⟩ := Option.map_eq_some_iff.mp written
        obtain ⟨rfl, rfl⟩ := Prod.mk.inj same
        exact .augmented (storageField_eq_some_iff.mp found)
    | _ => cases written
  · intro writes
    cases writes with
    | @plain _ targets _ target field isTarget isField =>
        have found : (targets.findSome? storageField).isSome := by
          rw [List.findSome?_isSome_iff]
          exact ⟨target, isTarget, by simp [storageField_eq_some_iff.mpr isField]⟩
        obtain ⟨first, isFirst⟩ := Option.isSome_iff_exists.mp found
        exact ⟨first, by simp [writtenField?, isFirst]⟩
    | @augmented _ _ _ field isField =>
        exact ⟨field, by simp [writtenField?, storageField_eq_some_iff.mpr isField]⟩

theorem exists_performs_iff {module : Module} {pos : Pos} {function : String} :
    (∃ field above, Performs module above (.storageWrite field) pos ∧
      functionAround above = some function) ↔ WrittenAt module pos function := by
  constructor
  · rintro ⟨field, above, ⟨node, occurs, performed⟩, around⟩
    refine ⟨above, node, occurs, around, exists_writtenField_iff.mp ?_⟩
    rcases mem_operationsAt_iff.mp performed with ⟨callee, _, _, _, called⟩ | ⟨_, written, same⟩
    · simp [mem_callOperations_iff] at called
    · exact ⟨_, written⟩
  · rintro ⟨above, statement, occurs, around, writes⟩
    obtain ⟨field, written⟩ := exists_writtenField_iff.mpr writes
    exact ⟨field, above, ⟨statement, occurs, mem_operationsAt_iff.mpr (.inr ⟨field, written, rfl⟩)⟩,
      around⟩

/-- Writes of fields are reported at the places, in functions that a block reaches, where a statement
writes one directly. So a statement of a function that runs in a block is reported for all that it
writes exactly if such a statement stands at its place: not if it is annotated, nor if its fields are
all in tuples, in lists or behind stars. -/
theorem storage_writes_reported_iff {source : String} {module : Module}
    (parsed : parse source = .ok module) :
    (∀ pos function, ReportsWrite source pos function ↔
      isReached module function = true ∧ WrittenAt module pos function) ∧
    ∀ above statement pos function, WritesInBlock module above statement pos function →
      (ReportsWrite source pos function ↔ WrittenAt module pos function) := by
  have exactly (pos : Pos) (function : String) : ReportsWrite source pos function ↔
      isReached module function = true ∧ WrittenAt module pos function := by
    unfold ReportsWrite
    rw [findingsIn_eq parsed, ← exists_performs_iff]
    constructor
    · rintro ⟨field, reported⟩
      obtain ⟨above, operation, place, _, performs, around, reached, same⟩ :=
        mem_forbiddenOperations_iff.mp reported
      obtain ⟨issue, rfl⟩ := findingAt_inj same
      cases issue
      exact ⟨reached, field, above, performs, around⟩
    · rintro ⟨reached, field, above, performs, around⟩
      exact ⟨field, (forbidden_iff_isReached performs around).mpr reached⟩
  refine ⟨exactly, fun above statement pos function writes => ?_⟩
  rw [exactly, and_iff_right (isReached_of_functions writes.reached)]

def oneTarget? : Node → Option (Pos × Node)
  | .augAssign pos target _ => some (pos, target)
  | .annAssign pos target _ (some _) => some (pos, target)
  | _ => none

theorem assigns_of_oneTarget {statement target : Node} {pos : Pos}
    (found : oneTarget? statement = some (pos, target)) : Assigns statement pos target := by
  unfold oneTarget? at found
  split at found
  next =>
    cases found
    exact .augmented
  next =>
    cases found
    exact .annotated
  next => cases found

def writesFieldAt (pos : Pos) (function : String) (holds : Node → Bool)
    (occurrence : List Node × Node) : Bool :=
  decide (functionAround occurrence.1 = some function) && holds occurrence.2 &&
    (oneTarget? occurrence.2).any fun (place, target) =>
      decide (place = pos) && (storageField target).isSome

theorem exists_writesInBlock {module : Module} {pos : Pos} {function : String} {holds : Node → Bool}
    (reached : foundSoon module function = true)
    (found : module.occurrences.any (writesFieldAt pos function holds) = true) :
    ∃ above statement, WritesInBlock module above statement pos function ∧
      holds statement = true := by
  obtain ⟨⟨above, statement⟩, occurs, writes⟩ := List.any_eq_true.mp found
  simp only [writesFieldAt, Bool.and_eq_true, decide_eq_true_eq, Option.any_eq_true] at writes
  obtain ⟨⟨around, held⟩, ⟨_, target⟩, single, rfl, isField⟩ := writes
  obtain ⟨field, isField⟩ := Option.isSome_iff_exists.mp isField
  refine ⟨above, statement, ⟨occurs, ⟨target, field, assigns_of_oneTarget single, ?_⟩, around,
    CallGraph.reaches_of_answersWithin reached⟩, held⟩
  exact .field (storageField_eq_some_iff.mp isField)

def itemText : String := "def f():self.x[i][j]+=1\ngl.vm.run_nondet(f)"

theorem storage_writes_reported_item : ∃ module above statement, parse itemText = .ok module ∧
    WritesInBlock module above statement ⟨1, 8⟩ "f" ∧ WrittenAt module ⟨1, 8⟩ "f" ∧
    ReportsWrite itemText ⟨1, 8⟩ "f" := by
  have facts : (parse itemText).toOption.any (fun module => foundSoon module "f" &&
      module.occurrences.any (writesFieldAt ⟨1, 8⟩ "f" fun statement =>
        writtenField? statement == some (⟨1, 8⟩, "x"))) = true := by
    decide +kernel
  obtain ⟨module, parsed, facts⟩ := exists_parsed facts
  obtain ⟨reached, found⟩ := (Bool.and_eq_true _ _).mp facts
  obtain ⟨above, statement, writes, held⟩ := exists_writesInBlock reached found
  have written : WrittenAt module ⟨1, 8⟩ "f" := ⟨above, statement, writes.occurs, writes.around,
    exists_writtenField_iff.mp ⟨"x", eq_of_beq held⟩⟩
  exact ⟨module, above, statement, parsed, writes, written,
    ((storage_writes_reported_iff parsed).2 above statement _ _ writes).mpr written⟩

def declaredText : String := "def f():self.x:t=0\ngl.vm.run_nondet(f)"

theorem declared_write_unreported : ∃ module above statement, parse declaredText = .ok module ∧
    WritesInBlock module above statement ⟨1, 8⟩ "f" ∧
    findingsIn forbiddenOperations declaredText = [] := by
  have facts : (parse declaredText).toOption.any (fun module => foundSoon module "f" &&
      (scopedOperations module).all (·.scope.isNone) &&
      module.occurrences.any (writesFieldAt ⟨1, 8⟩ "f" fun _ => true)) = true := by
    decide +kernel
  obtain ⟨module, parsed, facts⟩ := exists_parsed facts
  simp only [Bool.and_eq_true] at facts
  obtain ⟨⟨reached, outside⟩, found⟩ := facts
  obtain ⟨above, statement, writes, _⟩ := exists_writesInBlock reached found
  refine ⟨module, above, statement, parsed, writes, ?_⟩
  rw [findingsIn_eq parsed, forbiddenOperations_eq_nil outside]

end ContractLint.Lint
