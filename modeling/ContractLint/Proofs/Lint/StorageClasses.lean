import ContractLint.Proofs.Entries
import ContractLint.Proofs.Lint.CallNames
import ContractLint.Proofs.Lint.Members
import ContractLint.Proofs.Source.Unplaced

/-! Classes that storage uses although nothing declares them as storable. What decides on a class is
gathered from the whole module before any class is reported, so it does not matter where its
statements stand; only its place is that of the last of them. -/

namespace ContractLint

theorem nodup_eraseDups (items : List String) : items.eraseDups.Nodup := by
  induction length : items.length using Nat.strongRecOn generalizing items with
  | ind count ih =>
      cases items with
      | nil => simp
      | cons item rest =>
          rw [List.eraseDups_cons, List.nodup_cons]
          refine ⟨by simp, ih _ ?_ _ rfl⟩
          rw [← length, List.length_cons]
          exact Nat.lt_succ_of_le (List.length_filter_le _ _)

theorem filterMap_eq_singleton {α β : Type} [DecidableEq α] {items : List α} {item : α}
    (different : items.Nodup) (member : item ∈ items) (value : β) :
    items.filterMap (fun other => if other = item then some value else none) = [value] := by
  induction items with
  | nil => cases member
  | cons first rest ih =>
      obtain ⟨fresh, restDifferent⟩ := List.nodup_cons.mp different
      by_cases same : first = item
      · subst same
        have noOther :
            rest.filterMap (fun other => if other = first then some value else none) = [] := by
          rw [List.filterMap_eq_nil_iff]
          intro other isOther
          refine if_neg ?_
          rintro rfl
          exact fresh isOther
        simp [noOther]
      · have later := (List.mem_cons.mp member).resolve_left (Ne.symm same)
        simp [same, ih restDifferent later]

end ContractLint

namespace ContractLint.Lint

open Source

inductive Decorates : Node → String → Prop
  | plain {decorator name} : dottedName decorator = some name → Decorates decorator name
  | called {pos callee args keywords name} : Decorates callee name →
      Decorates (.call pos callee args keywords) name

/-- A type stands in an annotation, at its root or below subscripts only: in the base, as the
argument or as one of several arguments. -/
inductive TypeIn : Node → String → Prop
  | name {pos type} : TypeIn (.name pos type) type
  | base {pos value index type} : TypeIn value type → TypeIn (.subscript pos value index) type
  | argument {pos value index type} : TypeIn index type → TypeIn (.subscript pos value index) type
  | oneOf {pos value place elements element type} : element ∈ elements → TypeIn element type →
      TypeIn (.subscript pos value (.tuple place elements)) type

theorem decoratorName_eq_some_iff {decorator : Node} {name : String} :
    decoratorName decorator = some name ↔ Decorates decorator name := by
  constructor
  · intro named
    fun_induction decoratorName decorator with
    | case1 => exact .plain ((decoratorName_eq rfl).symm.trans named)
    | case2 => exact .plain named
    | case3 pos callee args keywords ih => exact .called (ih named)
    | case4 => cases named
  · intro decorates
    induction decorates with
    | @plain decorator name spelled =>
        cases decorator with
        | call => cases spelled
        | _ => exact (decoratorName_eq rfl).trans spelled
    | called _ ih => exact ih

theorem typeIn_subscript_iff {pos : Pos} {value index : Node} {type : String} :
    TypeIn (.subscript pos value index) type ↔
      TypeIn value type ∨ ∃ element ∈ indexElements index, TypeIn element type := by
  constructor
  · intro stands
    cases stands with
    | base inner => exact .inl inner
    | argument inner =>
        cases index with
        | tuple => cases inner
        | _ => exact .inr ⟨_, List.mem_singleton_self _, inner⟩
    | oneOf isElement inner => exact .inr ⟨_, isElement, inner⟩
  · rintro (inner | ⟨element, isElement, inner⟩)
    · exact .base inner
    · cases index with
      | tuple => exact .oneOf isElement inner
      | _ =>
          rw [List.mem_singleton.mp isElement] at inner
          exact .argument inner

theorem mem_annotationTypes_iff {declared : Node} {type : String} :
    type ∈ annotationTypes declared ↔ TypeIn declared type ∧ type ∉ plainTypes := by
  fun_induction annotationTypes declared with
  | case1 pos id isPlain =>
      refine iff_of_false List.not_mem_nil ?_
      rintro ⟨stands, notPlain⟩
      cases stands
      exact notPlain (List.contains_iff_mem.mp isPlain)
  | case2 pos id notPlain =>
      rw [List.mem_singleton]
      constructor
      · rintro rfl
        exact ⟨.name, by simpa using notPlain⟩
      · rintro ⟨stands, _⟩
        cases stands
        rfl
  | case3 pos value index ihValue ihIndex =>
      rw [typeIn_subscript_iff]
      simp only [List.mem_append, List.mem_flatMap, List.mem_attach, true_and, Subtype.exists,
        ihValue]
      constructor
      · rintro (⟨inner, notPlain⟩ | ⟨element, isElement, listed⟩)
        · exact ⟨.inl inner, notPlain⟩
        · obtain ⟨inner, notPlain⟩ := (ihIndex element isElement).mp listed
          exact ⟨.inr ⟨element, isElement, inner⟩, notPlain⟩
      · rintro ⟨inner | ⟨element, isElement, inner⟩, notPlain⟩
        · exact .inl ⟨inner, notPlain⟩
        · exact .inr ⟨element, isElement, (ihIndex element isElement).mpr ⟨inner, notPlain⟩⟩
  | case4 node notName notSubscript =>
      refine iff_of_false List.not_mem_nil ?_
      rintro ⟨stands, _⟩
      cases stands with
      | name => exact notName _ _ rfl
      | base | argument | oneOf => exact notSubscript _ _ _ rfl

inductive DefinesClass (name : String) : Node → Prop
  | intro {pos bases keywords body decorators} :
      DefinesClass name (.classDef pos name bases keywords body decorators)

/-- The node is a class statement of the name that is declared as storable. -/
inductive DeclaresStorable (name : String) : Node → Prop
  | intro {pos bases keywords body decorators decorator mark} : decorator ∈ decorators →
      Decorates decorator mark → mark = "allow_storage" ∨ mark = "gl.allow_storage" →
      DeclaresStorable name (.classDef pos name bases keywords body decorators)

/-- The node is a contract class with a field that has the type in its annotation. -/
inductive StorageUses (type : String) : Node → Prop
  | intro {pos own bases keywords body decorators base spelling place target declared value} :
      base ∈ bases → dottedName base = some spelling → spelling ∈ contractBases →
      .annAssign place target declared value ∈ body → TypeIn declared type →
      StorageUses type (.classDef pos own bases keywords body decorators)

/-- Storage uses a class of the module that is not declared as storable. -/
structure NeedsDeclaration (module : Module) (name : String) : Prop where
  defined : ∃ node ∈ module.nodes, DefinesClass name node
  undeclared : ¬∃ node ∈ module.nodes, DeclaresStorable name node
  notPlain : name ∉ plainTypes
  used : ∃ node ∈ module.nodes, StorageUses name node

theorem mem_storableClasses_iff {module : Module} {name : String} :
    name ∈ storableClasses module ↔ ∃ node ∈ module.nodes, DeclaresStorable name node := by
  rw [storableClasses, List.mem_eraseDups, List.mem_map]
  constructor
  · rintro ⟨statement, listed, rfl⟩
    obtain ⟨listed, isStorable⟩ := List.mem_filter.mp listed
    obtain ⟨node, isNode, found⟩ := List.mem_filterMap.mp listed
    refine ⟨node, isNode, ?_⟩
    cases node with
    | classDef pos own bases keywords body decorators =>
        cases found
        obtain ⟨decorator, isDecorator, marked⟩ := List.any_eq_true.mp isStorable
        obtain ⟨mark, named, isMark⟩ := (Option.any_eq_true _ _).mp marked
        refine .intro isDecorator (decoratorName_eq_some_iff.mp named) ?_
        simpa [storageDecorators] using isMark
    | _ => cases found
  · rintro ⟨node, isNode, declares⟩
    obtain ⟨isDecorator, decorates, isMark⟩ := declares
    refine ⟨_, List.mem_filter.mpr ⟨List.mem_filterMap.mpr ⟨_, isNode, rfl⟩, ?_⟩, rfl⟩
    refine List.any_eq_true.mpr ⟨_, isDecorator, ?_⟩
    rw [decoratorName_eq_some_iff.mpr decorates]
    simpa [storageDecorators] using isMark

theorem isContractClass_iff {pos : Pos} {own : String}
    {bases keywords body decorators : List Node} :
    isContractClass (.classDef pos own bases keywords body decorators) = true ↔
      ∃ base ∈ bases, ∃ spelling, dottedName base = some spelling ∧ spelling ∈ contractBases := by
  simp [isContractClass, isContractBase, Option.any_eq_true]

theorem mem_bodyTypes_iff {body : List Node} {type : String} :
    type ∈ bodyTypes body ↔ ∃ place target declared value,
      .annAssign place target declared value ∈ body ∧ type ∈ annotationTypes declared := by
  rw [bodyTypes, List.mem_flatMap]
  constructor
  · rintro ⟨statement, inBody, listed⟩
    cases statement with
    | annAssign => exact ⟨_, _, _, _, inBody, listed⟩
    | _ => cases listed
  · rintro ⟨place, target, declared, value, inBody, listed⟩
    exact ⟨_, inBody, listed⟩

theorem mem_storageTypes_iff {module : Module} {type : String} :
    type ∈ storageTypes module ↔
      (∃ node ∈ module.nodes, StorageUses type node) ∧ type ∉ plainTypes := by
  rw [storageTypes, List.mem_eraseDups, List.mem_flatMap]
  constructor
  · rintro ⟨contract, isContract, listed⟩
    obtain ⟨node, isNode, found⟩ := List.mem_filterMap.mp isContract
    obtain ⟨place, target, declared, value, inBody, listed⟩ := mem_bodyTypes_iff.mp listed
    obtain ⟨stands, notPlain⟩ := mem_annotationTypes_iff.mp listed
    refine ⟨⟨node, isNode, ?_⟩, notPlain⟩
    cases node with
    | classDef =>
        obtain ⟨isClass, same⟩ := Option.ite_none_right_eq_some.mp found
        cases same
        obtain ⟨base, isBase, spelling, spelled, isContractBase⟩ := isContractClass_iff.mp isClass
        exact .intro isBase spelled isContractBase inBody stands
    | _ => cases found
  · rintro ⟨⟨node, isNode, isBase, spelled, isContractBase, inBody, stands⟩, notPlain⟩
    refine ⟨_, List.mem_filterMap.mpr ⟨_, isNode, if_pos (isContractClass_iff.mpr ?_)⟩, ?_⟩
    · exact ⟨_, isBase, _, spelled, isContractBase⟩
    · exact mem_bodyTypes_iff.mpr
        ⟨_, _, _, _, inBody, mem_annotationTypes_iff.mpr ⟨stands, notPlain⟩⟩

def classPlace? (name : String) : Node → Option Pos
  | .classDef pos own _ _ _ _ => if own = name then some pos else none
  | _ => none

/-- The places of the class statements of a name, in the order in which they are visited. -/
def placesOfClass (module : Module) (name : String) : List Pos :=
  module.nodes.filterMap (classPlace? name)

theorem lookup_foldl_setEntry (statements : List ClassStatement) (places : List (String × Pos))
    (name : String) :
    (statements.foldl (fun places statement => setEntry places statement.name statement.pos)
      places).lookup name =
        ((statements.filter (·.name = name)).map (·.pos)).getLast?.or (places.lookup name) := by
  induction statements generalizing places with
  | nil => rfl
  | cons statement rest ih =>
      rw [List.foldl_cons, ih, lookup_setEntry]
      by_cases same : statement.name = name
      · simp [same, List.getLast?_cons]
      · simp [same, Ne.symm same]

theorem lookup_classPlaces (module : Module) (name : String) :
    (classPlaces module).lookup name = (placesOfClass module name).getLast? := by
  have listed : ((classStatements module).filter (·.name = name)).map (·.pos) =
      placesOfClass module name := by
    rw [classStatements, List.filter_filterMap, List.map_filterMap, placesOfClass]
    refine List.filterMap_congr fun node _ => ?_
    cases node with
    | classDef pos own =>
        by_cases same : own = name <;> simp [classStatement?, classPlace?, Option.filter, same]
    | _ => rfl
  have folded := lookup_foldl_setEntry (classStatements module) [] name
  rw [listed, List.lookup_nil, Option.or_none] at folded
  exact folded

theorem exists_lookup_classPlaces_iff {module : Module} {name : String} :
    (∃ pos, (classPlaces module).lookup name = some pos) ↔
      ∃ node ∈ module.nodes, DefinesClass name node := by
  rw [← Option.isSome_iff_exists, lookup_classPlaces, List.getLast?_isSome, placesOfClass]
  constructor
  · intro inner
    obtain ⟨pos, listed⟩ := List.exists_mem_of_ne_nil _ inner
    obtain ⟨node, isNode, found⟩ := List.mem_filterMap.mp listed
    cases node with
    | classDef =>
        obtain ⟨rfl, _⟩ := Option.ite_none_right_eq_some.mp found
        exact ⟨_, isNode, .intro⟩
    | _ => cases found
  · rintro ⟨_, isNode, ⟨⟩⟩
    exact List.ne_nil_of_mem (List.mem_filterMap.mpr ⟨_, isNode, if_pos rfl⟩)

theorem undeclared?_eq_some_iff {storable : List String} {places : List (String × Pos)}
    {type : String} {finding : Finding} :
    undeclared? storable places type = some finding ↔
      type ∉ storable ∧ ∃ pos, places.lookup type = some pos ∧
        finding = findingAt (.undeclaredStorage type) pos := by
  rw [undeclared?, Option.ite_none_left_eq_some, List.contains_iff_mem, Option.map_eq_some_iff]
  simp only [eq_comm]

theorem undeclared?_of_needsDeclaration {module : Module} {name : String}
    (needs : NeedsDeclaration module name) : ∃ pos,
      (placesOfClass module name).getLast? = some pos ∧
      undeclared? (storableClasses module) (classPlaces module) name =
        some (findingAt (.undeclaredStorage name) pos) := by
  obtain ⟨pos, found⟩ := exists_lookup_classPlaces_iff.mpr needs.defined
  refine ⟨pos, lookup_classPlaces module name ▸ found, undeclared?_eq_some_iff.mpr ?_⟩
  exact ⟨fun storable => needs.undeclared (mem_storableClasses_iff.mp storable), pos, found, rfl⟩

theorem needsDeclaration_of_mem {module : Module} {finding : Finding} {name : String}
    (found : finding ∈ undeclaredClasses module) (issue : finding.issue = .undeclaredStorage name) :
    NeedsDeclaration module name := by
  rw [undeclaredClasses, List.mem_mergeSort] at found
  obtain ⟨type, isUsed, found⟩ := List.mem_filterMap.mp found
  obtain ⟨undeclared, pos, isPlace, rfl⟩ := undeclared?_eq_some_iff.mp found
  cases issue
  obtain ⟨used, notPlain⟩ := mem_storageTypes_iff.mp isUsed
  exact ⟨exists_lookup_classPlaces_iff.mp ⟨pos, isPlace⟩,
    fun declares => undeclared (mem_storableClasses_iff.mpr declares), notPlain, used⟩

def isOfClass (name : String) (finding : Finding) : Bool := finding.issue = .undeclaredStorage name

theorem filter_undeclaredClasses {module : Module} {name : String} {pos : Pos}
    (isUsed : name ∈ storageTypes module)
    (found : undeclared? (storableClasses module) (classPlaces module) name =
      some (findingAt (.undeclaredStorage name) pos)) :
    (undeclaredClasses module).filter (isOfClass name) =
      [findingAt (.undeclaredStorage name) pos] := by
  have each (type : String) :
      (undeclared? (storableClasses module) (classPlaces module) type).filter (isOfClass name) =
        if type = name then some (findingAt (.undeclaredStorage name) pos) else none := by
    by_cases same : type = name
    · rw [same, found, if_pos rfl]
      simp [Option.filter, isOfClass, findingAt]
    · rw [if_neg same, Option.filter_eq_none_iff]
      intro finding reported
      obtain ⟨_, _, _, rfl⟩ := undeclared?_eq_some_iff.mp reported
      simpa [isOfClass, findingAt] using same
  have once : ((storageTypes module).filterMap (undeclared? (storableClasses module)
      (classPlaces module))).filter (isOfClass name) =
        [findingAt (.undeclaredStorage name) pos] := by
    rw [List.filter_filterMap]
    simp only [each]
    exact filterMap_eq_singleton (nodup_eraseDups _) isUsed _
  have sorted := (List.mergeSort_perm ((storageTypes module).filterMap
    (undeclared? (storableClasses module) (classPlaces module))) Finding.before).filter
      (isOfClass name)
  rw [once] at sorted
  exact List.perm_singleton.mp sorted

theorem not_isOfClass_of_member {statement : Node} {finding : Finding}
    (found : finding ∈ memberFindings statement) (name : String) :
    isOfClass name finding = false := by
  refine decide_eq_false fun same => ?_
  unfold memberFindings at found
  split at found
  next => cases Method.mem_findings_iff.mp found <;> cases same
  next =>
    have issue := issue_of_mem_fieldFindings found
    rw [same] at issue
    cases issue
  next => cases found

theorem filter_structureFindings (module : Module) (name : String) :
    (structureFindings module).filter (isOfClass name) =
      (undeclaredClasses module).filter (isOfClass name) := by
  have ofMembers : (classFindings module).filter (isOfClass name) = [] := by
    rw [List.filter_eq_nil_iff]
    intro finding found
    obtain ⟨contract, _, found⟩ := List.mem_flatMap.mp found
    obtain ⟨statement, _, found⟩ := List.mem_flatMap.mp found
    simp [not_isOfClass_of_member found]
  have ofFurther : (furtherContracts module).filter (isOfClass name) = [] := by
    rw [List.filter_eq_nil_iff]
    intro finding found
    obtain ⟨contract, _, rfl⟩ := List.mem_map.mp found
    simp [isOfClass, findingAt]
  rw [structureFindings, List.filter_append, List.filter_append, ofMembers, ofFurther]
  rfl

def ReportsUndeclared (module : Module) (name : String) : Prop :=
  ∃ finding ∈ structureFindings module, finding.issue = .undeclaredStorage name

theorem reportsUndeclared_iff {module : Module} {name : String} :
    ReportsUndeclared module name ↔ NeedsDeclaration module name := by
  have listed : ReportsUndeclared module name ↔
      ∃ finding, finding ∈ (undeclaredClasses module).filter (isOfClass name) := by
    simp only [ReportsUndeclared, ← filter_structureFindings, List.mem_filter, isOfClass,
      decide_eq_true_eq]
  rw [listed]
  constructor
  · rintro ⟨finding, found⟩
    obtain ⟨found, isOf⟩ := List.mem_filter.mp found
    exact needsDeclaration_of_mem found (of_decide_eq_true isOf)
  · intro needs
    obtain ⟨pos, _, found⟩ := undeclared?_of_needsDeclaration needs
    rw [filter_undeclaredClasses (mem_storageTypes_iff.mpr ⟨needs.used, needs.notPlain⟩) found]
    exact ⟨_, List.mem_singleton_self _⟩

theorem Followed.unplaced {value node : Node} {parts : List String}
    (followed : Followed value parts node) : Followed value.unplaced parts node.unplaced := by
  induction followed with
  | here => exact .here
  | further _ ih => exact .further ih

theorem isUnnamed_unplaced (value : Node) : isUnnamed value.unplaced = isUnnamed value := by
  cases value <;> rfl

theorem dottedName_unplaced (node : Node) : dottedName node.unplaced = dottedName node := by
  rcases exists_followed node with
    ⟨pos, id, parts, followed⟩ | ⟨value, parts, unnamed, followed⟩
  · rw [dottedName_eq, followed.unplaced.nameParts_eq, dottedName_eq, followed.nameParts_eq]
    rfl
  · rw [dottedName_eq, followed.unplaced.nameParts_eq, dottedName_eq, followed.nameParts_eq,
      nameParts_of_unnamed unnamed, nameParts_of_unnamed (isUnnamed_unplaced value ▸ unnamed)]

theorem decoratorName_unplaced (decorator : Node) :
    decoratorName decorator.unplaced = decoratorName decorator := by
  fun_induction decoratorName decorator with
  | case1 => rfl
  | case2 pos value attr => exact dottedName_unplaced (.attribute pos value attr)
  | case3 pos callee args keywords ih => exact ih
  | case4 decorator notName notAttribute notCall =>
      cases decorator with
      | name => exact absurd rfl (notName _ _)
      | «attribute» => exact absurd rfl (notAttribute _ _ _)
      | call => exact absurd rfl (notCall _ _ _ _)
      | _ => rfl

theorem decorates_unplaced {decorator : Node} {name : String} :
    Decorates decorator.unplaced name ↔ Decorates decorator name := by
  rw [← decoratorName_eq_some_iff, decoratorName_unplaced, decoratorName_eq_some_iff]

theorem TypeIn.unplaced {declared : Node} {type : String} (stands : TypeIn declared type) :
    TypeIn declared.unplaced type := by
  induction stands with
  | name => exact .name
  | base _ ih => exact .base ih
  | argument _ ih => exact .argument ih
  | oneOf isElement _ ih =>
      rw [Node.unplaced, Node.unplaced, unplacedAll_eq]
      exact .oneOf (List.mem_map_of_mem isElement) ih

theorem TypeIn.of_unplaced {declared : Node} {type : String}
    (stands : TypeIn declared.unplaced type) : TypeIn declared type := by
  generalize bare : declared.unplaced = unplaced at stands
  induction stands generalizing declared with
  | name =>
      cases declared with
      | name => cases bare; exact .name
      | _ => cases bare
  | base _ ih =>
      cases declared with
      | subscript => cases bare; exact .base (ih rfl)
      | _ => cases bare
  | argument _ ih =>
      cases declared with
      | subscript => cases bare; exact .argument (ih rfl)
      | _ => cases bare
  | oneOf listed _ ih =>
      cases declared with
      | subscript pos value index =>
          cases index with
          | tuple =>
              cases bare
              rw [unplacedAll_eq] at listed
              obtain ⟨element, isElement, same⟩ := List.mem_map.mp listed
              exact .oneOf isElement (ih same)
          | _ => cases bare
      | _ => cases bare

theorem typeIn_unplaced {declared : Node} {type : String} :
    TypeIn declared.unplaced type ↔ TypeIn declared type :=
  ⟨TypeIn.of_unplaced, TypeIn.unplaced⟩

theorem definesClass_unplaced (name : String) (node : Node) :
    DefinesClass name node.unplaced ↔ DefinesClass name node := by
  constructor
  · intro defines
    cases node with
    | classDef => cases defines; exact .intro
    | _ => cases defines
  · rintro ⟨⟩
    exact .intro

theorem declaresStorable_unplaced (name : String) (node : Node) :
    DeclaresStorable name node.unplaced ↔ DeclaresStorable name node := by
  constructor
  · intro declares
    cases node with
    | classDef =>
        obtain ⟨listed, decorates, isMark⟩ := declares
        rw [unplacedAll_eq] at listed
        obtain ⟨decorator, isDecorator, rfl⟩ := List.mem_map.mp listed
        exact .intro isDecorator (decorates_unplaced.mp decorates) isMark
    | _ => cases declares
  · rintro ⟨isDecorator, decorates, isMark⟩
    simp only [Node.unplaced, unplacedAll_eq]
    exact .intro (List.mem_map_of_mem isDecorator) (decorates_unplaced.mpr decorates) isMark

theorem storageUses_unplaced (type : String) (node : Node) :
    StorageUses type node.unplaced ↔ StorageUses type node := by
  constructor
  · intro uses
    cases node with
    | classDef =>
        obtain ⟨listedBase, spelled, isContractBase, listed, stands⟩ := uses
        rw [unplacedAll_eq] at listedBase listed
        obtain ⟨base, isBase, rfl⟩ := List.mem_map.mp listedBase
        obtain ⟨statement, inBody, same⟩ := List.mem_map.mp listed
        rw [dottedName_unplaced] at spelled
        cases statement with
        | annAssign =>
            cases same
            exact .intro isBase spelled isContractBase inBody (typeIn_unplaced.mp stands)
        | _ => cases same
    | _ => cases uses
  · rintro ⟨isBase, spelled, isContractBase, inBody, stands⟩
    rw [← dottedName_unplaced] at spelled
    simp only [Node.unplaced, unplacedAll_eq]
    exact .intro (List.mem_map_of_mem isBase) spelled isContractBase
      (List.mem_map_of_mem inBody) (typeIn_unplaced.mpr stands)

theorem needsDeclaration_of_sameStatements {module other : Module}
    (same : module.SameStatements other) {name : String} :
    NeedsDeclaration module name ↔ NeedsDeclaration other name := by
  have defined := same.exists_node_iff (definesClass_unplaced name)
  have declared := same.exists_node_iff (declaresStorable_unplaced name)
  have used := same.exists_node_iff (storageUses_unplaced name)
  constructor
  · rintro ⟨isDefined, undeclared, notPlain, isUsed⟩
    exact ⟨defined.mp isDefined, mt declared.mpr undeclared, notPlain, used.mp isUsed⟩
  · rintro ⟨isDefined, undeclared, notPlain, isUsed⟩
    exact ⟨defined.mpr isDefined, mt declared.mp undeclared, notPlain, used.mpr isUsed⟩

instance (module : Module) (name : String) : Decidable (NeedsDeclaration module name) :=
  decidable_of_iff (name ∈ storageTypes module ∧ name ∉ storableClasses module ∧
    ((classPlaces module).lookup name).isSome) <| by
      rw [mem_storageTypes_iff, mem_storableClasses_iff, Option.isSome_iff_exists,
        exists_lookup_classPlaces_iff]
      constructor
      · rintro ⟨⟨used, notPlain⟩, undeclared, defined⟩
        exact ⟨defined, undeclared, notPlain, used⟩
      · rintro ⟨defined, undeclared, notPlain, used⟩
        exact ⟨⟨used, notPlain⟩, undeclared, defined⟩

/-- A class is reported exactly if storage uses it without a declaration, once and at the last of
its statements. The statements of the module can stand in any order, and the same classes are
reported. -/
theorem undeclared_classes_reported (module : Module) :
    (∀ name, ReportsUndeclared module name ↔ NeedsDeclaration module name) ∧
    (∀ name, NeedsDeclaration module name → ∃ pos,
      (placesOfClass module name).getLast? = some pos ∧
      (structureFindings module).filter (isOfClass name) =
        [findingAt (.undeclaredStorage name) pos]) ∧
    ∀ other : Module, module.SameStatements other → ∀ name,
      ReportsUndeclared module name ↔ ReportsUndeclared other name := by
  refine ⟨fun name => reportsUndeclared_iff, fun name needs => ?_, fun other same name => ?_⟩
  · obtain ⟨pos, isLast, found⟩ := undeclared?_of_needsDeclaration needs
    refine ⟨pos, isLast, ?_⟩
    have isUsed := mem_storageTypes_iff.mpr ⟨needs.used, needs.notPlain⟩
    rw [filter_structureFindings, filter_undeclaredClasses isUsed found]
  · rw [reportsUndeclared_iff, reportsUndeclared_iff, needsDeclaration_of_sameStatements same]

def storageText : String :=
  "class C(Contract):\n x:Array[A,B]\nclass A:0\n@gl.allow_storage()\nclass B:0\nclass A:0"

theorem undeclared_classes_reported_last : ∃ module, parse storageText = .ok module ∧
    (structureFindings module).filter (isOfClass "A") =
      [findingAt (.undeclaredStorage "A") ⟨6, 0⟩] ∧
    ReportsUndeclared ⟨module.body.reverse⟩ "A" ∧ ¬ReportsUndeclared module "B" := by
  have found : (parse storageText).toOption.any (fun module =>
      NeedsDeclaration module "A" ∧ ¬NeedsDeclaration module "B" ∧
        (placesOfClass module "A").getLast? = some ⟨6, 0⟩) = true := by
    decide +kernel
  obtain ⟨module, parsed, held⟩ := exists_parsed found
  obtain ⟨needed, notNeeded, last⟩ := of_decide_eq_true held
  obtain ⟨needs, once, anyOrder⟩ := undeclared_classes_reported module
  obtain ⟨pos, isLast, reported⟩ := once "A" needed
  cases last.symm.trans isLast
  have reversed : module.SameStatements ⟨module.body.reverse⟩ :=
    (List.reverse_perm module.body).symm.map Node.unplaced
  exact ⟨module, parsed, reported,
    (anyOrder _ reversed "A").mp ((needs "A").mpr needed), mt (needs "B").mp notNeeded⟩

end ContractLint.Lint
