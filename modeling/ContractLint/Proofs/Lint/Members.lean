import ContractLint.Proofs.Lint.Hosts

/-! The members of contract classes. A special method needs a decorator that makes it public, and no
public method may have a name like its own, so it is refused whatever its decorators are. The size
of an array is looked at if it is written as a number alone, not behind signs. -/

namespace ContractLint.Lint

open Source

/-- The statement stands in the body of a contract class. -/
def IsMember (module : Module) (statement : Node) : Prop :=
  ∃ contract ∈ contractClasses module, statement ∈ contract.body

theorem mem_checkStructure_of_isMember {source : String} {module : Module}
    (parsed : parse source = .ok module) {statement : Node} (isMember : IsMember module statement)
    {finding : Finding} (found : finding ∈ memberFindings statement) :
    finding ∈ checkStructure source := by
  obtain ⟨contract, isContract, inBody⟩ := isMember
  have ofClass : finding ∈ classFindings module :=
    List.mem_flatMap.mpr ⟨contract, isContract, List.mem_flatMap.mpr ⟨statement, inBody, found⟩⟩
  rw [checkStructure, findingsIn_eq parsed]
  exact List.mem_append_right _ (List.mem_append_left _ (List.mem_append_left _ ofClass))

theorem mem_findIf_iff {condition : Bool} {finding other : Finding} :
    finding ∈ findIf condition other ↔ condition = true ∧ finding = other := by
  cases condition <;> simp [findIf]

/-- `self` is the first of the parameters that can be passed in both ways. -/
def regularSelf (signature : Signature) : Bool := signature.regular.head?.any (·.name = "self")

/-- The rules on methods, each with what it finds. -/
inductive Method.Breaks (method : Method) : Finding → Prop
  | publicConstructor : method.name = "__init__" → method.isPublic = true →
      Breaks method (findingAt .publicConstructor method.pos)
  | publicUnderscores : method.isPublic = true → Text.startsWith method.name "__" = true →
      method.name ≠ "__init__" →
      Breaks method (findingAt (.publicUnderscores method.name) method.pos)
  | specialDecorator {required} : specialMethods.lookup method.name = some required →
      required ∉ method.decorators →
      Breaks method (findingAt (.specialDecorator method.name required) method.pos)
  | missingReturnType : method.isView = true → method.isTyped = false →
      Breaks method (findingAt (.missingReturnType method.name) method.pos)
  | variadic {parameter} : method.isPublic = true → method.signature.variadic = some parameter →
      Breaks method (findingAt (.variadicParameters method.name) parameter.pos)
  | keywordVariadic {parameter} : method.isPublic = true →
      method.signature.keywordVariadic = some parameter →
      Breaks method (findingAt (.keywordParameters method.name) parameter.pos)
  | missingSelf : regularSelf method.signature = false →
      Breaks method (findingAt (.missingSelf method.name) method.pos)

theorem Method.mem_findings_iff {method : Method} {finding : Finding} :
    finding ∈ method.findings ↔ method.Breaks finding := by
  constructor
  · intro found
    simp only [Method.findings, List.mem_append, mem_findIf_iff, Bool.and_eq_true,
      decide_eq_true_eq, Bool.not_eq_true', bne_iff_ne] at found
    rcases found with
      (((((⟨⟨isInit, isPublic⟩, rfl⟩ | ⟨⟨⟨isPublic, starts⟩, notInit⟩, rfl⟩) | special) |
        ⟨⟨isView, untyped⟩, rfl⟩) | variadic) | keywords) | ⟨noSelf, rfl⟩
    · exact .publicConstructor isInit isPublic
    · exact .publicUnderscores isPublic starts notInit
    · split at special
      next required isSpecial =>
        obtain ⟨missing, rfl⟩ := mem_findIf_iff.mp special
        exact .specialDecorator isSpecial (by simpa using missing)
      next => cases special
    · exact .missingReturnType isView untyped
    · split at variadic
      next parameter given =>
        obtain ⟨isPublic, rfl⟩ := mem_findIf_iff.mp variadic
        exact .variadic isPublic given
      next => cases variadic
    · split at keywords
      next parameter given =>
        obtain ⟨isPublic, rfl⟩ := mem_findIf_iff.mp keywords
        exact .keywordVariadic isPublic given
      next => cases keywords
    · exact .missingSelf noSelf
  · intro breaks
    cases breaks with
    | publicConstructor isInit isPublic => simp [Method.findings, findIf, isInit, isPublic]
    | publicUnderscores isPublic starts notInit =>
        simp [Method.findings, findIf, isPublic, starts, notInit]
    | specialDecorator isSpecial missing => simp [Method.findings, findIf, isSpecial, missing]
    | missingReturnType isView untyped => simp [Method.findings, findIf, isView, untyped]
    | variadic isPublic given | keywordVariadic isPublic given =>
        simp [Method.findings, findIf, isPublic, given]
    | missingSelf noSelf =>
        simp only [Method.findings, List.mem_append]
        exact .inr (mem_findIf_iff.mpr ⟨by simpa [regularSelf] using noSelf, rfl⟩)

inductive FieldIssue (field : String) : Issue → Prop
  | rawInteger : FieldIssue field (.rawInteger field)
  | builtinContainer {container substitute} :
      FieldIssue field (.builtinContainer field container substitute)
  | arraySize : FieldIssue field (.arraySize field)
  | mapKey {key} : FieldIssue field (.mapKey field key)

theorem issue_of_mem_fieldFindings {pos : Pos} {field : String} {declared : Node}
    {finding : Finding} (found : finding ∈ fieldFindings pos field declared) :
    FieldIssue field finding.issue := by
  have ofContainer {type : String} (found : finding ∈ containerFindings pos field type) :
      FieldIssue field finding.issue := by
    unfold containerFindings at found
    split at found
    next =>
      rw [List.mem_singleton.mp found]
      exact .builtinContainer
    next => cases found
  have ofArray {index : Node} (found : finding ∈ arrayFindings pos field index) :
      FieldIssue field finding.issue := by
    unfold arrayFindings at found
    split at found
    next =>
      obtain ⟨_, rfl⟩ := mem_findIf_iff.mp found
      exact .arraySize
    next => cases found
  have ofMap {index : Node} (found : finding ∈ mapFindings pos field index) :
      FieldIssue field finding.issue := by
    unfold mapFindings at found
    split at found
    next =>
      obtain ⟨_, rfl⟩ := mem_findIf_iff.mp found
      exact .mapKey
    next => cases found
  unfold fieldFindings at found
  split at found
  next =>
    rcases List.mem_append.mp found with isRaw | isContainer
    · obtain ⟨_, rfl⟩ := mem_findIf_iff.mp isRaw
      exact .rawInteger
    · exact ofContainer isContainer
  next =>
    rw [List.mem_append, List.mem_append] at found
    rcases found with (isContainer | isArray) | isMap
    · exact ofContainer isContainer
    · split at isArray
      next => exact ofArray isArray
      next => cases isArray
    · split at isMap
      next => exact ofMap isMap
      next => cases isMap
  next => cases found

section SpecialMethods

def namedParameters (signature : Signature) : List Parameter :=
  signature.positionalOnly ++ signature.regular ++ signature.keywordOnly

/-- What the rules ask of a special method, taken one by one. -/
structure AsAsked (signature : Signature) (decorators : List Node) : Prop where
  takesSelf : ∃ first ∈ (namedParameters signature).head?, first.name = "self"
  notVariadic : signature.variadic = none
  notKeywordVariadic : signature.keywordVariadic = none
  writes : ∃ decorator ∈ decorators, decoratorName decorator = some writeDecorator
  notView : ∀ decorator ∈ decorators, decoratorName decorator ≠ some viewDecorator

structure SpecialMethod (module : Module) (statement : Node) (pos : Pos) (name : String)
    (signature : Signature) (decorators : List Node) : Prop where
  isMember : IsMember module statement
  isMethod : ∃ isAsync parts body returns,
    statement = .functionDef pos isAsync name signature parts body decorators returns
  isSpecial : name = "__receive__" ∨ name = "__on_bridge__"

/-- A special method that has all that is asked of it is never refused. -/
def SpecialMethodsAccepted (module : Module) : Prop :=
  ∀ statement pos name signature decorators,
    SpecialMethod module statement pos name signature decorators → AsAsked signature decorators →
    ∀ finding ∈ memberFindings statement, structureSeverity finding.code ≠ .error

theorem special_named {name : String} (isSpecial : name = "__receive__" ∨ name = "__on_bridge__") :
    Text.startsWith name "__" = true ∧ name ≠ "__init__" ∧
      specialMethods.lookup name = some writeDecorator := by
  rcases isSpecial with rfl | rfl <;> decide

theorem Method.exists_error_of_special {method : Method}
    (isSpecial : method.name = "__receive__" ∨ method.name = "__on_bridge__") :
    ∃ finding ∈ method.findings, structureSeverity finding.code = .error := by
  obtain ⟨starts, notInit, required⟩ := special_named isSpecial
  by_cases writes : writeDecorator ∈ method.decorators
  · -- The decorator that is asked for makes the method public.
    have isPublic : method.isPublic = true := by simp [Method.isPublic, writes]
    have isError : structureSeverity "E013" = .error := by decide
    exact ⟨_, mem_findings_iff.mpr (.publicUnderscores isPublic starts notInit), isError⟩
  · have isError : structureSeverity "E019" = .error := by decide
    exact ⟨_, mem_findings_iff.mpr (.specialDecorator required writes), isError⟩

namespace SpecialMethod

variable {module : Module} {statement : Node} {pos : Pos} {name : String} {signature : Signature}
  {decorators : List Node}

theorem exists_error (special : SpecialMethod module statement pos name signature decorators) :
    ∃ finding ∈ memberFindings statement, structureSeverity finding.code = .error := by
  obtain ⟨_, ⟨isAsync, parts, body, returns, rfl⟩, isSpecial⟩ := special
  exact Method.exists_error_of_special isSpecial

theorem findings_eq (special : SpecialMethod module statement pos name signature decorators)
    (asked : AsAsked signature decorators) :
    memberFindings statement = findingAt (.publicUnderscores name) pos ::
      findIf (!regularSelf signature) (findingAt (.missingSelf name) pos) := by
  obtain ⟨_, ⟨isAsync, parts, body, returns, rfl⟩, isSpecial⟩ := special
  obtain ⟨starts, notInit, required⟩ := special_named isSpecial
  have writes : writeDecorator ∈ decorators.filterMap decoratorName :=
    List.mem_filterMap.mpr asked.writes
  have notView : viewDecorator ∉ decorators.filterMap decoratorName := by
    intro isView
    obtain ⟨decorator, isDecorator, named⟩ := List.mem_filterMap.mp isView
    exact asked.notView decorator isDecorator named
  rw [← List.contains_iff_mem] at writes
  rw [← List.contains_iff_mem, Bool.not_eq_true] at notView
  simp only [memberFindings, Method.findings, Method.isPublic, Method.isView, writes, notView,
    starts, required, asked.notVariadic, asked.notKeywordVariadic]
  simp [findIf, regularSelf, notInit]

end SpecialMethod

/-- A special method is refused whatever its decorators and its parameters are. One that has all
that is asked of it is refused for being public under its name, and besides only if `self` cannot be
passed in both ways; so no module with such a method has its special methods accepted. -/
theorem special_methods_refused {source : String} {module : Module}
    (parsed : parse source = .ok module) :
    (∀ statement pos name signature decorators,
      SpecialMethod module statement pos name signature decorators →
      (∃ finding ∈ memberFindings statement,
        finding ∈ checkStructure source ∧ structureSeverity finding.code = .error) ∧
      (AsAsked signature decorators →
        memberFindings statement = findingAt (.publicUnderscores name) pos ::
          findIf (!regularSelf signature) (findingAt (.missingSelf name) pos))) ∧
    (SpecialMethodsAccepted module ↔ ∀ statement pos name signature decorators,
      SpecialMethod module statement pos name signature decorators →
      ¬AsAsked signature decorators) := by
  refine ⟨fun statement pos name signature decorators special => ⟨?_, special.findings_eq⟩, ?_, ?_⟩
  · obtain ⟨finding, found, isError⟩ := special.exists_error
    exact ⟨finding, found, mem_checkStructure_of_isMember parsed special.isMember found, isError⟩
  · intro accepted statement pos name signature decorators special asked
    obtain ⟨finding, found, isError⟩ := special.exists_error
    exact accepted _ _ _ _ _ special asked finding found isError
  · intro unasked statement pos name signature decorators special asked
    exact absurd asked (unasked _ _ _ _ _ special)

theorem asAsked_iff {signature : Signature} {decorators : List Node} :
    AsAsked signature decorators ↔
      (namedParameters signature).head?.any (·.name = "self") = true ∧
      signature.variadic = none ∧ signature.keywordVariadic = none ∧
      (∃ decorator ∈ decorators, decoratorName decorator = some writeDecorator) ∧
      ∀ decorator ∈ decorators, decoratorName decorator ≠ some viewDecorator := by
  simp only [Option.any_eq_true, decide_eq_true_eq]
  constructor
  · rintro ⟨takesSelf, notVariadic, notKeywordVariadic, writes, notView⟩
    exact ⟨takesSelf, notVariadic, notKeywordVariadic, writes, notView⟩
  · rintro ⟨takesSelf, notVariadic, notKeywordVariadic, writes, notView⟩
    exact ⟨takesSelf, notVariadic, notKeywordVariadic, writes, notView⟩

instance (signature : Signature) (decorators : List Node) :
    Decidable (AsAsked signature decorators) :=
  decidable_of_iff _ asAsked_iff.symm

def isAskedSpecial (pos : Pos) (name : String) : Node → Bool
  | .functionDef place _ own signature _ _ decorators _ =>
    decide (place = pos ∧ own = name ∧ AsAsked signature decorators) && regularSelf signature
  | _ => false

def hasMember (holds : Node → Bool) (module : Module) : Bool :=
  (contractClasses module).any fun contract => contract.body.any holds

theorem exists_member {holds : Node → Bool} {module : Module}
    (found : hasMember holds module = true) :
    ∃ statement, IsMember module statement ∧ holds statement = true := by
  obtain ⟨contract, isContract, found⟩ := List.any_eq_true.mp found
  obtain ⟨statement, inBody, held⟩ := List.any_eq_true.mp found
  exact ⟨statement, ⟨contract, isContract, inBody⟩, held⟩

theorem exists_special (source : String) (pos : Pos) {name : String}
    (isSpecial : name = "__receive__" ∨ name = "__on_bridge__")
    (found : (parse source).toOption.any (hasMember (isAskedSpecial pos name)) = true) :
    ∃ module statement signature decorators, parse source = .ok module ∧
      SpecialMethod module statement pos name signature decorators ∧
      AsAsked signature decorators ∧ regularSelf signature = true := by
  obtain ⟨module, parsed, found⟩ := exists_parsed found
  obtain ⟨statement, isMember, held⟩ := exists_member found
  cases statement with
  | functionDef place isAsync own signature parts body decorators returns =>
      obtain ⟨same, regular⟩ := (Bool.and_eq_true _ _).mp held
      obtain ⟨rfl, rfl, asked⟩ := of_decide_eq_true same
      exact ⟨module, _, signature, decorators, parsed,
        ⟨isMember, ⟨isAsync, parts, body, returns, rfl⟩, isSpecial⟩, asked, regular⟩
  | _ => cases held

def bridgeText : String :=
  "class C(Contract):\n @x(1)\n @gl.public.write\n def __on_bridge__(self,a):0"

theorem special_methods_refused_bridge : ∃ module statement signature decorators,
    parse bridgeText = .ok module ∧
    SpecialMethod module statement ⟨4, 1⟩ "__on_bridge__" signature decorators ∧
    AsAsked signature decorators ∧
    memberFindings statement = [findingAt (.publicUnderscores "__on_bridge__") ⟨4, 1⟩] := by
  obtain ⟨module, statement, signature, decorators, parsed, special, asked, regular⟩ :=
    exists_special bridgeText ⟨4, 1⟩ (.inr rfl) (by decide +kernel)
  have findings := ((special_methods_refused parsed).1 _ _ _ _ _ special).2 asked
  rw [regular] at findings
  exact ⟨module, statement, signature, decorators, parsed, special, asked, findings⟩

def receiveText : String := "class C(Contract):\n @gl.public.write\n def __receive__(self):0"

theorem asked_receiver_refused : ∃ module statement signature decorators,
    parse receiveText = .ok module ∧
    SpecialMethod module statement ⟨3, 1⟩ "__receive__" signature decorators ∧
    AsAsked signature decorators ∧
    findingAt (.publicUnderscores "__receive__") ⟨3, 1⟩ ∈ checkStructure receiveText ∧
    ¬SpecialMethodsAccepted module := by
  obtain ⟨module, statement, signature, decorators, parsed, special, asked, _⟩ :=
    exists_special receiveText ⟨3, 1⟩ (.inl rfl) (by decide +kernel)
  refine ⟨module, statement, signature, decorators, parsed, special, asked, ?_, fun accepted => ?_⟩
  · refine mem_checkStructure_of_isMember parsed special.isMember ?_
    rw [special.findings_eq asked]
    exact List.mem_cons_self
  · obtain ⟨finding, found, isError⟩ := special.exists_error
    exact accepted _ _ _ _ _ special asked finding found isError

end SpecialMethods

section ArraySizes

/-- An integer, written as a number with any number of minus signs before it. -/
inductive SpellsInteger : Node → Int → Prop
  | literal {pos value} : SpellsInteger (.constant pos (.integer value)) value
  | negative {pos operand value} : SpellsInteger operand value →
      SpellsInteger (.unary pos .minus operand) (-value)

/-- A storage field that is an array of elements, with the size as a literal type. -/
structure SizedField (module : Module) (statement : Node) (pos : Pos) (field : String)
    (element size : Node) : Prop where
  isMember : IsMember module statement
  declares : ∃ place arrayPos arrayPlace argumentsPos literalPos literalPlace value,
    statement = .annAssign pos (.name place field)
      (.subscript arrayPos (.name arrayPlace "Array")
        (.tuple argumentsPos [element, .subscript literalPos (.name literalPlace "Literal") size]))
      value

/-- The size of the array is reported for the statement. -/
def ReportsSize (source : String) (statement : Node) : Prop :=
  ∃ finding ∈ memberFindings statement, finding.code = "E017" ∧ finding ∈ checkStructure source

def isNumber : Node → Bool
  | .constant _ (.integer _) => true
  | _ => false

theorem fieldFindings_array (pos : Pos) (field : String) (arrayPos place : Pos) (index : Node) :
    fieldFindings pos field (.subscript arrayPos (.name place "Array") index) =
      arrayFindings pos field index := by
  simp [fieldFindings, containerFindings, containerSubstitutes, List.lookup_cons]

theorem not_isPositive_integer (number : Nat) :
    (!isPositive (.integer number)) = decide ((number : Int) = 0) := by
  by_cases zero : number = 0
  · simp [isPositive, zero]
  · simp [isPositive, zero, Nat.pos_of_ne_zero zero]

theorem SizedField.findings_eq {module : Module} {statement : Node} {pos : Pos} {field : String}
    {element size : Node} (sized : SizedField module statement pos field element size)
    {value : Int} (spelled : SpellsInteger size value) :
    memberFindings statement =
      findIf (isNumber size && decide (value = 0)) (findingAt (.arraySize field) pos) := by
  obtain ⟨_, place, arrayPos, arrayPlace, argumentsPos, literalPos, literalPlace, given, rfl⟩ :=
    sized
  rw [memberFindings, fieldFindings_array]
  cases spelled with
  | literal =>
      rw [← not_isPositive_integer]
      rfl
  | negative => rfl

/-- The size of an array is reported exactly if it is the number zero itself. So for an integer that
is written as a number with minus signs, the report tells whether it is positive exactly if it is
positive or has no sign. -/
theorem array_size_reported_iff {source : String} {module : Module}
    (parsed : parse source = .ok module) {statement : Node} {pos : Pos} {field : String}
    {element size : Node} (sized : SizedField module statement pos field element size)
    {value : Int} (spelled : SpellsInteger size value) :
    (ReportsSize source statement ↔ isNumber size = true ∧ value = 0) ∧
      ((ReportsSize source statement ↔ value ≤ 0) ↔ isNumber size = true ∨ 0 < value) := by
  have exactly : ReportsSize source statement ↔ isNumber size = true ∧ value = 0 := by
    have listed (finding : Finding) : finding ∈ memberFindings statement ↔
        (isNumber size = true ∧ value = 0) ∧ finding = findingAt (.arraySize field) pos := by
      rw [sized.findings_eq spelled, mem_findIf_iff, Bool.and_eq_true, decide_eq_true_eq]
    constructor
    · rintro ⟨finding, found, _⟩
      exact ((listed finding).mp found).1
    · intro isZero
      have found := (listed _).mpr ⟨isZero, rfl⟩
      exact ⟨_, found, rfl, mem_checkStructure_of_isMember parsed sized.isMember found⟩
  have nonnegative : isNumber size = true → 0 ≤ value := by
    intro number
    cases spelled with
    | literal => exact Int.natCast_nonneg _
    | negative => cases number
  refine ⟨exactly, ?_⟩
  rw [exactly]
  by_cases number : isNumber size = true
  · have bound := nonnegative number
    refine iff_of_true ⟨fun isZero => by omega, fun notPositive => ⟨number, by omega⟩⟩ (.inl number)
  · simp only [number, Bool.false_eq_true, false_and, false_iff, false_or, Int.not_le]

def declaredSize? : Node → Option (Pos × String × Node)
  | .annAssign pos (.name _ field) (.subscript _ (.name _ array) (.tuple _
      [_, .subscript _ (.name _ literal) size])) _ =>
    if array = "Array" ∧ literal = "Literal" then some (pos, field, size) else none
  | _ => none

def integer? : Node → Option Int
  | .constant _ (.integer value) => some value
  | .unary _ .minus operand => (integer? operand).map (- ·)
  | _ => none

theorem spellsInteger_of_integer? {node : Node} {value : Int} (found : integer? node = some value) :
    SpellsInteger node value := by
  fun_induction integer? node generalizing value with
  | case1 pos number =>
      cases found
      exact .literal
  | case2 pos operand ih =>
      obtain ⟨inner, isInner, rfl⟩ := Option.map_eq_some_iff.mp found
      exact .negative (ih isInner)
  | case3 => cases found

def declaresSize (pos : Pos) (field : String) (value : Int) (signed : Bool) (statement : Node) :
    Bool :=
  (declaredSize? statement).any fun (place, name, size) =>
    decide (place = pos ∧ name = field ∧ integer? size = some value ∧ isNumber size = !signed)

theorem exists_sizedField (source : String) (pos : Pos) (field : String) (value : Int)
    (signed : Bool)
    (found : (parse source).toOption.any (hasMember (declaresSize pos field value signed)) = true) :
    ∃ module statement element size, parse source = .ok module ∧
      SizedField module statement pos field element size ∧ SpellsInteger size value ∧
      isNumber size = !signed := by
  obtain ⟨module, parsed, found⟩ := exists_parsed found
  obtain ⟨statement, isMember, held⟩ := exists_member found
  obtain ⟨⟨place, name, size⟩, declared, same⟩ := (Option.any_eq_true _ _).mp held
  obtain ⟨rfl, rfl, spelled, number⟩ := of_decide_eq_true same
  unfold declaredSize? at declared
  split at declared
  next pos _ field _ _ array _ element _ _ literal size given =>
    obtain ⟨⟨rfl, rfl⟩, same⟩ := Option.ite_none_right_eq_some.mp declared
    cases same
    exact ⟨module, _, element, _, parsed, ⟨isMember, _, _, _, _, _, _, given, rfl⟩,
      spellsInteger_of_integer? spelled, number⟩
  next => cases declared

def emptyArrayText : String := "class C(Contract):\n x:Array[u8,Literal[0]]"

theorem array_size_reported_zero : ∃ module statement element size,
    parse emptyArrayText = .ok module ∧ SizedField module statement ⟨2, 1⟩ "x" element size ∧
    SpellsInteger size 0 ∧ ReportsSize emptyArrayText statement := by
  obtain ⟨module, statement, element, size, parsed, sized, spelled, number⟩ :=
    exists_sizedField emptyArrayText ⟨2, 1⟩ "x" 0 false (by decide +kernel)
  exact ⟨module, statement, element, size, parsed, sized, spelled,
    (array_size_reported_iff parsed sized spelled).1.mpr ⟨number, rfl⟩⟩

def negativeArrayText : String := "class C(Contract):\n x:Array[u8,Literal[-1]]"

theorem negative_size_unreported : ∃ module statement element size,
    parse negativeArrayText = .ok module ∧ SizedField module statement ⟨2, 1⟩ "x" element size ∧
    SpellsInteger size (-1) ∧ ¬ReportsSize negativeArrayText statement := by
  obtain ⟨module, statement, element, size, parsed, sized, spelled, signed⟩ :=
    exists_sizedField negativeArrayText ⟨2, 1⟩ "x" (-1) true (by decide +kernel)
  refine ⟨module, statement, element, size, parsed, sized, spelled, ?_⟩
  rintro ⟨finding, found, _⟩
  rw [sized.findings_eq spelled, signed] at found
  cases found

end ArraySizes

end ContractLint.Lint
