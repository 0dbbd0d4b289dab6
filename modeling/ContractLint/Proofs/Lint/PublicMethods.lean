import ContractLint.Proofs.Lint.StorageClasses

/-! Which decorators make a method public for the rules. The decorator for methods that write has
variants, for methods that take payments and for methods that ask for gas, and the rules know it in
its plain form only: a method with a variant in its place goes unchecked. -/

namespace ContractLint.Lint

open Source

def isWriteVariant : Node → Bool
  | .call _ callee _ _ => dottedName callee = some "gl.public.write.min_gas"
  | decorator => dottedName decorator = some "gl.public.write.payable"

/-- The rules take a method with these decorators for a public one. -/
def TakenPublic (decorators : List Node) : Prop :=
  ∃ decorator ∈ decorators, decoratorName decorator = some writeDecorator ∨
    decoratorName decorator = some viewDecorator

/-- A decorator stays the same, or a variant takes the place of the one for methods that write. -/
def KeptOrVaried (decorator other : Node) : Prop :=
  decoratorName other = decoratorName decorator ∨
    decoratorName decorator = some writeDecorator ∧ isWriteVariant other = true

/-- A method and the same method after some of its decorators were varied. -/
structure Redecorated (method other : Node) (name : String) (signature : Signature)
    (decorators varied : List Node) : Prop where
  isMethod : ∃ pos isAsync parts body returns,
    method = .functionDef pos isAsync name signature parts body decorators returns
  isOther : ∃ pos isAsync moved parts body returns, moved.unplaced = signature.unplaced ∧
    other = .functionDef pos isAsync name moved parts body varied returns
  varies : List.Forall₂ KeptOrVaried decorators varied

/-- The rules on public methods, each with what in a method it is against. -/
inductive PublicRule (name : String) (signature : Signature) : String → Prop
  | constructor : name = "__init__" → PublicRule name signature "E012"
  | underscores : Text.startsWith name "__" = true → name ≠ "__init__" →
      PublicRule name signature "E013"
  | variadic : signature.variadic.isSome = true → PublicRule name signature "E021"
  | keywordVariadic : signature.keywordVariadic.isSome = true → PublicRule name signature "E021"

def publicCodes : List String := ["E012", "E013", "E021"]

/-- A finding with this code is reported for the statement. -/
def ReportsCode (source : String) (statement : Node) (code : String) : Prop :=
  ∃ finding ∈ memberFindings statement, finding.code = code ∧ finding ∈ checkStructure source

/-- The rules on public methods report the same codes for both methods. -/
def SameCodes (source other : String) (method varied : Node) : Prop :=
  ∀ code ∈ publicCodes, ReportsCode source method code ↔ ReportsCode other varied code

theorem Method.exists_finding_iff {method : Method} {code : String} (isRule : code ∈ publicCodes) :
    (∃ finding ∈ method.findings, finding.code = code) ↔
      method.isPublic = true ∧ PublicRule method.name method.signature code := by
  simp only [Method.mem_findings_iff]
  constructor
  · rintro ⟨finding, breaks, rfl⟩
    cases breaks with
    | publicConstructor isInit isPublic => exact ⟨isPublic, .constructor isInit⟩
    | publicUnderscores isPublic starts notInit => exact ⟨isPublic, .underscores starts notInit⟩
    | variadic isPublic given => exact ⟨isPublic, .variadic (by rw [given]; rfl)⟩
    | keywordVariadic isPublic given => exact ⟨isPublic, .keywordVariadic (by rw [given]; rfl)⟩
    | specialDecorator | missingReturnType | missingSelf =>
        exact absurd isRule (by simp [publicCodes, findingAt, Finding.code, Issue.code])
  · rintro ⟨isPublic, rule⟩
    cases rule with
    | constructor isInit => exact ⟨_, .publicConstructor isInit isPublic, rfl⟩
    | underscores starts notInit => exact ⟨_, .publicUnderscores isPublic starts notInit, rfl⟩
    | variadic given =>
        obtain ⟨parameter, given⟩ := Option.isSome_iff_exists.mp given
        exact ⟨_, .variadic isPublic given, rfl⟩
    | keywordVariadic given =>
        obtain ⟨parameter, given⟩ := Option.isSome_iff_exists.mp given
        exact ⟨_, .keywordVariadic isPublic given, rfl⟩

theorem isPublic_iff (pos : Pos) (name : String) (signature : Signature) (decorators : List Node)
    (isTyped : Bool) :
    Method.isPublic ⟨pos, name, signature, decorators.filterMap decoratorName, isTyped⟩ = true ↔
      TakenPublic decorators := by
  simp only [Method.isPublic, Method.isView, Bool.or_eq_true, List.contains_iff_mem,
    List.mem_filterMap, TakenPublic, ← exists_or, ← and_or_left]

theorem reportsCode_iff {source : String} {module : Module} (parsed : parse source = .ok module)
    {pos : Pos} {isAsync : Bool} {name : String} {signature : Signature}
    {parts body decorators : List Node} {returns : Option Node}
    (isMember : IsMember module
      (.functionDef pos isAsync name signature parts body decorators returns))
    {code : String} (isRule : code ∈ publicCodes) :
    ReportsCode source (.functionDef pos isAsync name signature parts body decorators returns) code ↔
      TakenPublic decorators ∧ PublicRule name signature code := by
  rw [← isPublic_iff pos name signature decorators returns.isSome,
    ← Method.exists_finding_iff isRule]
  constructor
  · rintro ⟨finding, found, coded, _⟩
    exact ⟨finding, found, coded⟩
  · rintro ⟨finding, found, coded⟩
    exact ⟨finding, found, coded, mem_checkStructure_of_isMember parsed isMember found⟩

theorem publicRule_unplaced {name code : String} {signature moved : Signature}
    (same : moved.unplaced = signature.unplaced) :
    PublicRule name moved code ↔ PublicRule name signature code := by
  have variadic : moved.variadic.isSome = signature.variadic.isSome := by
    simpa [Signature.unplaced] using congrArg (·.variadic.isSome) same
  have keywordVariadic : moved.keywordVariadic.isSome = signature.keywordVariadic.isSome := by
    simpa [Signature.unplaced] using congrArg (·.keywordVariadic.isSome) same
  constructor
  · rintro (isInit | ⟨starts, notInit⟩ | given | given)
    · exact .constructor isInit
    · exact .underscores starts notInit
    · exact .variadic (variadic ▸ given)
    · exact .keywordVariadic (keywordVariadic ▸ given)
  · rintro (isInit | ⟨starts, notInit⟩ | given | given)
    · exact .constructor isInit
    · exact .underscores starts notInit
    · exact .variadic (variadic ▸ given)
    · exact .keywordVariadic (keywordVariadic ▸ given)

theorem not_takenPublic_variant {decorator : Node} (varied : isWriteVariant decorator = true) :
    ¬TakenPublic [decorator] := by
  have bears : decoratorName decorator = some "gl.public.write.min_gas" ∨
      decoratorName decorator = some "gl.public.write.payable" := by
    unfold isWriteVariant at varied
    split at varied
    next =>
      exact .inl (decoratorName_eq_some_iff.mpr (.called (.plain (of_decide_eq_true varied))))
    next =>
      exact .inr (decoratorName_eq_some_iff.mpr (.plain (of_decide_eq_true varied)))
  rintro ⟨other, isOther, named⟩
  rw [List.mem_singleton.mp isOther] at named
  rcases bears with isGas | isPayable
  · rw [isGas] at named
    revert named
    decide
  · rw [isPayable] at named
    revert named
    decide

theorem TakenPublic.of_varied {decorators varied : List Node}
    (varies : List.Forall₂ KeptOrVaried decorators varied) (isPublic : TakenPublic varied) :
    TakenPublic decorators := by
  induction varies with
  | nil => exact isPublic
  | cons first _ ih =>
      obtain ⟨decorator, isDecorator, named⟩ := isPublic
      rcases List.mem_cons.mp isDecorator with rfl | later
      · rcases first with same | ⟨writes, _⟩
        · exact ⟨_, List.mem_cons_self, same ▸ named⟩
        · exact ⟨_, List.mem_cons_self, .inl writes⟩
      · obtain ⟨other, isOther, named⟩ := ih ⟨decorator, later, named⟩
        exact ⟨other, List.mem_cons_of_mem _ isOther, named⟩

theorem mem_publicCodes {name code : String} {signature : Signature}
    (rule : PublicRule name signature code) : code ∈ publicCodes := by
  cases rule <;> decide

section

variable {source other : String} {module changed : Module} {method varied : Node} {name : String}
  {signature : Signature} {decorators variedDecorators : List Node}

/-- The codes of a public method are those of the rules that are against something in it, and a
variant of the decorator for methods that write makes no method public. So when variants take the
place of that decorator, the same codes are reported exactly if the method is still taken for a
public one, if it was not before, or if no rule is against anything in it. -/
theorem same_codes_iff (parsed : parse source = .ok module) (alsoParsed : parse other = .ok changed)
    (isMember : IsMember module method) (alsoMember : IsMember changed varied)
    (redecorated : Redecorated method varied name signature decorators variedDecorators) :
    (∀ code ∈ publicCodes, ReportsCode source method code ↔
      TakenPublic decorators ∧ PublicRule name signature code) ∧
    (∀ decorator, isWriteVariant decorator = true → ¬TakenPublic [decorator]) ∧
    (SameCodes source other method varied ↔ TakenPublic variedDecorators ∨
      ¬TakenPublic decorators ∨ ∀ code, ¬PublicRule name signature code) := by
  obtain ⟨⟨pos, isAsync, parts, body, returns, rfl⟩,
    ⟨place, alsoAsync, moved, otherParts, otherBody, otherReturns, sameSignature, rfl⟩, varies⟩ :=
    redecorated
  have reports (code : String) (isRule : code ∈ publicCodes) :=
    reportsCode_iff parsed isMember isRule
  have alsoReports (code : String) (isRule : code ∈ publicCodes) :=
    (reportsCode_iff alsoParsed alsoMember isRule).trans
      (and_congr_right fun _ => publicRule_unplaced sameSignature)
  refine ⟨reports, fun decorator => not_takenPublic_variant, ?_, ?_⟩
  · intro same
    by_contra! exposed
    obtain ⟨hidden, isPublic, code, rule⟩ := exposed
    have isRule := mem_publicCodes rule
    have reported := (same code isRule).mp ((reports code isRule).mpr ⟨isPublic, rule⟩)
    exact hidden ((alsoReports code isRule).mp reported).1
  · intro unexposed code isRule
    rw [reports code isRule, alsoReports code isRule]
    refine and_congr_left fun rule => ⟨fun isPublic => ?_, TakenPublic.of_varied varies⟩
    rcases unexposed with stillPublic | neverPublic | noRule
    · exact stillPublic
    · exact absurd isPublic neverPublic
    · exact absurd rule (noRule code)

end

def look (decorator : Node) : Option String × Bool :=
  (decoratorName decorator, isWriteVariant decorator)

theorem takenPublic_iff_looks {decorators : List Node} :
    TakenPublic decorators ↔ ∃ seen ∈ decorators.map look,
      seen.1 = some writeDecorator ∨ seen.1 = some viewDecorator := by
  simp [TakenPublic, look]

def variadicSignature : Signature where
  regular := [⟨nowhere, "self"⟩]
  variadic := some ⟨nowhere, "a"⟩

def isVariadic (looks : List (Option String × Bool)) : Node → Bool
  | .functionDef _ _ name signature _ _ decorators _ =>
    decide (name = "f" ∧ signature.unplaced = variadicSignature ∧ decorators.map look = looks)
  | _ => false

theorem exists_variadic {source : String} {looks : List (Option String × Bool)}
    (found : (parse source).toOption.any (hasMember (isVariadic looks)) = true) :
    ∃ module method signature decorators, parse source = .ok module ∧ IsMember module method ∧
      (∃ pos isAsync parts body returns,
        method = .functionDef pos isAsync "f" signature parts body decorators returns) ∧
      signature.unplaced = variadicSignature ∧ decorators.map look = looks := by
  obtain ⟨module, parsed, found⟩ := exists_parsed found
  obtain ⟨method, isMember, found⟩ := exists_member found
  cases method with
  | functionDef pos isAsync name signature parts body decorators returns =>
      obtain ⟨rfl, sameSignature, looks⟩ := of_decide_eq_true found
      exact ⟨module, _, signature, decorators, parsed, isMember, ⟨_, _, _, _, _, rfl⟩,
        sameSignature, looks⟩
  | _ => cases found

theorem exists_redecorated {source other : String} {looks variedLooks : List (Option String × Bool)}
    (found : (parse source).toOption.any (hasMember (isVariadic looks)) = true)
    (alsoFound : (parse other).toOption.any (hasMember (isVariadic variedLooks)) = true)
    (varies : List.Forall₂ (fun seen later =>
      later.1 = seen.1 ∨ seen.1 = some writeDecorator ∧ later.2 = true) looks variedLooks) :
    ∃ module changed method varied signature decorators variedDecorators,
      parse source = .ok module ∧ parse other = .ok changed ∧
      IsMember module method ∧ IsMember changed varied ∧
      Redecorated method varied "f" signature decorators variedDecorators ∧
      PublicRule "f" signature "E021" ∧ decorators.map look = looks ∧
      variedDecorators.map look = variedLooks := by
  obtain ⟨module, method, signature, decorators, parsed, isMember, isMethod, parameters, rfl⟩ :=
    exists_variadic found
  obtain ⟨changed, varied, moved, variedDecorators, alsoParsed, alsoMember,
    ⟨pos, isAsync, parts, body, returns, isOther⟩, alsoParameters, rfl⟩ := exists_variadic alsoFound
  rw [List.forall₂_map_left_iff, List.forall₂_map_right_iff] at varies
  have given : signature.variadic.isSome = true := by
    simpa [Signature.unplaced, variadicSignature] using congrArg (·.variadic.isSome) parameters
  exact ⟨module, changed, method, varied, signature, decorators, variedDecorators, parsed,
    alsoParsed, isMember, alsoMember,
    ⟨isMethod, ⟨pos, isAsync, moved, parts, body, returns, alsoParameters.trans parameters.symm,
      isOther⟩, varies⟩, .variadic given, rfl, rfl⟩

def viewedText : String :=
  "class C(Contract):\n @gl.public.view\n @gl.public.write\n def f(self,*a):0"

def viewedGasText : String :=
  "class C(Contract):\n @gl.public.view\n @gl.public.write.min_gas(1,2)\n def f(self,*a):0"

theorem same_codes_viewed :
    ∃ module changed method varied signature decorators variedDecorators,
      parse viewedText = .ok module ∧ parse viewedGasText = .ok changed ∧
      IsMember module method ∧ IsMember changed varied ∧
      Redecorated method varied "f" signature decorators variedDecorators ∧
      ReportsCode viewedText method "E021" ∧ SameCodes viewedText viewedGasText method varied := by
  have found : (parse viewedText).toOption.any (hasMember (isVariadic
      [(some viewDecorator, false), (some writeDecorator, false)])) = true := by
    decide +kernel
  have alsoFound : (parse viewedGasText).toOption.any (hasMember (isVariadic
      [(some viewDecorator, false), (some "gl.public.write.min_gas", true)])) = true := by
    decide +kernel
  obtain ⟨module, changed, method, varied, signature, decorators, variedDecorators, parsed,
    alsoParsed, isMember, alsoMember, redecorated, rule, looks, variedLooks⟩ :=
    exists_redecorated found alsoFound (by simp)
  have facts := same_codes_iff parsed alsoParsed isMember alsoMember redecorated
  rw [takenPublic_iff_looks, takenPublic_iff_looks, looks, variedLooks] at facts
  exact ⟨module, changed, method, varied, signature, decorators, variedDecorators, parsed,
    alsoParsed, isMember, alsoMember, redecorated,
    (facts.1 _ (by decide)).mpr ⟨by decide, rule⟩, facts.2.2.mpr (.inl (by decide))⟩

def writtenText : String := "class C(Contract):\n @gl.public.write\n def f(self,*a):0"

def payableText : String := "class C(Contract):\n @gl.public.write.payable\n def f(self,*a):0"

theorem payable_method_unreported :
    ∃ module changed method varied signature decorators variedDecorators,
      parse writtenText = .ok module ∧ parse payableText = .ok changed ∧
      IsMember module method ∧ IsMember changed varied ∧
      Redecorated method varied "f" signature decorators variedDecorators ∧
      ReportsCode writtenText method "E021" ∧ ¬ReportsCode payableText varied "E021" ∧
      ¬SameCodes writtenText payableText method varied := by
  have found : (parse writtenText).toOption.any (hasMember (isVariadic
      [(some writeDecorator, false)])) = true := by
    decide +kernel
  have alsoFound : (parse payableText).toOption.any (hasMember (isVariadic
      [(some "gl.public.write.payable", true)])) = true := by
    decide +kernel
  obtain ⟨module, changed, method, varied, signature, decorators, variedDecorators, parsed,
    alsoParsed, isMember, alsoMember, redecorated, rule, looks, variedLooks⟩ :=
    exists_redecorated found alsoFound (by simp)
  have isPublic : TakenPublic decorators := by
    rw [takenPublic_iff_looks, looks]
    decide
  have hidden : ¬TakenPublic variedDecorators := by
    rw [takenPublic_iff_looks, variedLooks]
    decide
  have reported : ReportsCode writtenText method "E021" := by
    obtain ⟨pos, isAsync, parts, body, returns, rfl⟩ := redecorated.isMethod
    exact (reportsCode_iff parsed isMember (by decide)).mpr ⟨isPublic, rule⟩
  have unreported : ¬ReportsCode payableText varied "E021" := by
    obtain ⟨pos, isAsync, moved, parts, body, returns, _, rfl⟩ := redecorated.isOther
    exact fun reports => hidden ((reportsCode_iff alsoParsed alsoMember (by decide)).mp reports).1
  exact ⟨module, changed, method, varied, signature, decorators, variedDecorators, parsed,
    alsoParsed, isMember, alsoMember, redecorated, reported, unreported,
    fun same => unreported ((same _ (by decide)).mp reported)⟩

end ContractLint.Lint
