import ContractLint.Proofs.Source.Formed

/-! Every rule for expressions yields an expression if the rules one level further in do. -/

namespace ContractLint.Source

open ContractLint.Text

namespace Node.Expression

variable {pos : Pos} {value : Node} {nodes : List Node}

theorem name {id : String} (identifier : IsIdentifier id.toList) :
    (Node.name pos id).Expression :=
  of_children rfl ⟨identifier.isWord, mt String.toList_eq_nil_iff.mpr identifier.inner⟩
    (by simp [Node.children])

theorem constant {content : Constant} : (Node.constant pos content).Expression :=
  of_children rfl ⟨trivial, trivial⟩ (by simp [Node.children])

theorem attributeOf {attr : String} (held : value.Expression)
    (identifier : IsIdentifier attr.toList) : (Node.attribute pos value attr).Expression :=
  of_children rfl ⟨identifier.isWord, mt String.toList_eq_nil_iff.mpr identifier.inner⟩
    (by simpa [Node.children] using held)

theorem keyword {label : Option String} (held : value.Expression) :
    (Node.keyword pos label value).Expression :=
  of_children rfl ⟨trivial, trivial⟩ (by simpa [Node.children] using held)

theorem await (held : value.Expression) : (Node.await pos value).Expression :=
  of_children rfl ⟨trivial, trivial⟩ (by simpa [Node.children] using held)

theorem starred (held : value.Expression) : (Node.starred pos value).Expression :=
  of_children rfl ⟨trivial, trivial⟩ (by simpa [Node.children] using held)

theorem unary {operator : UnaryOperator} (held : value.Expression) :
    (Node.unary pos operator value).Expression :=
  of_children rfl ⟨trivial, trivial⟩ (by simpa [Node.children] using held)

theorem tuple (held : ∀ node ∈ nodes, node.Expression) : (Node.tuple pos nodes).Expression :=
  of_children rfl ⟨trivial, trivial⟩ held

theorem list (held : ∀ node ∈ nodes, node.Expression) : (Node.list pos nodes).Expression :=
  of_children rfl ⟨trivial, trivial⟩ held

theorem form {kind : Form} (held : ∀ node ∈ nodes, node.Expression) :
    (Node.form pos kind nodes).Expression :=
  of_children rfl ⟨trivial, trivial⟩ held

theorem subscript {index : Node} (held : value.Expression) (heldIndex : index.Expression) :
    (Node.subscript pos value index).Expression :=
  of_children rfl ⟨trivial, trivial⟩ (by simpa [Node.children] using ⟨held, heldIndex⟩)

theorem assignment {target : Node} (heldTarget : target.Expression) (held : value.Expression) :
    (Node.assignment pos target value).Expression :=
  of_children rfl ⟨trivial, trivial⟩ (by simpa [Node.children] using ⟨heldTarget, held⟩)

theorem clause {target source : Node} (heldTarget : target.Expression)
    (heldSource : source.Expression) (held : ∀ node ∈ nodes, node.Expression) :
    (Node.clause target source nodes).Expression :=
  of_children rfl ⟨trivial, trivial⟩ (by simpa [Node.children] using ⟨heldTarget, heldSource, held⟩)

theorem call {keywords : List Node} (heldCallee : value.Expression)
    (held : ∀ node ∈ nodes, node.Expression) (heldKeywords : ∀ node ∈ keywords, node.Expression) :
    (Node.call pos value nodes keywords).Expression := by
  refine of_children rfl ⟨trivial, trivial⟩ ?_
  simp only [Node.children, List.forall_mem_cons, List.forall_mem_append]
  exact ⟨heldCallee, held, heldKeywords⟩

theorem lambda {signature : Signature} (heldParts : ∀ node ∈ nodes, node.Expression)
    (held : value.Expression) : (Node.lambda pos signature nodes value).Expression := by
  refine of_children rfl ⟨trivial, trivial⟩ ?_
  simp only [Node.children, List.forall_mem_append, List.forall_mem_singleton]
  exact ⟨heldParts, held⟩

end Node.Expression

namespace Grammar

structure Rules.Formed (rules : Rules) : Prop where
  expression : rules.expression.Yields Node.Expression
  disjunction : rules.disjunction.Yields Node.Expression
  inversion : rules.inversion.Yields Node.Expression
  bitwiseOr : rules.bitwiseOr.Yields Node.Expression
  factor : rules.factor.Yields Node.Expression
  primary : rules.primary.Yields Node.Expression
  pattern : rules.pattern.Yields (Node.Built .shape)
  statement : rules.statement.Yields fun nodes => ∀ node ∈ nodes, node.Built .statement
  field : ∀ text, (rules.field text).Yields Node.Expression

theorem Rules.none_formed : Rules.none.Formed :=
  ⟨.noMatch, .noMatch, .noMatch, .noMatch, .noMatch, .noMatch, .noMatch, .noMatch,
    fun _ => .noMatch⟩

variable {rules : Rules}

theorem namedExpression_yields (formed : rules.Formed) :
    (namedExpression rules).Yields Node.Expression := by
  refine .skip fun isNamed => .ite ?_ ?_
  · refine expectName_yields.bind fun found word => .skip fun _ => ?_
    exact formed.expression.bind fun value held => .pure (.assignment (.name word) held)
  · exact formed.expression.bind fun value held => .skip fun _ => .checked fun _ => .pure held

theorem starOr_yields (formed : rules.Formed) {plain : Parser Node}
    (yields : plain.Yields Node.Expression) : (starOr rules plain).Yields Node.Expression := by
  refine .skip fun pos => .skip fun isStarred => .ite ?_ yields
  exact formed.bitwiseOr.bind fun value held => .pure held.starred

theorem starExpression_yields (formed : rules.Formed) :
    (starExpression rules).Yields Node.Expression :=
  starOr_yields formed formed.expression

theorem starNamedExpression_yields (formed : rules.Formed) :
    (starNamedExpression rules).Yields Node.Expression :=
  starOr_yields formed (namedExpression_yields formed)

theorem moreElements_yields {holds : Node → Prop} {element : Parser Node}
    (yields : element.Yields holds) {first : Node} (held : holds first) :
    (moreElements element first).Yields fun found => ∀ node ∈ found.1, holds node := by
  refine .skip fun isMany => .ite ?_ (.pure (by simpa using held))
  refine .bind (.iterate (fun found => ∀ node ∈ found.1, holds node) (by simp) ?_) ?_
  · intro (found, isOpen) kept
    refine .ite ?_ (.pure (by simp))
    refine yields.attempt.bind fun next holdsNext => ?_
    cases next with
    | none => exact .pure (by simp)
    | some node =>
        refine .skip fun goesOn => .pure ?_
        simpa using ⟨holdsNext node rfl, kept⟩
  · intro rest kept
    refine .pure ?_
    simpa using ⟨held, kept⟩

theorem tupleOr_yields {element : Parser Node} (yields : element.Yields Node.Expression) :
    (tupleOr element).Yields Node.Expression := by
  refine .skip fun pos => yields.bind fun first held => ?_
  refine (moreElements_yields yields held).bind fun (elements, isTuple) heldAll => .pure ?_
  split
  · exact .tuple heldAll
  · exact held

theorem starExpressions_yields (formed : rules.Formed) :
    (starExpressions rules).Yields Node.Expression :=
  tupleOr_yields (starExpression_yields formed)

theorem yieldExpression_yields (formed : rules.Formed) :
    (yieldExpression rules).Yields Node.Expression := by
  refine .skip fun pos => .skip fun _ => .skip fun isFrom => .ite ?_ ?_
  · refine formed.expression.bind fun value held => .pure (.form ?_)
    simpa using held
  · refine (starExpressions_yields formed).attempt.bind fun found heldFound => ?_
    cases found with
    | none => exact .pure (.form (by simp))
    | some value => exact .pure (.form (by simpa using heldFound value rfl))

theorem assignedValue_yields (formed : rules.Formed) :
    (assignedValue rules).Yields Node.Expression :=
  .skip fun _ => .ite (yieldExpression_yields formed) (starExpressions_yields formed)

theorem starTarget_yields (formed : rules.Formed) : (starTarget rules).Yields Node.Expression := by
  refine .skip fun pos => .skip fun isStarred => formed.primary.bind fun value held => ?_
  refine .required fun _ => .pure ?_
  split
  · exact held.starred
  · exact held

theorem starTargets_yields (formed : rules.Formed) : (starTargets rules).Yields Node.Expression :=
  tupleOr_yields (starTarget_yields formed)

theorem clauses_yields (formed : rules.Formed) :
    (clauses rules).Yields fun found => ∀ node ∈ found, node.Expression := by
  refine .bind (.many ?_) fun found held => .ite .noMatch (.pure held)
  refine .skip fun isAsync => .checked fun _ => .skip fun isFor => .ite ?_ ?_
  · refine .skip fun _ => (starTargets_yields formed).bind fun target heldTarget => ?_
    refine .skip fun _ => formed.disjunction.bind fun source heldSource => ?_
    refine .bind (.manyAfter formed.disjunction) fun conditions heldConditions => .pure ?_
    simpa using Node.Expression.clause heldTarget heldSource heldConditions
  · exact .ite .noMatch (.pure (by simp))

structure ArgumentList.Formed (found : ArgumentList) : Prop where
  args : ∀ node ∈ found.args, node.Expression
  keywords : ∀ node ∈ found.keywords, node.Expression

theorem ArgumentList.Formed.positional {found : ArgumentList} (formed : found.Formed) {node : Node}
    (held : node.Expression) : (found.positional node).Formed :=
  ⟨List.forall_mem_cons.mpr ⟨held, formed.args⟩, formed.keywords⟩

theorem ArgumentList.Formed.keyword {found : ArgumentList} (formed : found.Formed) {node : Node}
    (held : node.Expression) (stage : ArgumentStage) : (found.keyword node stage).Formed :=
  ⟨formed.args, List.forall_mem_cons.mpr ⟨held, formed.keywords⟩⟩

theorem argument_yields (formed : rules.Formed) {found : ArgumentList} (kept : found.Formed) :
    (argument rules found).Yields ArgumentList.Formed := by
  refine .skip fun pos => .skip fun isStarred => .ite ?_ (.skip fun isMapping => .ite ?_ ?_)
  · refine .checked fun _ => formed.expression.bind fun value held => ?_
    exact .pure (kept.positional held.starred)
  · exact formed.expression.bind fun value held => .pure (kept.keyword held.keyword _)
  · refine .skip fun isNamed => .ite ?_ ?_
    · refine .skip fun found => .skip fun _ => formed.expression.bind fun value held => ?_
      exact .pure (kept.keyword held.keyword _)
    · refine (namedExpression_yields formed).bind fun value held => .skip fun _ => ?_
      exact .checked fun _ => .checked fun _ => .pure (kept.positional held)

theorem argumentsAfter_yields (formed : rules.Formed) {first : ArgumentList}
    (kept : first.Formed) : (argumentsAfter rules first).Yields fun found =>
      (∀ node ∈ found.1, node.Expression) ∧ ∀ node ∈ found.2, node.Expression := by
  refine .bind (.iterate ArgumentList.Formed kept ?_) ?_
  · intro found kept
    refine .skip fun goesOn => .ite ?_ (.pure (by simp))
    refine .skip fun isLast => .ite (.pure (by simp)) ?_
    exact (argument_yields formed kept).bind fun grown kept => .pure (by simpa using kept)
  · intro found kept
    refine .pure ⟨?_, ?_⟩
    · intro node member
      exact kept.args node (List.mem_reverse.mp member)
    · intro node member
      exact kept.keywords node (List.mem_reverse.mp member)

theorem arguments_yields (formed : rules.Formed) : (arguments rules).Yields fun found =>
    (∀ node ∈ found.1, node.Expression) ∧ ∀ node ∈ found.2, node.Expression := by
  refine .skip fun isEmpty => .ite (.pure (by simp)) ?_
  have none : ArgumentList.Formed {} := ⟨by simp, by simp⟩
  exact (argument_yields formed none).bind fun first kept => argumentsAfter_yields formed kept

structure ParameterDraft.Formed (draft : ParameterDraft) : Prop where
  declaredType : ∀ node ∈ draft.declaredType, node.Expression
  default : ∀ node ∈ draft.default, node.Expression

structure SignatureDraft.Formed (draft : SignatureDraft) : Prop where
  positionalOnly : ∀ parameter ∈ draft.positionalOnly, parameter.Formed
  regular : ∀ parameter ∈ draft.regular, parameter.Formed
  variadic : ∀ parameter ∈ draft.variadic, parameter.Formed
  keywordOnly : ∀ parameter ∈ draft.keywordOnly, parameter.Formed
  keywordVariadic : ∀ parameter ∈ draft.keywordVariadic, parameter.Formed

theorem SignatureDraft.Formed.parts {draft : SignatureDraft} (formed : draft.Formed) :
    ∀ node ∈ draft.parts, node.Expression := by
  have positional : ∀ parameter ∈ draft.positionalOnly.reverse ++ draft.regular.reverse,
      parameter.Formed := by
    intro parameter member
    rcases List.mem_append.mp member with first | second
    · exact formed.positionalOnly parameter (List.mem_reverse.mp first)
    · exact formed.regular parameter (List.mem_reverse.mp second)
  intro node member
  simp only [SignatureDraft.parts, List.mem_append, List.mem_filterMap, List.mem_reverse,
    Option.mem_toList, Option.bind_eq_some_iff] at member
  rcases member with ((((⟨parameter, listed, found⟩ | ⟨parameter, listed, found⟩) |
    ⟨parameter, listed, found⟩) | ⟨parameter, listed, found⟩) | ⟨parameter, listed, found⟩) |
    ⟨parameter, listed, found⟩
  · exact (positional parameter (by simpa using listed)).declaredType node found
  · exact (formed.variadic parameter listed).declaredType node found
  · exact (formed.keywordOnly parameter listed).declaredType node found
  · exact (formed.keywordOnly parameter listed).default node found
  · exact (formed.keywordVariadic parameter listed).declaredType node found
  · exact (positional parameter (by simpa using listed)).default node found

theorem plainParameter_yields (annotated : Bool) {declaredType : Parser Node}
    (yields : declaredType.Yields Node.Expression) :
    (parameterItem.plainParameter annotated declaredType).Yields ParameterDraft.Formed := by
  have bare : ∀ parameter : Parameter, ParameterDraft.Formed { parameter := parameter } :=
    fun parameter => ⟨by simp, by simp⟩
  refine .skip fun found => .ite (.skip fun isTyped => .ite ?_ ?_) (.pure (bare _))
  · exact yields.bind fun value held => .pure ⟨by simpa using held, by simp⟩
  · exact .pure (bare _)

theorem parameterItem_yields (formed : rules.Formed) (annotated : Bool) {draft : SignatureDraft}
    (kept : draft.Formed) : (parameterItem rules annotated draft).Yields SignatureDraft.Formed := by
  unfold parameterItem
  refine .checked fun _ => ?_
  refine .skip fun isSlash => .ite ?_ (.skip fun isMapping => .ite ?_ ?_)
  · refine .checked fun _ => .pure ?_
    exact ⟨kept.regular, by simp, kept.variadic, kept.keywordOnly, kept.keywordVariadic⟩
  · refine (plainParameter_yields annotated formed.expression).bind fun parameter held => .pure ?_
    exact ⟨kept.positionalOnly, kept.regular, kept.variadic, kept.keywordOnly, by simpa using held⟩
  · refine .skip fun isStar => .ite ?_ ?_
    · refine .checked fun _ => .skip fun isAlone => .ite ?_ ?_
      · exact .pure ⟨kept.positionalOnly, kept.regular, kept.variadic, kept.keywordOnly,
          kept.keywordVariadic⟩
      · refine (plainParameter_yields annotated (starExpression_yields formed)).bind
          fun parameter held => .pure ?_
        exact ⟨kept.positionalOnly, kept.regular, by simpa using held, kept.keywordOnly,
          kept.keywordVariadic⟩
    · refine (plainParameter_yields annotated formed.expression).bind fun parameter held => ?_
      refine .skip fun hasDefault => .either formed.expression.some (.pure (by simp)) ?_
      intro default heldDefault
      have whole : ParameterDraft.Formed { parameter with default := default } :=
        ⟨held.declaredType, heldDefault⟩
      refine .ite ?_ (.checked fun _ => ?_)
      · exact .pure ⟨kept.positionalOnly, kept.regular, kept.variadic,
          List.forall_mem_cons.mpr ⟨whole, kept.keywordOnly⟩, kept.keywordVariadic⟩
      · exact .pure ⟨kept.positionalOnly, List.forall_mem_cons.mpr ⟨whole, kept.regular⟩,
          kept.variadic, kept.keywordOnly, kept.keywordVariadic⟩

theorem parameters_yields (formed : rules.Formed) (annotated : Bool) (closing : String) :
    (parameters rules annotated closing).Yields SignatureDraft.Formed := by
  have none : SignatureDraft.Formed {} := ⟨by simp, by simp, by simp, by simp, by simp⟩
  refine .skip fun isEmpty => .ite (.pure none) ?_
  refine (parameterItem_yields formed annotated none).bind fun first kept => ?_
  refine .bind (.iterate SignatureDraft.Formed kept ?_) fun draft kept => ?_
  · intro draft kept
    refine .skip fun goesOn => .ite (.skip fun isLast => .ite (.pure (by simp)) ?_)
      (.pure (by simp))
    exact (parameterItem_yields formed annotated kept).bind fun grown kept =>
      .pure (by simpa using kept)
  · exact .checked fun _ => .pure kept

theorem replacement_yields (formed : rules.Formed) :
    ∀ field, (replacement rules field).Yields Node.Expression
  | .mk brace body stop format => by
    rw [replacement]
    refine (formed.field _).bind fun value held => ?_
    refine .bind (.mapM fun field _ => replacement_yields formed field.1) fun inner heldInner => ?_
    refine .pure (.form ?_)
    rw [List.forall_mem_cons]
    refine ⟨held, ?_⟩
    split
    · simp
    · rw [List.forall_mem_singleton]
      exact .form heldInner
termination_by field => sizeOf field
decreasing_by
  have smaller := List.sizeOf_lt_of_mem field.2
  simp only [Field.mk.sizeOf_spec]
  omega

theorem literalFields_yields (formed : rules.Formed) (token : Token) (literal : QuotedLiteral) :
    (literalFields rules token literal).Yields fun nodes => ∀ node ∈ nodes, node.Expression := by
  unfold literalFields
  refine .ite ?_ (.ite (.pure (by simp)) .refused)
  split
  · exact .mapM fun field _ => replacement_yields formed field
  · exact .refused

theorem quotedLiterals_yields (formed : rules.Formed) :
    (quotedLiterals rules).Yields Node.Expression := by
  refine .skip fun pos => .skip fun found => .checked fun _ => ?_
  refine .bind (.mapM fun item _ => literalFields_yields formed item.1 item.2) fun fields held => ?_
  refine .ite (.pure (.form ?_)) (.ite (.pure .constant) (.pure .constant))
  intro node member
  obtain ⟨group, listed, inside⟩ := List.mem_flatten.mp member
  exact held group listed node inside

theorem parenthesized_yields (formed : rules.Formed) (pos : Pos) :
    (parenthesized rules pos).Yields Node.Expression := by
  refine .skip fun isEmpty => .ite (.pure (.tuple (by simp))) (.skip fun isYield => .ite ?_ ?_)
  · exact (yieldExpression_yields formed).bind fun value held => .skip fun _ => .pure held
  · refine .skip fun isStarred => (starNamedExpression_yields formed).bind fun first held => ?_
    refine .skip fun isClause => .ite ?_ ?_
    · refine (clauses_yields formed).bind fun parts heldParts => .skip fun _ => ?_
      exact .pure (.form (List.forall_mem_cons.mpr ⟨held, heldParts⟩))
    · refine (moreElements_yields (starNamedExpression_yields formed) held).bind
        fun (elements, isTuple) heldAll => .skip fun _ => ?_
      exact .ite (.pure (.tuple heldAll)) (.ite .noMatch (.pure held))

theorem bracketed_yields (formed : rules.Formed) (pos : Pos) :
    (bracketed rules pos).Yields Node.Expression := by
  refine .skip fun isEmpty => .ite (.pure (.list (by simp))) ?_
  refine .skip fun isStarred => (starNamedExpression_yields formed).bind fun first held => ?_
  refine .skip fun isClause => .ite ?_ ?_
  · refine (clauses_yields formed).bind fun parts heldParts => .skip fun _ => ?_
    exact .pure (.form (List.forall_mem_cons.mpr ⟨held, heldParts⟩))
  · refine (moreElements_yields (starNamedExpression_yields formed) held).bind
      fun (elements, isTuple) heldAll => .skip fun _ => ?_
    exact .pure (.list heldAll)

def ItemFormed (item : Option Node × Node) : Prop :=
  (∀ key ∈ item.1, key.Expression) ∧ item.2.Expression

theorem dictionaryItem_yields (formed : rules.Formed) :
    (dictionaryItem rules).Yields ItemFormed := by
  refine .skip fun isMapping => .ite ?_ ?_
  · exact formed.bitwiseOr.bind fun value held => .pure ⟨by simp, held⟩
  · refine formed.expression.bind fun key heldKey => .skip fun _ => ?_
    exact formed.expression.bind fun value held => .pure ⟨by simpa using heldKey, held⟩

theorem dictionaryRest_yields (formed : rules.Formed) (pos : Pos) {first : Option Node × Node}
    (heldFirst : ItemFormed first) : (dictionaryRest rules pos first).Yields Node.Expression := by
  refine .bind (.iterate (fun items => ∀ item ∈ items, ItemFormed item)
    (by simpa using heldFirst) ?_) fun items held => .skip fun _ => .pure (.form ?_)
  · intro items held
    refine .skip fun goesOn => .ite ?_ (.pure (by simp))
    refine .skip fun isLast => .ite (.pure (by simp)) ?_
    refine (dictionaryItem_yields formed).bind fun item heldItem => .pure ?_
    intro grown same
    rw [← Option.mem_some.mp same]
    exact List.forall_mem_cons.mpr ⟨heldItem, held⟩
  · intro node member
    simp only [List.mem_append, List.mem_filterMap, List.mem_map, List.mem_reverse] at member
    rcases member with ⟨item, listed, isKey⟩ | ⟨item, listed, rfl⟩
    · exact (held item listed).1 node isKey
    · exact (held item listed).2

theorem braced_yields (formed : rules.Formed) (pos : Pos) :
    (braced rules pos).Yields Node.Expression := by
  refine .skip fun isEmpty => .ite (.pure (.form (by simp))) (.skip fun isMapping => .ite ?_ ?_)
  · exact (dictionaryItem_yields formed).bind fun item held => dictionaryRest_yields formed pos held
  · refine .skip fun isStarred => (starNamedExpression_yields formed).bind fun first held => ?_
    refine .skip fun isPair => .ite ?_ (.skip fun isClause => .ite ?_ ?_)
    · split
      · exact .noMatch
      · refine formed.expression.bind fun value heldValue => .skip fun isClause => .ite ?_ ?_
        · refine (clauses_yields formed).bind fun parts heldParts => .skip fun _ => .pure (.form ?_)
          exact List.forall_mem_cons.mpr ⟨held, List.forall_mem_cons.mpr ⟨heldValue, heldParts⟩⟩
        · exact dictionaryRest_yields formed pos ⟨by simpa using held, heldValue⟩
    · refine (clauses_yields formed).bind fun parts heldParts => .skip fun _ => .pure (.form ?_)
      exact List.forall_mem_cons.mpr ⟨held, heldParts⟩
    · refine (moreElements_yields (starNamedExpression_yields formed) held).bind
        fun (elements, isTuple) heldAll => .skip fun _ => ?_
      exact .pure (.form heldAll)

theorem atom_yields (formed : rules.Formed) : (atom rules).Yields Node.Expression := by
  refine peek_yields.bind fun token word => ?_
  dsimp only
  split
  next id isName => exact .skip fun _ => .pure (.name (word id isName))
  next => exact .skip fun _ => .pure .constant
  next => exact quotedLiterals_yields formed
  next => exact .skip fun _ => .pure .constant
  next => exact .skip fun _ => .pure .constant
  next => exact .skip fun _ => .pure .constant
  next => exact .skip fun _ => .pure .constant
  next => exact .skip fun _ => parenthesized_yields formed _
  next => exact .skip fun _ => bracketed_yields formed _
  next => exact .skip fun _ => braced_yields formed _
  next => exact .noMatch

theorem sliceBound_yields (formed : rules.Formed) :
    (sliceBound rules).Yields fun nodes => ∀ node ∈ nodes, node.Expression := by
  refine .skip fun _ => .skip fun _ => .skip fun _ => .ite (.pure (by simp)) ?_
  exact formed.expression.bind fun value held => .pure (by simpa using held)

theorem sliceRest_yields (formed : rules.Formed) (pos : Pos) {lower : List Node}
    (heldLower : ∀ node ∈ lower, node.Expression) :
    (sliceRest rules pos lower).Yields Node.Expression := by
  refine .skip fun _ => (sliceBound_yields formed).bind fun upper heldUpper => ?_
  refine .skip fun hasStep => .either (sliceBound_yields formed) (.pure (by simp)) ?_
  intro step heldStep
  refine .pure (.form ?_)
  simp only [List.forall_mem_append]
  exact ⟨⟨heldLower, heldUpper⟩, heldStep⟩

theorem sliceElement_yields (formed : rules.Formed) :
    (sliceElement rules).Yields Node.Expression := by
  refine .skip fun pos => .skip fun isStarred => .ite ?_ (.skip fun isSlice => .ite ?_ ?_)
  · exact formed.expression.bind fun value held => .pure held.starred
  · exact sliceRest_yields formed pos (by simp)
  · refine (namedExpression_yields formed).bind fun value held => ?_
    split
    · exact .pure held
    · refine .skip fun isSlice => .ite ?_ (.pure held)
      exact sliceRest_yields formed pos (by simpa using held)

theorem slices_yields (formed : rules.Formed) : (slices rules).Yields Node.Expression := by
  refine .skip fun pos => .skip fun isStarred => ?_
  refine (sliceElement_yields formed).bind fun first held => ?_
  refine (moreElements_yields (sliceElement_yields formed) held).bind
    fun (elements, isTuple) heldAll => .pure ?_
  split
  · exact .tuple heldAll
  · exact held

theorem callRest_yields (formed : rules.Formed) (pos : Pos) {callee : Node}
    (heldCallee : callee.Expression) (opening : Pos) :
    (callRest rules pos callee opening).Yields Node.Expression := by
  refine .skip fun isEmpty => .ite (.pure (.call heldCallee (by simp) (by simp))) ?_
  have none : ArgumentList.Formed {} := ⟨by simp, by simp⟩
  refine .skip fun isStarred => (argument_yields formed none).bind fun first kept => ?_
  refine .skip fun isClause => .ite ?_ ?_
  · refine (clauses_yields formed).bind fun parts heldParts => .skip fun _ => .pure ?_
    refine .call heldCallee ?_ (by simp)
    rw [List.forall_mem_singleton]
    exact .form (List.forall_mem_append.mpr ⟨kept.args, heldParts⟩)
  · refine (argumentsAfter_yields formed kept).bind fun (args, keywords) held => .skip fun _ => ?_
    exact .pure (.call heldCallee held.1 held.2)

theorem primary_yields (formed : rules.Formed) : (primary rules).Yields Node.Expression := by
  refine .skip fun pos => (atom_yields formed).bind fun first heldFirst => ?_
  refine .iterate Node.Expression heldFirst fun value held => .skip fun next => ?_
  refine .skip fun isAttribute => .ite ?_ (.skip fun isCall => .ite ?_ ?_)
  · refine expectName_yields.bind fun found word => .pure ?_
    simpa using held.attributeOf word
  · refine (callRest_yields formed pos held next).bind fun call heldCall => .pure ?_
    simpa using heldCall
  · refine .skip fun isSubscript => .ite ?_ (.pure (by simp))
    refine (slices_yields formed).bind fun index heldIndex => .skip fun _ => .pure ?_
    simpa using held.subscript heldIndex

theorem awaitPrimary_yields (formed : rules.Formed) :
    (awaitPrimary rules).Yields Node.Expression := by
  refine .skip fun pos => .skip fun isAwait => .ite ?_ (primary_yields formed)
  exact (primary_yields formed).bind fun value held => .pure held.await

theorem power_yields (formed : rules.Formed) : (power rules).Yields Node.Expression := by
  refine .skip fun pos => (awaitPrimary_yields formed).bind fun base held => ?_
  refine .skip fun isPower => .ite ?_ (.pure held)
  refine formed.factor.bind fun exponent heldExponent => .pure (.form ?_)
  simpa using ⟨held, heldExponent⟩

theorem factor_yields (formed : rules.Formed) : (factor rules).Yields Node.Expression := by
  have signed : ∀ pos operator, Parser.Yields
      (do pure (.unary pos operator (← rules.factor))) Node.Expression :=
    fun pos operator => formed.factor.bind fun value held => .pure held.unary
  refine .skip fun pos => .skip fun isPlus => .ite (signed _ _) ?_
  refine .skip fun isMinus => .ite (signed _ _) ?_
  exact .skip fun isInvert => .ite (signed _ _) (power_yields formed)

theorem leftGrouped_yields (symbols : List String) {operand : Parser Node}
    (yields : operand.Yields Node.Expression) :
    (leftGrouped symbols operand).Yields Node.Expression := by
  refine .skip fun pos => yields.bind fun first heldFirst => ?_
  refine .iterate Node.Expression heldFirst fun left heldLeft => .skip fun goesOn => ?_
  refine .ite ?_ (.pure (by simp))
  refine yields.bind fun right heldRight => .pure ?_
  intro grown same
  rw [← Option.mem_some.mp same]
  refine .form ?_
  simpa using ⟨heldLeft, heldRight⟩

theorem bitwiseOr_yields (formed : rules.Formed) : (bitwiseOr rules).Yields Node.Expression := by
  have term := leftGrouped_yields ["*", "/", "//", "%", "@"] (factor_yields formed)
  have sum := leftGrouped_yields ["+", "-"] term
  have shift := leftGrouped_yields ["<<", ">>"] sum
  have bitwiseAnd := leftGrouped_yields ["&"] shift
  have bitwiseXor := leftGrouped_yields ["^"] bitwiseAnd
  exact leftGrouped_yields ["|"] bitwiseXor

theorem comparison_yields (formed : rules.Formed) :
    (comparison rules).Yields Node.Expression := by
  refine .skip fun pos => (bitwiseOr_yields formed).bind fun first held => ?_
  refine .bind (.manyAfter (bitwiseOr_yields formed)) fun others heldOthers => .pure ?_
  split
  · exact held
  · exact .form (List.forall_mem_cons.mpr ⟨held, heldOthers⟩)

theorem inversion_yields (formed : rules.Formed) : (inversion rules).Yields Node.Expression := by
  refine .skip fun pos => .skip fun isNegated => .ite ?_ (comparison_yields formed)
  exact formed.inversion.bind fun value held => .pure held.unary

theorem joined_yields (word : String) {operand : Parser Node}
    (yields : operand.Yields Node.Expression) : (joined word operand).Yields Node.Expression := by
  refine .skip fun pos => yields.bind fun first held => ?_
  refine .bind (.manyAfter yields) fun others heldOthers => .pure ?_
  split
  · exact held
  · exact .form (List.forall_mem_cons.mpr ⟨held, heldOthers⟩)

theorem disjunction_yields (formed : rules.Formed) :
    (disjunction rules).Yields Node.Expression :=
  joined_yields "or" (joined_yields "and" (inversion_yields formed))

theorem lambda_yields (formed : rules.Formed) : (lambda rules).Yields Node.Expression := by
  refine .skip fun pos => .skip fun _ => ?_
  refine (parameters_yields formed false ":").bind fun draft kept => .skip fun _ => ?_
  exact formed.expression.bind fun body held => .pure (.lambda kept.parts held)

theorem expression_yields (formed : rules.Formed) : (expression rules).Yields Node.Expression := by
  have alternative : Parser.Yields (do
      expectKeyword "if"
      let test ← disjunction rules
      expectKeyword "else"
      let other ← rules.expression
      pure (test, other)) fun found => found.1.Expression ∧ found.2.Expression :=
    .skip fun _ => (disjunction_yields formed).bind fun test heldTest =>
      .skip fun _ => formed.expression.bind fun other heldOther => .pure ⟨heldTest, heldOther⟩
  refine .skip fun isLambda => .ite (lambda_yields formed) ?_
  refine .skip fun pos => (disjunction_yields formed).bind fun value held => ?_
  refine .skip fun isChoice => .ite ?_ (.pure held)
  refine alternative.attempt.bind fun choice heldChoice => ?_
  cases choice with
  | none => exact .pure held
  | some found =>
      obtain ⟨heldTest, heldOther⟩ := heldChoice found rfl
      refine .pure (.form ?_)
      simpa using ⟨heldTest, held, heldOther⟩

end Grammar
end ContractLint.Source
