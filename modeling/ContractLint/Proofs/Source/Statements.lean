import ContractLint.Proofs.Source.Expressions

/-! Every rule for patterns and statements yields trees of its role, so every text that can be read
is read as statements that are built as a text can spell them. -/

namespace ContractLint.Source

open ContractLint.Text

namespace Grammar

variable {rules : Rules}

theorem signedNumber_yields : signedNumber.Yields Node.Expression := by
  refine .skip fun pos => .skip fun isNegative => .skip fun token => ?_
  split
  · refine .skip fun _ => .pure ?_
    split
    · exact Node.Expression.constant.unary
    · exact .constant
  · exact .noMatch

theorem numberPattern_yields : numberPattern.Yields Node.Expression := by
  refine .skip fun pos => signedNumber_yields.bind fun first held => ?_
  refine .skip fun _ => .skip fun _ => .ite (.checked fun _ => .skip fun _ => .skip fun token => ?_)
    (.pure held)
  split
  · refine .skip fun _ => .pure (.form ?_)
    simpa using ⟨held, Node.Expression.constant⟩
  · exact .noMatch

theorem literalValue_yields (formed : rules.Formed) :
    (literalValue rules).Yields Node.Expression := by
  refine .skip fun token => ?_
  split
  next => exact numberPattern_yields
  next => exact numberPattern_yields
  next => exact quotedLiterals_yields formed
  next => exact .skip fun _ => .pure .constant
  next => exact .skip fun _ => .pure .constant
  next => exact .skip fun _ => .pure .constant
  next => exact .noMatch

theorem literalPattern_yields (formed : rules.Formed) :
    (literalPattern rules).Yields (Node.Built .shape) := by
  refine .skip fun pos => (literalValue_yields formed).bind fun value held => ?_
  refine .ite (.pure (.pattern (by simp))) (.pure (.pattern ?_))
  simpa using Node.Built.value held

theorem nameOrAttribute_yields :
    nameOrAttribute.Yields fun found => found.1.Expression := by
  refine expectName_yields.bind fun found word => ?_
  refine .iterate (fun found : Node × Nat => found.1.Expression) (.name word)
    fun (value, count) held => ?_
  refine .skip fun goesOn => .ite ?_ (.pure (by simp))
  refine expectName_yields.bind fun next word => .pure ?_
  simpa using held.attributeOf word

theorem valuePattern_yields : valuePattern.Yields (Node.Built .shape) := by
  refine .skip fun pos => nameOrAttribute_yields.bind fun (value, count) held => ?_
  refine .skip fun _ => .skip fun _ => .checked fun _ => .pure (.pattern ?_)
  simpa using Node.Built.value held

theorem starPattern_yields : starPattern.Yields (Node.Built .shape) := by
  refine .skip fun pos => .skip fun _ => .skip fun found => ?_
  split
  · exact .pure (.pattern (by simp))
  · exact .skip fun _ => .pure (.pattern (by simp))

theorem maybeStarPattern_yields (formed : rules.Formed) :
    (maybeStarPattern rules).Yields (Node.Built .shape) :=
  .skip fun _ => .ite starPattern_yields formed.pattern

theorem parenthesizedPattern_yields (formed : rules.Formed) :
    (parenthesizedPattern rules).Yields (Node.Built .shape) := by
  refine .skip fun pos => .skip fun _ => .skip fun isEmpty => .ite (.pure (.pattern (by simp))) ?_
  refine .skip fun isStarred => (maybeStarPattern_yields formed).bind fun first held => ?_
  refine (moreElements_yields (maybeStarPattern_yields formed) held).bind
    fun (patterns, isSequence) heldAll => .skip fun _ => ?_
  exact .ite (.pure (.pattern heldAll)) (.ite .noMatch (.pure held))

theorem bracketedPattern_yields (formed : rules.Formed) :
    (bracketedPattern rules).Yields (Node.Built .shape) := by
  refine .skip fun pos => .skip fun _ => .skip fun isEmpty => .ite (.pure (.pattern (by simp))) ?_
  refine (maybeStarPattern_yields formed).bind fun first held => ?_
  refine (moreElements_yields (maybeStarPattern_yields formed) held).bind
    fun (patterns, isSequence) heldAll => .skip fun _ => ?_
  exact .pure (.pattern heldAll)

theorem mappingKey_yields (formed : rules.Formed) : (mappingKey rules).Yields Node.Expression := by
  refine (literalValue_yields formed).attempt.bind fun found heldFound => ?_
  cases found with
  | some value => exact .pure (heldFound value rfl)
  | none =>
      refine nameOrAttribute_yields.bind fun (value, count) held => ?_
      exact .checked fun _ => .pure held

theorem mappingPattern_yields (formed : rules.Formed) :
    (mappingPattern rules).Yields (Node.Built .shape) := by
  refine .skip fun pos => .skip fun _ => ?_
  refine .bind (.iterate
    (fun found : List (Node × Node) × _ =>
      ∀ item ∈ found.1, item.1.Built .shape ∧ item.2.Built .shape) (by simp) ?_) ?_
  · intro (items, rest, isOpen) kept
    refine .skip fun isLast => .ite (.pure (by simp)) (.skip fun isRest => .ite ?_ ?_)
    · exact .skip fun _ => .skip fun _ => .pure (by simpa using kept)
    · refine (mappingKey_yields formed).bind fun key heldKey => .skip fun _ => ?_
      refine formed.pattern.bind fun value heldValue => .skip fun isOpen => .pure ?_
      intro grown same
      rw [← Option.mem_some.mp same]
      exact List.forall_mem_cons.mpr ⟨⟨.value heldKey, heldValue⟩, kept⟩
  · intro (items, rest, isOpen) kept
    refine .skip fun _ => .pure (.pattern ?_)
    intro node member
    simp only [List.mem_append, List.mem_map, List.mem_reverse] at member
    rcases member with ⟨item, listed, rfl⟩ | ⟨item, listed, rfl⟩
    · exact (kept item listed).1
    · exact (kept item listed).2

theorem classPattern_yields (formed : rules.Formed) :
    (classPattern rules).Yields (Node.Built .shape) := by
  refine .skip fun pos => nameOrAttribute_yields.bind fun (name, count) heldName => ?_
  refine .skip fun _ => ?_
  refine .bind (.iterate (fun found : List Node × _ => ∀ node ∈ found.1, node.Built .shape)
    (by simp) ?_) ?_
  · intro (patterns, sawName, isOpen) kept
    have grows : ∀ (pattern : Node) (seen further : Bool), pattern.Built .shape →
        ∀ new ∈ some (pattern :: patterns, seen, further), ∀ node ∈ new.1, node.Built .shape := by
      intro pattern seen further held new same
      rw [← Option.mem_some.mp same]
      exact List.forall_mem_cons.mpr ⟨held, kept⟩
    refine .skip fun isLast => .ite (.pure (by simp)) (.skip fun isNamed => .ite ?_ ?_)
    · refine .skip fun _ => .skip fun _ => formed.pattern.bind fun pattern held => ?_
      exact .skip fun further => .pure (grows pattern true further held)
    · refine .ite .noMatch (formed.pattern.bind fun pattern held => ?_)
      exact .skip fun further => .pure (grows pattern false further held)
  · intro (patterns, sawName, isOpen) kept
    refine .skip fun _ => .pure (.pattern ?_)
    rw [List.forall_mem_cons]
    exact ⟨.value heldName, fun node member => kept node (List.mem_reverse.mp member)⟩

theorem closedPattern_yields (formed : rules.Formed) :
    (closedPattern rules).Yields (Node.Built .shape) := by
  refine .skip fun token => ?_
  split
  next => exact literalPattern_yields formed
  next => exact literalPattern_yields formed
  next => exact literalPattern_yields formed
  next => exact literalPattern_yields formed
  next => exact parenthesizedPattern_yields formed
  next => exact bracketedPattern_yields formed
  next => exact mappingPattern_yields formed
  next =>
    refine .skip fun captured => ?_
    split
    · exact .pure (.pattern (by simp))
    · refine .skip fun wild => ?_
      split
      · exact .pure (.pattern (by simp))
      · refine valuePattern_yields.attempt.bind fun found heldFound => ?_
        cases found with
        | some value => exact .pure (heldFound value rfl)
        | none => exact classPattern_yields formed
  next => exact .noMatch

theorem orPattern_yields (formed : rules.Formed) :
    (orPattern rules).Yields (Node.Built .shape) := by
  refine .skip fun pos => (closedPattern_yields formed).bind fun first held => ?_
  refine .bind (.manyAfter (closedPattern_yields formed)) fun others heldOthers => .pure ?_
  split
  · exact held
  · exact .pattern (List.forall_mem_cons.mpr ⟨held, heldOthers⟩)

theorem pattern_yields (formed : rules.Formed) : (pattern rules).Yields (Node.Built .shape) := by
  refine .skip fun pos => (orPattern_yields formed).bind fun inner held => ?_
  refine .skip fun isNamed => .ite (.skip fun _ => .pure (.pattern ?_)) (.pure held)
  simpa using held

theorem casePatterns_yields (formed : rules.Formed) :
    (casePatterns rules).Yields (Node.Built .shape) := by
  refine .skip fun pos => .skip fun isStarred => ?_
  refine (maybeStarPattern_yields formed).bind fun first held => ?_
  refine (moreElements_yields (maybeStarPattern_yields formed) held).bind
    fun (patterns, isSequence) heldAll => ?_
  exact .ite (.pure (.pattern heldAll)) (.ite .noMatch (.pure held))

theorem commaSeparated_yields {α : Type} {holds : α → Prop} {item : Parser α}
    (yields : item.Yields holds) :
    (commaSeparated item).Yields fun found => ∀ value ∈ found, holds value := by
  refine yields.bind fun first held => .bind (.manyAfter yields) fun rest heldRest => .pure ?_
  exact List.forall_mem_cons.mpr ⟨held, heldRest⟩

theorem importing_yields (pos : Pos) : (importing pos).Yields (Node.Built .statement) :=
  .skip fun _ => .pure (.simple rfl (by simp [Node.children]))

theorem importingFrom_yields (pos : Pos) : (importingFrom pos).Yields (Node.Built .statement) := by
  have imported : ∀ (path : Option String) (level : Nat), Parser.Yields (do
      expectKeyword "import"
      let names ← importedNames
      pure (Node.importingFrom pos path level names)) (Node.Built .statement) := by
    intro path level
    exact .skip fun _ => .skip fun names =>
      .pure (.simple rfl (by simp [Node.children]))
  refine .skip fun level => .skip fun isImport => ?_
  exact .ite (.skip fun path => imported path level) (.skip fun path => imported path level)

theorem deleting_yields (formed : rules.Formed) (pos : Pos) :
    (deleting rules pos).Yields (Node.Built .statement) := by
  refine formed.primary.bind fun first held => ?_
  refine (moreElements_yields formed.primary held).bind fun (targets, isTuple) heldAll => ?_
  refine .required fun _ => .skip fun _ => .skip fun _ => .required fun _ => ?_
  exact .pure (.simple rfl heldAll)

theorem assigning_yields (formed : rules.Formed) (pos : Pos) {first : Node}
    (held : first.Expression) : (assigning rules pos first).Yields (Node.Built .statement) := by
  refine .required fun _ => .skip fun _ => ?_
  refine (assignedValue_yields formed).bind fun value heldValue => ?_
  refine .bind (.iterate (fun found : Node × List Node =>
    found.1.Expression ∧ ∀ node ∈ found.2, node.Expression) (by simp [heldValue, held]) ?_) ?_
  · intro (value, targets) kept
    refine .skip fun goesOn => .ite (.required fun _ => .skip fun _ => ?_) (.pure (by simp))
    refine (assignedValue_yields formed).bind fun next heldNext => .pure ?_
    intro grown same
    rw [← Option.mem_some.mp same]
    exact ⟨heldNext, List.forall_mem_cons.mpr kept⟩
  · intro (value, targets) kept
    refine .pure (.simple rfl ?_)
    intro node member
    rcases List.mem_append.mp member with target | last
    · exact kept.2 node (List.mem_reverse.mp target)
    · rw [List.mem_singleton.mp last]
      exact kept.1

theorem expressionStatement_yields (formed : rules.Formed) :
    (expressionStatement rules).Yields (Node.Built .statement) := by
  refine .skip fun pos => (starExpressions_yields formed).bind fun value held => ?_
  refine .skip fun isAssigned => .ite (assigning_yields formed pos held) ?_
  refine .skip fun isDeclared => .ite ?_ ?_
  · have declared : ∀ declaredType : Node, declaredType.Expression → ∀ assigned : Option Node,
        (∀ node ∈ assigned, node.Expression) →
        Parser.Yields (pure (Node.annAssign pos value declaredType assigned))
          (Node.Built .statement) := by
      intro declaredType heldType assigned heldAssigned
      refine .pure (.simple rfl ?_)
      simpa [Node.children] using ⟨held, heldType, heldAssigned⟩
    refine .required fun _ => .skip fun _ => formed.expression.bind fun declaredType heldType => ?_
    refine .skip fun isAssigned => .either (assignedValue_yields formed).some (.pure (by simp)) ?_
    exact declared declaredType heldType
  · refine .skip fun isAugmented => .ite ?_ ?_
    · refine .required fun _ => (assignedValue_yields formed).bind fun amount heldAmount => ?_
      refine .pure (.simple rfl ?_)
      simpa [Node.children] using ⟨held, heldAmount⟩
    · refine .pure (.simple rfl ?_)
      simpa [Node.children] using held

theorem simpleStatement_yields (formed : rules.Formed) :
    (simpleStatement rules).Yields (Node.Built .statement) := by
  have found := formed.expression.some
  refine .skip fun token => ?_
  dsimp only
  split
  next => exact .skip fun _ => .pure (.simple rfl (by simp [Node.children]))
  next => exact .skip fun _ => .pure (.simple rfl (by simp [Node.children]))
  next => exact .skip fun _ => .pure (.simple rfl (by simp [Node.children]))
  next =>
    refine .skip fun _ => (starExpressions_yields formed).attempt.bind fun value held => .pure ?_
    exact .simple rfl (by simpa [Node.children] using held)
  next => exact .skip fun _ => importing_yields _
  next => exact .skip fun _ => importingFrom_yields _
  next =>
    refine .skip fun _ => formed.expression.attempt.bind fun exception held => ?_
    cases exception with
    | none => exact .pure (.simple rfl (by simp [Node.children]))
    | some exception =>
        refine .skip fun hasCause => .either found (.pure (by simp)) fun cause heldCause => ?_
        refine .pure (.simple rfl ?_)
        simp only [Node.children, List.forall_mem_append, Option.mem_toList]
        exact ⟨held, heldCause⟩
  next => exact .skip fun _ => deleting_yields formed _
  next =>
    refine .skip fun _ => formed.expression.bind fun test held => ?_
    refine .skip fun isExplained => .either found (.pure (by simp)) fun message heldMessage => ?_
    refine .pure (.simple rfl ?_)
    simpa [Node.children] using ⟨held, heldMessage⟩
  next =>
    exact .skip fun _ => .skip fun _ =>
      .pure (.simple rfl (by simp [Node.children]))
  next =>
    exact .skip fun _ => .skip fun _ =>
      .pure (.simple rfl (by simp [Node.children]))
  next =>
    refine (yieldExpression_yields formed).bind fun value held => ?_
    refine .pure (.simple rfl ?_)
    simpa [Node.children] using held
  next => exact expressionStatement_yields formed

theorem simpleStatements_yields (formed : rules.Formed) :
    (simpleStatements rules).Yields fun found => ∀ node ∈ found, node.Built .statement := by
  refine (simpleStatement_yields formed).bind fun first held => ?_
  refine .bind (.many ?_) fun rest (heldRest : ∀ node ∈ rest, node.Built .statement) =>
    .skip fun _ => .pure (List.forall_mem_cons.mpr ⟨held, heldRest⟩)
  refine .skip fun goesOn => .ite (.skip fun isLast => .ite (.pure (by simp)) ?_) (.pure (by simp))
  exact (simpleStatement_yields formed).bind fun node held => .pure (by simpa using held)

theorem block_yields (formed : rules.Formed) (owner : BlockOwner) (line : Nat) :
    (block rules owner line).Yields fun found => ∀ node ∈ found, node.Built .statement := by
  refine .skip fun isBelow => .ite ?_ (simpleStatements_yields formed)
  refine .skip fun isDeeper => .required fun _ => ?_
  refine .bind (.many ?_) fun groups
    (held : ∀ group ∈ groups, ∀ node ∈ group, node.Built .statement) => ?_
  · refine .skip fun isLast => .ite (.pure (by simp)) ?_
    exact formed.statement.bind fun group held => .pure (by simpa using held)
  · refine .checked fun _ => .skip fun _ => .pure ?_
    intro node member
    obtain ⟨group, listed, inside⟩ := List.mem_flatten.mp member
    exact held group listed node inside

theorem elseBlock_yields (formed : rules.Formed) :
    (elseBlock rules).Yields fun found => ∀ node ∈ found, node.Built .statement :=
  .skip fun _ => .skip fun _ => .ite (.skip fun _ => block_yields formed _ _) (.pure (by simp))

theorem finallyBlock_yields (formed : rules.Formed) :
    (finallyBlock rules).Yields fun found => ∀ node ∈ found, node.Built .statement :=
  .skip fun _ => .skip fun _ => .ite (.skip fun _ => block_yields formed _ _) (.pure (by simp))

theorem conditionBlock_yields (formed : rules.Formed) (word : String) (line : Nat) :
    (conditionBlock rules word line).Yields fun found =>
      found.1.Expression ∧ ∀ node ∈ found.2, node.Built .statement := by
  refine (namedExpression_yields formed).bind fun test held => .skip fun _ => ?_
  exact (block_yields formed _ _).bind fun body heldBody => .pure ⟨held, heldBody⟩

theorem branching_yields (formed : rules.Formed) (pos : Pos) :
    (branching rules pos).Yields (Node.Built .statement) := by
  refine (conditionBlock_yields formed _ _).bind fun (test, body) ⟨held, heldBody⟩ => ?_
  refine .bind (.many ?_) fun others (heldOthers : ∀ branch ∈ others,
    branch.2.1.Expression ∧ ∀ node ∈ branch.2.2, node.Built .statement) => ?_
  · refine .skip fun pos => .skip fun goesOn => .ite ?_ (.pure (by simp))
    exact (conditionBlock_yields formed _ _).bind fun (test, body) held =>
      .pure (by simpa using held)
  · refine (elseBlock_yields formed).bind fun last heldLast => .pure ?_
    refine .branch held heldBody ?_
    induction others with
    | nil => exact heldLast
    | cons other rest ih =>
        obtain ⟨heldOther, heldRest⟩ := List.forall_mem_cons.mp heldOthers
        rw [List.foldr_cons, List.forall_mem_singleton]
        exact .branch heldOther.1 heldOther.2 (ih heldRest)

theorem whileLoop_yields (formed : rules.Formed) (pos : Pos) :
    (whileLoop rules pos).Yields (Node.Built .statement) := by
  refine (conditionBlock_yields formed _ _).bind fun (test, body) ⟨held, heldBody⟩ => ?_
  exact (elseBlock_yields formed).bind fun otherwise heldOther =>
    .pure (.whileLoop held heldBody heldOther)

theorem forLoop_yields (formed : rules.Formed) (pos : Pos) (isAsync : Bool) :
    (forLoop rules pos isAsync).Yields (Node.Built .statement) := by
  refine .skip fun _ => .skip fun _ => (starTargets_yields formed).bind fun target heldTarget => ?_
  refine .skip fun _ => (starExpressions_yields formed).bind fun source held => .skip fun _ => ?_
  refine (block_yields formed _ _).bind fun body heldBody => ?_
  exact (elseBlock_yields formed).bind fun otherwise heldOther =>
    .pure (.forLoop heldTarget held heldBody heldOther)

theorem withItem_yields (formed : rules.Formed) :
    (withItem rules).Yields (Node.Built .context) := by
  refine formed.expression.bind fun context held => .skip fun isNamed => .ite ?_ ?_
  · refine (starTarget_yields formed).bind fun target heldTarget => ?_
    refine .skip fun _ => .skip fun _ => .skip fun _ => .required fun _ => ?_
    exact .pure (.withItem held (by simpa using heldTarget))
  · exact .pure (.withItem held (by simp))

theorem parenthesizedItems_yields (formed : rules.Formed) :
    (parenthesizedItems rules).Yields fun found => ∀ node ∈ found, node.Built .context := by
  refine .skip fun _ => (withItem_yields formed).bind fun first held => ?_
  refine (moreElements_yields (withItem_yields formed) held).bind fun (items, isTuple) heldAll => ?_
  exact .skip fun _ => .skip fun _ => .pure heldAll

theorem withBlock_yields (formed : rules.Formed) (pos : Pos) (isAsync : Bool) :
    (withBlock rules pos isAsync).Yields (Node.Built .statement) := by
  have opened : ∀ line : Nat, ∀ items : List Node, (∀ node ∈ items, node.Built .context) →
      Parser.Yields (do
        let body ← block rules (.statement "with") line
        pure (Node.withBlock pos isAsync items body)) (Node.Built .statement) := by
    intro line items held
    exact (block_yields formed _ _).bind fun body heldBody => .pure (.withBlock held heldBody)
  refine .skip fun start => .skip fun _ => ?_
  refine (parenthesizedItems_yields formed).attempt.bind fun found heldFound => ?_
  cases found with
  | some items => exact Parser.Yields.bind (.pure (heldFound items rfl)) (opened start.line)
  | none =>
      refine (commaSeparated_yields (withItem_yields formed)).bind fun items held => ?_
      exact .skip fun _ => Parser.Yields.bind (.pure held) (opened start.line)

theorem handler_yields (formed : rules.Formed) :
    (handler rules).Yields fun found => ∀ value ∈ found, value.1.Built .handler := by
  have handled : ∀ (pos : Pos) (exception : Option Node) (label : Option String)
      (owner : BlockOwner) (isGroup : Bool), (∀ node ∈ exception, node.Expression) →
      Parser.Yields (do
        colon false
        let body ← block rules owner pos.line
        pure (some (Node.handler pos exception label body, isGroup)))
        fun found => ∀ value ∈ found, value.1.Built .handler := by
    intro pos exception label owner isGroup held
    refine .skip fun _ => (block_yields formed _ _).bind fun body heldBody => .pure ?_
    intro value same
    rw [← Option.mem_some.mp same]
    exact .handlerOf held heldBody
  refine .skip fun pos => .skip fun isHandler => .ite ?_ (.pure (by simp))
  refine .skip fun isGroup => .skip fun _ => .skip fun _ => .ite ?_ ?_
  · exact handled pos none none _ false (by simp)
  · refine formed.expression.bind fun exception held => .skip fun label => ?_
    exact handled pos (some exception) label _ isGroup (by simpa using held)

theorem tryBlock_yields (formed : rules.Formed) (pos : Pos) :
    (tryBlock rules pos).Yields (Node.Built .statement) := by
  refine .skip fun _ => (block_yields formed _ _).bind fun body held => ?_
  refine (handler_yields formed).many.bind fun handlers heldHandlers => ?_
  refine .skip fun isLast => .checked fun _ => .checked fun _ => ?_
  refine .either (.pure (by simp)) (elseBlock_yields formed) fun otherwise heldOther => ?_
  refine (finallyBlock_yields formed).bind fun cleanup heldCleanup => ?_
  exact .pure (.tryBlock held (List.forall_mem_map.mpr heldHandlers) heldOther heldCleanup)

theorem functionDef_yields (formed : rules.Formed) (pos : Pos) (isAsync : Bool)
    {decorators : List Node} (heldDecorators : ∀ node ∈ decorators, node.Expression) :
    (functionDef rules pos isAsync decorators).Yields (Node.Built .statement) := by
  refine .skip fun _ => .skip fun _ => expectName_yields.bind fun (_, own) word => ?_
  refine .skip fun isOpen => .required fun _ => ?_
  refine (parameters_yields formed true ")").bind fun draft heldDraft => .skip fun _ => ?_
  refine .skip fun hasResult => .either formed.expression.some (.pure (by simp))
    fun returns heldReturns => .skip fun _ => ?_
  exact (block_yields formed _ _).bind fun body heldBody =>
    .pure (.functionDef word.isWord heldDraft.parts heldBody heldDecorators heldReturns)

theorem classDef_yields (formed : rules.Formed) (pos : Pos) {decorators : List Node}
    (heldDecorators : ∀ node ∈ decorators, node.Expression) :
    (classDef rules pos decorators).Yields (Node.Built .statement) := by
  refine .skip fun _ => expectName_yields.bind fun (_, own) word => ?_
  have opened : ∀ found : List Node × List Node,
      ((∀ node ∈ found.1, node.Expression) ∧ ∀ node ∈ found.2, node.Expression) →
      Parser.Yields (do
        colon false
        let body ← block rules .classDefinition pos.line
        pure (Node.classDef pos own found.1 found.2 body decorators)) (Node.Built .statement) := by
    intro found ⟨heldBases, heldKeywords⟩
    exact .skip fun _ => (block_yields formed _ _).bind fun body heldBody =>
      .pure (.classDef word.isWord heldBases heldKeywords heldBody heldDecorators)
  refine .skip fun hasBases => .ite ?_ (.bind (.pure (by simp)) opened)
  exact (arguments_yields formed).bind fun found held => .skip fun _ => .bind (.pure held) opened

theorem asyncStatement_yields (formed : rules.Formed) (pos : Pos) :
    (asyncStatement rules pos).Yields (Node.Built .statement) := by
  refine .skip fun _ => .skip fun isFunction => .ite ?_ ?_
  · exact functionDef_yields formed pos true (by simp)
  · exact .skip fun _ => .ite (withBlock_yields formed pos true) (forLoop_yields formed pos true)

theorem decorated_yields (formed : rules.Formed) :
    (decorated rules).Yields (Node.Built .statement) := by
  refine .bind (.many ?_) fun decorators (held : ∀ node ∈ decorators, node.Expression) => ?_
  · refine .skip fun goesOn => .ite ?_ (.pure (by simp))
    refine (namedExpression_yields formed).bind fun value held => .skip fun _ => ?_
    exact .pure (by simpa using held)
  · refine .skip fun pos => .skip fun isClass => .ite (classDef_yields formed pos held) ?_
    exact .skip fun isAsync => functionDef_yields formed pos isAsync held

theorem matchSubject_yields (formed : rules.Formed) :
    (matchSubject rules).Yields Node.Expression := by
  refine .skip fun pos => .skip fun isStarred => ?_
  refine (starNamedExpression_yields formed).bind fun first held => ?_
  refine (moreElements_yields (starNamedExpression_yields formed) held).bind
    fun (elements, isTuple) heldAll => ?_
  exact .ite (.pure (.tuple heldAll)) (.ite .noMatch (.pure held))

theorem caseBlock_yields (formed : rules.Formed) : (caseBlock rules).Yields (Node.Built .arm) := by
  refine .skip fun _ => .skip fun _ => (casePatterns_yields formed).bind fun shape held => ?_
  refine .skip fun isGuarded => .either (namedExpression_yields formed).some (.pure (by simp))
    fun guard heldGuard => .skip fun _ => ?_
  refine (block_yields formed _ _).bind fun body heldBody => .pure ?_
  exact .matchCase held heldGuard heldBody

theorem matching_yields (formed : rules.Formed) (pos : Pos) :
    (matching rules pos).Yields (Node.Built .statement) := by
  refine .skip fun _ => (matchSubject_yields formed).bind fun subject held => ?_
  refine .skip fun _ => .skip fun _ => .skip fun isDeeper => .required fun _ => ?_
  refine .bind (.many ?_) fun cases (heldCases : ∀ node ∈ cases, node.Built .arm) => ?_
  · refine .skip fun isLast => .ite (.pure (by simp)) ?_
    exact (caseBlock_yields formed).bind fun node held => .pure (by simpa using held)
  · exact .checked fun _ => .skip fun _ => .pure (.matching held heldCases)

theorem matchingOrSimple_yields (formed : rules.Formed) (pos : Pos) :
    (matchingOrSimple rules pos).Yields fun found => ∀ node ∈ found, node.Built .statement := by
  refine (matching_yields formed pos).attempt.bind fun found heldFound => ?_
  cases found with
  | some node => exact .pure (by simpa using heldFound node rfl)
  | none =>
      refine (simpleStatements_yields formed).attempt.bind fun found heldFound => ?_
      cases found with
      | some nodes => exact .pure (heldFound nodes rfl)
      | none => exact .skip fun _ => .skip fun _ => .skip fun _ => .noMatch

theorem Parser.Yields.alone {rule : Parser Node} (yields : rule.Yields (Node.Built .statement)) :
    Parser.Yields (do Pure.pure [← rule]) fun found => ∀ node ∈ found, node.Built .statement :=
  yields.bind fun _ held => .pure (List.forall_mem_singleton.mpr held)

theorem statement_yields (formed : rules.Formed) :
    (statement rules).Yields fun found => ∀ node ∈ found, node.Built .statement := by
  refine .skip fun token => ?_
  dsimp only
  split
  next => exact (decorated_yields formed).alone
  next => exact .skip fun _ => (branching_yields formed _).alone
  next => exact .skip fun _ => (whileLoop_yields formed _).alone
  next => exact (forLoop_yields formed _ false).alone
  next => exact (withBlock_yields formed _ false).alone
  next => exact .skip fun _ => (tryBlock_yields formed _).alone
  next => exact (functionDef_yields formed _ false (by simp)).alone
  next => exact (classDef_yields formed _ (by simp)).alone
  next => exact (asyncStatement_yields formed _).alone
  next => exact matchingOrSimple_yields formed _
  next => exact simpleStatements_yields formed

theorem statements_yields (formed : rules.Formed) :
    (statements rules).Yields fun found => ∀ node ∈ found, node.Built .statement := by
  refine .bind (.many ?_) fun groups
    (held : ∀ group ∈ groups, ∀ node ∈ group, node.Built .statement) => ?_
  · refine .skip fun isLast => .ite (.pure (by simp)) ?_
    exact (statement_yields formed).bind fun group held => .pure (by simpa using held)
  · refine .skip fun _ => .pure ?_
    intro node member
    obtain ⟨group, listed, inside⟩ := List.mem_flatten.mp member
    exact held group listed node inside

theorem Parser.Yields.run {α : Type} {holds : α → Prop} {parser : Parser α}
    (yields : parser.Yields holds) {stream : TokenStream} (formed : stream.Formed) {value : α}
    (read : parser.run stream = .ok value) : holds value := by
  cases ran : parser stream {} with
  | mk outcome progress =>
      simp only [Parser.run, ReaderT.run, ExceptT.run, StateT.run, ran] at read
      cases outcome with
      | ok found =>
          cases read
          exact yields stream formed {} value progress ran
      | error refusal => cases refusal <;> cases read

end Grammar

open Grammar

theorem readField_yields {rules : Rules} (formed : rules.Formed) (text : List Glyph) :
    (readField rules text).Yields Node.Expression := by
  unfold readField
  split
  next value read => exact .pure ((starExpressions_yields formed).run (tokensOf_formed text) read)
  next => exact .refused

theorem rulesOfDepth_formed (depth : Nat) : (rulesOfDepth depth).Formed := by
  -- A rule refers to the others at the depth below, where all of them are formed at once.
  induction depth with
  | zero => exact Rules.none_formed
  | succ depth ih =>
      exact {
        expression := expression_yields ih
        disjunction := disjunction_yields ih
        inversion := inversion_yields ih
        bitwiseOr := bitwiseOr_yields ih
        factor := factor_yields ih
        primary := primary_yields ih
        pattern := pattern_yields ih
        statement := statement_yields ih
        field := readField_yields ih }

theorem parse_built {text : String} {module : Module} (parsed : parse text = .ok module) :
    ∀ statement ∈ module.body, statement.Built .statement := by
  unfold parse parseWith at parsed
  dsimp only at parsed
  split at parsed
  next => cases parsed
  next =>
    cases read : (statements (rulesOfDepth (2 * (locate text.toList).length + 2))).run
        (tokensOf (locate text.toList)) with
    | error fault =>
        rw [read] at parsed
        cases parsed
    | ok body =>
        rw [read] at parsed
        cases parsed
        exact (statements_yields (rulesOfDepth_formed _)).run (tokensOf_formed _) read

theorem parse_formed {text : String} {module : Module} (parsed : parse text = .ok module) :
    module.Formed :=
  module.formed_iff.mpr fun statement member => (parse_built parsed statement member).formed

theorem exists_parsed {text : String} {holds : Module → Bool}
    (found : (parse text).toOption.any holds = true) :
    ∃ module, parse text = .ok module ∧ holds module = true := by
  cases parsed : parse text with
  | error fault =>
      rw [parsed] at found
      cases found
  | ok module =>
      rw [parsed] at found
      exact ⟨module, rfl, found⟩

end ContractLint.Source
