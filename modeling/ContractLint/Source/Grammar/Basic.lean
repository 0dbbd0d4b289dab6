import ContractLint.Source.Grammar.Parser

/-! The knots of the grammar, and the phrases that only need them. Each rule is written over the
rules one level further in; `Rules` holds those, so that depth bounds the recursion. -/

namespace ContractLint.Source.Grammar

/-- The rules that other rules nest. -/
structure Rules where
  expression : Parser Node
  disjunction : Parser Node
  inversion : Parser Node
  bitwiseOr : Parser Node
  factor : Parser Node
  primary : Parser Node
  pattern : Parser Node
  statement : Parser (List Node)
  field : List Glyph → Parser Node

/-- Rules that match nothing, for depth zero. -/
def Rules.none : Rules :=
  ⟨noMatch, noMatch, noMatch, noMatch, noMatch, noMatch, noMatch, noMatch, fun _ => noMatch⟩

/-- An expression, or a name with the value that it is bound to on the way. -/
def namedExpression (rules : Rules) : Parser Node := do
  if ← nameThenSymbol ":=" then
    let (pos, id) ← expectName
    expectSymbol ":="
    let value ← rules.expression
    pure (.assignment pos (.name pos id) value)
  else
    let value ← rules.expression
    if ← nextIsSymbol ":=" then noMatch
    pure value

/-- An operand after a star, or what `plain` reads. -/
def starOr (rules : Rules) (plain : Parser Node) : Parser Node := do
  let pos ← here
  if ← acceptSymbol "*" then
    let value ← rules.bitwiseOr
    pure (.starred pos value)
  else plain

def starExpression (rules : Rules) : Parser Node := starOr rules rules.expression

def starNamedExpression (rules : Rules) : Parser Node := starOr rules (namedExpression rules)

/-- After a first element: commas and further elements, with the comma after the last one optional.
Says whether there was a comma. -/
def moreElements (element : Parser Node) (first : Node) : Parser (List Node × Bool) := do
  if ← acceptSymbol "," then
    let rest ← iterate (fun (found, isOpen) => do
      if isOpen then
        match ← attempt element with
        | some node => pure (some (node :: found, ← acceptSymbol ","))
        | none => pure none
      else pure none) ([], true)
    pure (first :: rest.1.reverse, true)
  else pure ([first], false)

/-- Elements divided by commas: one alone stands for itself, else they are a tuple. -/
def tupleOr (element : Parser Node) : Parser Node := do
  let pos ← here
  let first ← element
  let (elements, isTuple) ← moreElements element first
  pure (if isTuple then .tuple pos elements else first)

def starExpressions (rules : Rules) : Parser Node := tupleOr (starExpression rules)

/-- The keyword `yield` with what it hands out. -/
def yieldExpression (rules : Rules) : Parser Node := do
  let pos ← here
  expectKeyword "yield"
  if ← acceptKeyword "from" then
    let value ← rules.expression
    pure (.form pos .yieldedFrom [value])
  else
    match ← attempt (starExpressions rules) with
    | some value => pure (.form pos .yielded [value])
    | none => pure (.form pos .yielded [])

/-- The right-hand side of an assignment. -/
def assignedValue (rules : Rules) : Parser Node := do
  if ← nextIsKeyword "yield" then yieldExpression rules else starExpressions rules

/-- The expressions that values can be bound to. -/
def isTarget : Node → Bool
  | .name _ _ => true
  | .attribute _ _ _ => true
  | .subscript _ _ _ => true
  | .starred _ value => isTarget value
  | .tuple _ elements => elements.attach.all fun ⟨element, _⟩ => isTarget element
  | .list _ elements => elements.attach.all fun ⟨element, _⟩ => isTarget element
  | _ => false

def starTarget (rules : Rules) : Parser Node := do
  let pos ← here
  let isStarred ← acceptSymbol "*"
  let value ← rules.primary
  unless isTarget value do noMatch
  pure (if isStarred then .starred pos value else value)

def starTargets (rules : Rules) : Parser Node := tupleOr (starTarget rules)

/-- The clauses of a comprehension. -/
def clauses (rules : Rules) : Parser (List Node) := do
  let found ← many (do
    let isAsync ← nextIsKeyword "async"
    if isAsync then advance
    if ← nextIsKeyword "for" then
      advance
      let target ← starTargets rules
      expectKeyword "in"
      let source ← rules.disjunction
      let conditions ← many (do
        if ← acceptKeyword "if" then pure (some (← rules.disjunction)) else pure none)
      pure (some (.clause target source conditions))
    else if isAsync then noMatch
    else pure none)
  if found.isEmpty then noMatch else pure found

def startsClause : Parser Bool := do
  if ← nextIsKeyword "for" then pure true else nextIsKeyword "async"

/-- How far an argument list has come: keywords end the positional arguments, and an unpacked
mapping ends the unpacked sequences. -/
inductive ArgumentStage
  | positional
  | keyword
  | mapping
deriving DecidableEq

structure ArgumentList where
  args : List Node := []
  keywords : List Node := []
  stage : ArgumentStage := .positional

def ArgumentList.positional (found : ArgumentList) (node : Node) : ArgumentList :=
  { found with args := node :: found.args }

def ArgumentList.keyword (found : ArgumentList) (node : Node) (stage : ArgumentStage) :
    ArgumentList :=
  { found with keywords := node :: found.keywords, stage := stage }

def argument (rules : Rules) (found : ArgumentList) : Parser ArgumentList := do
  let pos ← here
  if ← acceptSymbol "*" then
    if found.stage = .mapping then noMatch
    let value ← rules.expression
    pure (found.positional (.starred pos value))
  else if ← acceptSymbol "**" then
    let value ← rules.expression
    pure (found.keyword (.keyword pos none value) .mapping)
  else if ← nameThenSymbol "=" then
    let (_, name) ← expectName
    expectSymbol "="
    let value ← rules.expression
    let stage := if found.stage = .mapping then .mapping else .keyword
    pure (found.keyword (.keyword pos (some name) value) stage)
  else
    let value ← namedExpression rules
    if ← nextIsSymbol "=" then noMatch
    if found.stage != .positional then refuse .badArguments
    pure (found.positional value)

/-- The arguments after the first one. -/
def argumentsAfter (rules : Rules) (first : ArgumentList) : Parser (List Node × List Node) := do
  let found ← iterate (fun found => do
    if ← acceptSymbol "," then
      if ← nextIsSymbol ")" then pure none else pure (some (← argument rules found))
    else pure none) first
  pure (found.args.reverse, found.keywords.reverse)

/-- The bases of a class, without the parentheses. -/
def arguments (rules : Rules) : Parser (List Node × List Node) := do
  if ← nextIsSymbol ")" then pure ([], [])
  else argumentsAfter rules (← argument rules {})

/-- A parameter with its annotation and its default. -/
structure ParameterDraft where
  parameter : Parameter
  declaredType : Option Node := none
  default : Option Node := none

/-- The parameters read so far, each list with the last one first. -/
structure SignatureDraft where
  positionalOnly : List ParameterDraft := []
  regular : List ParameterDraft := []
  sawStar : Bool := false
  variadic : Option ParameterDraft := none
  keywordOnly : List ParameterDraft := []
  keywordVariadic : Option ParameterDraft := none

def SignatureDraft.signature (draft : SignatureDraft) : Signature where
  positionalOnly := draft.positionalOnly.reverse.map (·.parameter)
  regular := draft.regular.reverse.map (·.parameter)
  variadic := draft.variadic.map (·.parameter)
  keywordOnly := draft.keywordOnly.reverse.map (·.parameter)
  keywordVariadic := draft.keywordVariadic.map (·.parameter)

/-- Annotations and defaults in the order in which they are visited. -/
def SignatureDraft.parts (draft : SignatureDraft) : List Node :=
  let positional := draft.positionalOnly.reverse ++ draft.regular.reverse
  positional.filterMap (·.declaredType) ++ (draft.variadic.bind (·.declaredType)).toList ++
    draft.keywordOnly.reverse.filterMap (·.declaredType) ++
    draft.keywordOnly.reverse.filterMap (·.default) ++
    (draft.keywordVariadic.bind (·.declaredType)).toList ++ positional.filterMap (·.default)

/-- One parameter, one star or one slash of a parameter list. -/
def parameterItem (rules : Rules) (annotated : Bool) (draft : SignatureDraft) :
    Parser SignatureDraft := do
  if draft.keywordVariadic.isSome then noMatch
  if ← acceptSymbol "/" then
    if draft.sawStar || !draft.positionalOnly.isEmpty || draft.regular.isEmpty then noMatch
    pure { draft with positionalOnly := draft.regular, regular := [] }
  else if ← acceptSymbol "**" then
    let parameter ← plainParameter rules.expression
    pure { draft with keywordVariadic := some parameter }
  else if ← acceptSymbol "*" then
    if draft.sawStar then noMatch
    if ← nextIsSymbol "," then pure { draft with sawStar := true }
    else
      let parameter ← plainParameter (starExpression rules)
      pure { draft with sawStar := true, variadic := some parameter }
  else
    let parameter ← plainParameter rules.expression
    let default ← if ← acceptSymbol "=" then some <$> rules.expression else pure none
    let parameter := { parameter with default := default }
    if draft.sawStar then pure { draft with keywordOnly := parameter :: draft.keywordOnly }
    else
      let last := (draft.regular ++ draft.positionalOnly).head?
      if default.isNone && last.any (·.default.isSome) then noMatch
      pure { draft with regular := parameter :: draft.regular }
where
  plainParameter (declaredType : Parser Node) : Parser ParameterDraft := do
    let (pos, name) ← expectName
    if annotated then
      if ← acceptSymbol ":" then
        let declaredType ← declaredType
        pure { parameter := ⟨pos, name⟩, declaredType := some declaredType }
      else pure { parameter := ⟨pos, name⟩ }
    else pure { parameter := ⟨pos, name⟩ }

/-- A parameter list up to its closing symbol, which is not taken. A star that stands alone needs
a parameter after it. -/
def parameters (rules : Rules) (annotated : Bool) (closing : String) : Parser SignatureDraft := do
  if ← nextIsSymbol closing then pure {}
  else
    let first ← parameterItem rules annotated {}
    let draft ← iterate (fun draft => do
      if ← acceptSymbol "," then
        if ← nextIsSymbol closing then pure none
        else pure (some (← parameterItem rules annotated draft))
      else pure none) first
    if draft.sawStar && draft.variadic.isNone && draft.keywordOnly.isEmpty then noMatch
    pure draft

end ContractLint.Source.Grammar
