import ContractLint.Source.Grammar.Pattern

/-! Statements. -/

namespace ContractLint.Source.Grammar

/-- The colon before a block. Where only a colon can stand, anything else is told so; else only the
end of the line is. -/
def colon (isForced : Bool) : Parser Unit := do
  unless ← acceptSymbol ":" do
    if isForced || (← nextIs .newline) then refuse (.expected ":")
    noMatch

/-- The names of an import, joined by points. -/
def dottedName : Parser String := do
  let (_, first) ← expectName
  iterate (fun path => do
    if ← acceptSymbol "." then
      let (_, next) ← expectName
      pure (some (path ++ "." ++ next))
    else pure none) first

def boundName : Parser (Option String) := do
  if ← acceptKeyword "as" then
    let (_, name) ← expectName
    pure (some name)
  else pure none

/-- Items divided by commas, without one after the last. -/
def commaSeparated {α : Type} (item : Parser α) : Parser (List α) := do
  let first ← item
  let rest ← many (do
    if ← acceptSymbol "," then pure (some (← item)) else pure none)
  pure (first :: rest)

def importing (pos : Pos) : Parser Node := do
  let modules ← commaSeparated (do
    let name ← dottedName
    let boundTo ← boundName
    pure (Alias.mk name boundTo))
  pure (.importing pos modules)

def importedName : Parser Alias := do
  let (_, name) ← expectName
  let boundTo ← boundName
  pure ⟨name, boundTo⟩

/-- Names in parentheses, where a comma may follow the last one. -/
def importedNames : Parser (List Alias) := do
  if ← acceptSymbol "*" then pure [⟨"*", none⟩]
  else if ← acceptSymbol "(" then
    let first ← importedName
    let rest ← many (do
      if ← acceptSymbol "," then
        if ← nextIsSymbol ")" then pure none else pure (some (← importedName))
      else pure none)
    expectSymbol ")"
    pure (first :: rest)
  else commaSeparated importedName

def importingFrom (pos : Pos) : Parser Node := do
  let level ← iterate (fun level => do
    if ← acceptSymbol "." then pure (some (level + 1))
    else if ← acceptSymbol "..." then pure (some (level + 3))
    else pure none) 0
  let module ← if 0 < level && (← nextIsKeyword "import") then pure none else some <$> dottedName
  expectKeyword "import"
  let names ← importedNames
  pure (.importingFrom pos module level names)

/-- The targets of `del`: without stars. -/
def isDeletable : Node → Bool
  | .name _ _ | .attribute _ _ _ | .subscript _ _ _ => true
  | .tuple _ elements => elements.attach.all fun ⟨element, _⟩ => isDeletable element
  | .list _ elements => elements.attach.all fun ⟨element, _⟩ => isDeletable element
  | _ => false

def deleting (rules : Rules) (pos : Pos) : Parser Node := do
  let first ← rules.primary
  let (targets, _) ← moreElements rules.primary first
  unless targets.all isDeletable do noMatch
  unless (← nextIsSymbol ";") || (← nextIs .newline) do noMatch
  pure (.deleting pos targets)

def augmentedSymbols : List String :=
  ["+=", "-=", "*=", "@=", "/=", "%=", "&=", "|=", "^=", "<<=", ">>=", "**=", "//="]

def isSingleTarget : Node → Bool
  | .name _ _ | .attribute _ _ _ | .subscript _ _ _ => true
  | _ => false

/-- After the first target and its equals sign: further targets and the value. -/
def assigning (rules : Rules) (pos : Pos) (first : Node) : Parser Node := do
  unless isTarget first do refuse .badTarget
  expectSymbol "="
  let value ← assignedValue rules
  let (value, targets) ← iterate (fun (value, targets) => do
    if ← nextIsSymbol "=" then
      unless isTarget value do refuse .badTarget
      expectSymbol "="
      let next ← assignedValue rules
      pure (some (next, value :: targets))
    else pure none) (value, [first])
  pure (.assign pos targets.reverse value)

/-- An expression by itself, or an assignment to it. -/
def expressionStatement (rules : Rules) : Parser Node := do
  let pos ← here
  let value ← starExpressions rules
  if ← nextIsSymbol "=" then assigning rules pos value
  else if ← nextIsSymbol ":" then
    unless isSingleTarget value do noMatch
    expectSymbol ":"
    let declaredType ← rules.expression
    let assigned ← if ← acceptSymbol "=" then some <$> assignedValue rules else pure none
    pure (.annAssign pos value declaredType assigned)
  else if ← acceptAny augmentedSymbols then
    unless isSingleTarget value do refuse .badTarget
    let amount ← assignedValue rules
    pure (.augAssign pos value amount)
  else pure (.expression pos value)

def simpleStatement (rules : Rules) : Parser Node := do
  let token ← peek
  let pos := token.pos
  match token.kind with
  | .keyword "pass" | .keyword "break" | .keyword "continue" =>
    advance
    pure (.plain pos)
  | .keyword "return" =>
    advance
    pure (.returning pos (← attempt (starExpressions rules)))
  | .keyword "import" =>
    advance
    importing pos
  | .keyword "from" =>
    advance
    importingFrom pos
  | .keyword "raise" =>
    advance
    match ← attempt rules.expression with
    | none => pure (.raising pos none none)
    | some exception =>
      let cause ← if ← acceptKeyword "from" then some <$> rules.expression else pure none
      pure (.raising pos (some exception) cause)
  | .keyword "del" =>
    advance
    deleting rules pos
  | .keyword "assert" =>
    advance
    let test ← rules.expression
    let message ← if ← acceptSymbol "," then some <$> rules.expression else pure none
    pure (.asserting pos test message)
  | .keyword "global" | .keyword "nonlocal" =>
    advance
    let names ← commaSeparated expectName
    pure (.declaring pos (names.map (·.2)))
  | .keyword "yield" => pure (.expression pos (← yieldExpression rules))
  | _ => expressionStatement rules

/-- The simple statements of one line. -/
def simpleStatements (rules : Rules) : Parser (List Node) := do
  let first ← simpleStatement rules
  let rest ← many (do
    if ← acceptSymbol ";" then
      if ← nextIs .newline then pure none else pure (some (← simpleStatement rules))
    else pure none)
  expect .newline
  pure (first :: rest)

/-- The statements of a block: deeper lines, or simple statements on the same line. -/
def block (rules : Rules) (owner : BlockOwner) (line : Nat) : Parser (List Node) := do
  if ← accept .newline then
    unless ← accept .indent do refuseAtCursor (.missingBlock owner line)
    let groups ← many (do
      if ← nextIs .dedent then pure none else pure (some (← rules.statement)))
    if groups.isEmpty then noMatch
    expect .dedent
    pure groups.flatten
  else simpleStatements rules

def elseBlock (rules : Rules) : Parser (List Node) := do
  let pos ← here
  if ← acceptKeyword "else" then
    colon true
    block rules (.statement "else") pos.line
  else pure []

/-- A condition with its block. -/
def conditionBlock (rules : Rules) (word : String) (line : Nat) : Parser (Node × List Node) := do
  let test ← namedExpression rules
  colon false
  let body ← block rules (.statement word) line
  pure (test, body)

/-- A chain of conditions: each further one stands in the other branch of the one before. -/
def branching (rules : Rules) (pos : Pos) : Parser Node := do
  let (test, body) ← conditionBlock rules "if" pos.line
  let others ← many (do
    let pos ← here
    if ← acceptKeyword "elif" then
      let (test, body) ← conditionBlock rules "elif" pos.line
      pure (some (pos, test, body))
    else pure none)
  let last ← elseBlock rules
  let otherwise := others.foldr
    (fun (pos, test, body) rest => [Node.branch pos test body rest]) last
  pure (.branch pos test body otherwise)

def whileLoop (rules : Rules) (pos : Pos) : Parser Node := do
  let (test, body) ← conditionBlock rules "while" pos.line
  let otherwise ← elseBlock rules
  pure (.whileLoop pos test body otherwise)

def forLoop (rules : Rules) (pos : Pos) (isAsync : Bool) : Parser Node := do
  let line := (← here).line
  expectKeyword "for"
  let target ← starTargets rules
  expectKeyword "in"
  let source ← starExpressions rules
  colon true
  let body ← block rules (.statement "for") line
  let otherwise ← elseBlock rules
  pure (.forLoop pos isAsync target source body otherwise)

def withItem (rules : Rules) : Parser Node := do
  let context ← rules.expression
  if ← acceptKeyword "as" then
    let target ← starTarget rules
    unless (← nextIsSymbol ",") || (← nextIsSymbol ")") || (← nextIsSymbol ":") do noMatch
    pure (.withItem context (some target))
  else pure (.withItem context none)

/-- Items in parentheses, up to the colon after them. -/
def parenthesizedItems (rules : Rules) : Parser (List Node) := do
  expectSymbol "("
  let first ← withItem rules
  let (items, _) ← moreElements (withItem rules) first
  expectSymbol ")"
  expectSymbol ":"
  pure items

def withBlock (rules : Rules) (pos : Pos) (isAsync : Bool) : Parser Node := do
  let line := (← here).line
  expectKeyword "with"
  let items ← match ← attempt (parenthesizedItems rules) with
    | some items => pure items
    | none => do
      let items ← commaSeparated (withItem rules)
      colon false
      pure items
  let body ← block rules (.statement "with") line
  pure (.withBlock pos isAsync items body)

/-- A handler, and whether it is one for groups. -/
def handler (rules : Rules) : Parser (Option (Node × Bool)) := do
  let pos ← here
  if ← acceptKeyword "except" then
    let isGroup ← acceptSymbol "*"
    let owner : BlockOwner := .statement (if isGroup then "except*" else "except")
    if !isGroup && ((← nextIsSymbol ":") || (← nextIs .newline)) then
      colon false
      let body ← block rules owner pos.line
      pure (some (.handler pos none none body, false))
    else
      let exception ← rules.expression
      let name ← boundName
      colon false
      let body ← block rules owner pos.line
      pure (some (.handler pos (some exception) name body, isGroup))
  else pure none

def finallyBlock (rules : Rules) : Parser (List Node) := do
  let pos ← here
  if ← acceptKeyword "finally" then
    colon true
    block rules (.statement "finally") pos.line
  else pure []

def tryBlock (rules : Rules) (pos : Pos) : Parser Node := do
  colon true
  let body ← block rules (.statement "try") pos.line
  let handlers ← many (handler rules)
  if handlers.isEmpty && !(← nextIsKeyword "finally") then refuseAtCursor .missingHandler
  let isGroup := handlers.any (·.2)
  if isGroup && handlers.any (!·.2) then refuse .mixedHandlers
  let otherwise ← if handlers.isEmpty then pure [] else elseBlock rules
  let cleanup ← finallyBlock rules
  pure (.tryBlock pos isGroup body (handlers.map (·.1)) otherwise cleanup)

def functionDef (rules : Rules) (pos : Pos) (isAsync : Bool) (decorators : List Node) :
    Parser Node := do
  let line := (← here).line
  expectKeyword "def"
  let (_, name) ← expectName
  unless ← acceptSymbol "(" do refuse (.expected "(")
  let draft ← parameters rules true ")"
  expectSymbol ")"
  let returns ← if ← acceptSymbol "->" then some <$> rules.expression else pure none
  colon true
  let body ← block rules .functionDefinition line
  pure (.functionDef pos isAsync name draft.signature draft.parts body decorators returns)

def classDef (rules : Rules) (pos : Pos) (decorators : List Node) : Parser Node := do
  expectKeyword "class"
  let (_, name) ← expectName
  let (bases, keywords) ← if ← acceptSymbol "(" then do
      let found ← arguments rules
      expectSymbol ")"
      pure found
    else pure ([], [])
  colon false
  let body ← block rules .classDefinition pos.line
  pure (.classDef pos name bases keywords body decorators)

/-- A statement that starts with `async`. -/
def asyncStatement (rules : Rules) (pos : Pos) : Parser Node := do
  advance
  if ← nextIsKeyword "def" then functionDef rules pos true []
  else if ← nextIsKeyword "with" then withBlock rules pos true
  else forLoop rules pos true

/-- Decorators with the function or class below them. -/
def decorated (rules : Rules) : Parser Node := do
  let decorators ← many (do
    if ← acceptSymbol "@" then
      let value ← namedExpression rules
      expect .newline
      pure (some value)
    else pure none)
  let pos ← here
  if ← nextIsKeyword "class" then classDef rules pos decorators
  else
    let isAsync ← acceptKeyword "async"
    functionDef rules pos isAsync decorators

/-- The soft keyword `word` as the next token. -/
def softKeyword (word : String) : Parser Unit := do
  let (_, name) ← expectName
  unless name = word do noMatch

/-- What a match statement looks at: a tuple if there is a comma. -/
def matchSubject (rules : Rules) : Parser Node := do
  let pos ← here
  let isStarred ← nextIsSymbol "*"
  let first ← starNamedExpression rules
  let (elements, isTuple) ← moreElements (starNamedExpression rules) first
  if isTuple then pure (.tuple pos elements)
  else if isStarred then noMatch
  else pure first

def caseBlock (rules : Rules) : Parser Node := do
  let line := (← here).line
  softKeyword "case"
  let shape ← casePatterns rules
  let guard ← if ← acceptKeyword "if" then some <$> namedExpression rules else pure none
  colon false
  let body ← block rules (.statement "case") line
  pure (.matchCase shape guard body)

def matching (rules : Rules) (pos : Pos) : Parser Node := do
  softKeyword "match"
  let subject ← matchSubject rules
  expectSymbol ":"
  expect .newline
  unless ← accept .indent do refuseAtCursor (.missingBlock (.statement "match") pos.line)
  let cases ← many (do
    if ← nextIs .dedent then pure none else pure (some (← caseBlock rules)))
  if cases.isEmpty then noMatch
  expect .dedent
  pure (.matching pos subject cases)

/-- A line that starts with the name `match` is a match statement if it can be read as one. -/
def matchingOrSimple (rules : Rules) (pos : Pos) : Parser (List Node) := do
  match ← attempt (matching rules pos) with
  | some node => pure [node]
  | none =>
    match ← attempt (simpleStatements rules) with
    | some nodes => pure nodes
    | none =>
      softKeyword "match"
      let _ ← matchSubject rules
      colon false
      noMatch

def statement (rules : Rules) : Parser (List Node) := do
  let token ← peek
  let pos := token.pos
  match token.kind with
  | .symbol "@" => pure [← decorated rules]
  | .keyword "if" =>
    advance
    pure [← branching rules pos]
  | .keyword "while" =>
    advance
    pure [← whileLoop rules pos]
  | .keyword "for" => pure [← forLoop rules pos false]
  | .keyword "with" => pure [← withBlock rules pos false]
  | .keyword "try" =>
    advance
    pure [← tryBlock rules pos]
  | .keyword "def" => pure [← functionDef rules pos false []]
  | .keyword "class" => pure [← classDef rules pos []]
  | .keyword "async" => pure [← asyncStatement rules pos]
  | .name "match" => matchingOrSimple rules pos
  | _ => simpleStatements rules

/-- The statements of a whole text. -/
def statements (rules : Rules) : Parser (List Node) := do
  let groups ← many (do
    if ← nextIs .finish then pure none else pure (some (← statement rules)))
  expect .finish
  pure groups.flatten

/-- One expression, or a tuple of them, as a whole text. -/
def soleExpression (rules : Rules) : Parser Node := do
  let value ← tupleOr rules.expression
  let _ ← many (do
    if ← accept .newline then pure (some ()) else pure none)
  expect .finish
  pure value

end ContractLint.Source.Grammar
