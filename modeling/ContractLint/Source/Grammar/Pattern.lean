import ContractLint.Source.Grammar.Expression

/-! Patterns of match statements. -/

namespace ContractLint.Source.Grammar

/-- A name that a pattern binds; the name of one underscore binds nothing. -/
def captureTarget : Parser (Pos × String) := do
  let (pos, name) ← expectName
  if name = "_" then noMatch
  if (← nextIsSymbol ".") || (← nextIsSymbol "(") || (← nextIsSymbol "=") then noMatch
  pure (pos, name)

def wildcard : Parser Pos := do
  let (pos, name) ← expectName
  if name = "_" then pure pos else noMatch

/-- A number with an optional minus sign. -/
def signedNumber : Parser Node := do
  let pos ← here
  let isNegative ← acceptSymbol "-"
  let token ← peek
  match token.kind with
  | .number value =>
    advance
    let number := Node.constant token.pos value
    pure (if isNegative then .unary pos .minus number else number)
  | _ => noMatch

def isImaginary : Node → Bool
  | .constant _ .imaginary => true
  | _ => false

def isNegatedImaginary : Node → Bool
  | .unary _ _ operand => isImaginary operand
  | _ => false

/-- A number, or a real and an imaginary one with a sign between them. -/
def numberPattern : Parser Node := do
  let pos ← here
  let first ← signedNumber
  if (← nextIsSymbol "+") || (← nextIsSymbol "-") then
    if isImaginary first || isNegatedImaginary first then noMatch
    advance
    let token ← peek
    match token.kind with
    | .number .imaginary =>
      advance
      pure (.form pos .binary [first, .constant token.pos .imaginary])
    | _ => noMatch
  else pure first

/-- A literal as a value to compare with. -/
def literalValue (rules : Rules) : Parser Node := do
  let token ← peek
  match token.kind with
  | .number _ | .symbol "-" => numberPattern
  | .quoted _ => quotedLiterals rules
  | .keyword "None" =>
    advance
    pure (.constant token.pos .nothing)
  | .keyword "True" =>
    advance
    pure (.constant token.pos (.boolean true))
  | .keyword "False" =>
    advance
    pure (.constant token.pos (.boolean false))
  | _ => noMatch

def isSingleton : Node → Bool
  | .constant _ .nothing | .constant _ (.boolean _) => true
  | _ => false

def literalPattern (rules : Rules) : Parser Node := do
  let pos ← here
  let value ← literalValue rules
  if isSingleton value then pure (.pattern pos .singleton [] none)
  else pure (.pattern pos .value [value] none)

/-- A name with any number of attributes; says how many there are. -/
def nameOrAttribute : Parser (Node × Nat) := do
  let (pos, id) ← expectName
  iterate (fun (value, count) => do
    if ← acceptSymbol "." then
      let (_, attr) ← expectName
      pure (some (.attribute pos value attr, count + 1))
    else pure none) (.name pos id, 0)

def valuePattern : Parser Node := do
  let pos ← here
  let (value, count) ← nameOrAttribute
  if count = 0 || (← nextIsSymbol "(") || (← nextIsSymbol "=") then noMatch
  pure (.pattern pos .value [value] none)

def starPattern : Parser Node := do
  let pos ← here
  expectSymbol "*"
  match ← attempt captureTarget with
  | some (_, name) => pure (.pattern pos .star [] (some name))
  | none =>
    let _ ← wildcard
    pure (.pattern pos .star [] none)

def maybeStarPattern (rules : Rules) : Parser Node := do
  if ← nextIsSymbol "*" then starPattern else rules.pattern

/-- Patterns in parentheses: one alone without a comma is that pattern. -/
def parenthesizedPattern (rules : Rules) : Parser Node := do
  let pos ← here
  expectSymbol "("
  if ← acceptSymbol ")" then pure (.pattern pos .sequence [] none)
  else
    let isStarred ← nextIsSymbol "*"
    let first ← maybeStarPattern rules
    let (patterns, isSequence) ← moreElements (maybeStarPattern rules) first
    expectSymbol ")"
    if isSequence then pure (.pattern pos .sequence patterns none)
    else if isStarred then noMatch
    else pure first

def bracketedPattern (rules : Rules) : Parser Node := do
  let pos ← here
  expectSymbol "["
  if ← acceptSymbol "]" then pure (.pattern pos .sequence [] none)
  else
    let first ← maybeStarPattern rules
    let (patterns, _) ← moreElements (maybeStarPattern rules) first
    expectSymbol "]"
    pure (.pattern pos .sequence patterns none)

def mappingKey (rules : Rules) : Parser Node := do
  match ← attempt (literalValue rules) with
  | some value => pure value
  | none =>
    let (value, count) ← nameOrAttribute
    if count = 0 then noMatch
    pure value

/-- The items of a mapping pattern; the rest of the mapping is bound by the last one. -/
def mappingPattern (rules : Rules) : Parser Node := do
  let pos ← here
  expectSymbol "\x7b"
  let (items, rest, _) ← iterate (fun (items, rest, isOpen) => do
    if !isOpen || (← nextIsSymbol "\x7d") then pure none
    else if ← acceptSymbol "**" then
      let (_, name) ← captureTarget
      let _ ← acceptSymbol ","
      pure (some (items, some name, false))
    else
      let key ← mappingKey rules
      expectSymbol ":"
      let value ← rules.pattern
      let isOpen ← acceptSymbol ","
      pure (some ((key, value) :: items, rest, isOpen))) (([] : List (Node × Node)), none, true)
  expectSymbol "\x7d"
  let items := items.reverse
  pure (.pattern pos .mapping (items.map (·.1) ++ items.map (·.2)) rest)

/-- The patterns of a class: positional ones, then ones with names. -/
def classPattern (rules : Rules) : Parser Node := do
  let pos ← here
  let (name, _) ← nameOrAttribute
  expectSymbol "("
  let (patterns, _, _) ← iterate (fun (patterns, sawName, isOpen) => do
    if !isOpen || (← nextIsSymbol ")") then pure none
    else if ← nameThenSymbol "=" then
      advance
      advance
      let pattern ← rules.pattern
      pure (some (pattern :: patterns, true, ← acceptSymbol ","))
    else if sawName then noMatch
    else
      let pattern ← rules.pattern
      pure (some (pattern :: patterns, false, ← acceptSymbol ","))) (([] : List Node), false, true)
  expectSymbol ")"
  pure (.pattern pos .classOf (name :: patterns.reverse) none)

def closedPattern (rules : Rules) : Parser Node := do
  let token ← peek
  match token.kind with
  | .number _ | .quoted _ | .keyword _ | .symbol "-" => literalPattern rules
  | .symbol "(" => parenthesizedPattern rules
  | .symbol "[" => bracketedPattern rules
  | .symbol "\x7b" => mappingPattern rules
  | .name _ =>
    match ← attempt captureTarget with
    | some (pos, name) => pure (.pattern pos .capture [] (some name))
    | none =>
      match ← attempt (do
        let pos ← wildcard
        if (← nextIsSymbol ".") || (← nextIsSymbol "(") then noMatch
        pure pos) with
      | some pos => pure (.pattern pos .capture [] none)
      | none =>
        match ← attempt valuePattern with
        | some value => pure value
        | none => classPattern rules
  | _ => noMatch

def orPattern (rules : Rules) : Parser Node := do
  let pos ← here
  let first ← closedPattern rules
  let others ← many (do
    if ← acceptSymbol "|" then pure (some (← closedPattern rules)) else pure none)
  pure (if others.isEmpty then first else .pattern pos .alternatives (first :: others) none)

/-- A pattern, perhaps with a name for what it matches. -/
def pattern (rules : Rules) : Parser Node := do
  let pos ← here
  let inner ← orPattern rules
  if ← acceptKeyword "as" then
    let (_, name) ← captureTarget
    pure (.pattern pos .capture [inner] (some name))
  else pure inner

/-- The patterns of a case: with a comma they are a sequence. -/
def casePatterns (rules : Rules) : Parser Node := do
  let pos ← here
  let isStarred ← nextIsSymbol "*"
  let first ← maybeStarPattern rules
  let (patterns, isSequence) ← moreElements (maybeStarPattern rules) first
  if isSequence then pure (.pattern pos .sequence patterns none)
  else if isStarred then noMatch
  else pure first

end ContractLint.Source.Grammar
