import ContractLint.Source.Grammar.Basic
import ContractLint.Source.Grammar.Template

/-! Expressions. -/

namespace ContractLint.Source.Grammar

/-- A replacement field with the fields of its format. -/
def replacement (rules : Rules) : Field → Parser Node
  | .mk brace body stop format => do
    let opening := { brace with char := '(' }
    let closing := { stop with char := ')' }
    let value ← rules.field (opening :: body ++ [closing])
    let inner ← format.attach.mapM fun ⟨field, _⟩ => replacement rules field
    let spec := if inner.isEmpty then [] else [Node.form brace.pos .template inner]
    pure (.form brace.pos .replacement (value :: spec))

/-- The replacement fields of one literal. -/
def literalFields (rules : Rules) (token : Token) (literal : QuotedLiteral) :
    Parser (List Node) := do
  let fault (cause : Cause) : Refusal :=
    .fault ⟨cause, some token.pos.line, some token.offset⟩
  if literal.isTemplate then
    match QuotedLiteral.fields literal with
    | .ok fields => fields.mapM (replacement rules)
    | .error what => throw (fault (.inTemplate what))
  else if literal.readable then pure []
  else throw (fault .badLiteral)

/-- Quoted literals side by side are one value. -/
def quotedLiterals (rules : Rules) : Parser Node := do
  let pos ← here
  let found ← many (do
    let token ← peek
    match token.kind with
    | .quoted literal =>
      advance
      pure (some (token, literal))
    | _ => pure none)
  let literals := found.map (·.2)
  if literals.any (·.isBytes) && literals.any (!·.isBytes) then refuse .mixedLiterals
  let fields ← found.mapM fun (token, literal) => literalFields rules token literal
  if literals.any (·.isTemplate) then pure (.form pos .template fields.flatten)
  else if literals.any (·.isBytes) then pure (.constant pos .bytes)
  else pure (.constant pos .text)

/-- After an opening parenthesis: a tuple, a parenthesised expression or a generator. -/
def parenthesized (rules : Rules) (pos : Pos) : Parser Node := do
  if ← acceptSymbol ")" then pure (.tuple pos [])
  else if ← nextIsKeyword "yield" then
    let value ← yieldExpression rules
    expectSymbol ")"
    pure value
  else
    let isStarred ← nextIsSymbol "*"
    let first ← starNamedExpression rules
    if !isStarred && (← startsClause) then
      let parts ← clauses rules
      expectSymbol ")"
      pure (.form pos .generator (first :: parts))
    else
      let (elements, isTuple) ← moreElements (starNamedExpression rules) first
      expectSymbol ")"
      if isTuple then pure (.tuple pos elements)
      else if isStarred then noMatch
      else pure first

/-- After an opening square bracket: a list or a comprehension. -/
def bracketed (rules : Rules) (pos : Pos) : Parser Node := do
  if ← acceptSymbol "]" then pure (.list pos [])
  else
    let isStarred ← nextIsSymbol "*"
    let first ← starNamedExpression rules
    if !isStarred && (← startsClause) then
      let parts ← clauses rules
      expectSymbol "]"
      pure (.form pos .listComprehension (first :: parts))
    else
      let (elements, _) ← moreElements (starNamedExpression rules) first
      expectSymbol "]"
      pure (.list pos elements)

/-- A key with its value, or an unpacked mapping, which has no key. -/
def dictionaryItem (rules : Rules) : Parser (Option Node × Node) := do
  if ← acceptSymbol "**" then
    let value ← rules.bitwiseOr
    pure (none, value)
  else
    let key ← rules.expression
    expectSymbol ":"
    let value ← rules.expression
    pure (some key, value)

/-- The items of a dictionary after the first one. All keys come before all values. -/
def dictionaryRest (rules : Rules) (pos : Pos) (first : Option Node × Node) : Parser Node := do
  let items ← iterate (fun items => do
    if ← acceptSymbol "," then
      if ← nextIsSymbol "\x7d" then pure none
      else pure (some ((← dictionaryItem rules) :: items))
    else pure none) [first]
  expectSymbol "\x7d"
  let items := items.reverse
  pure (.form pos .dictionary (items.filterMap (·.1) ++ items.map (·.2)))

/-- After an opening brace: a dictionary, a set or a comprehension. -/
def braced (rules : Rules) (pos : Pos) : Parser Node := do
  if ← acceptSymbol "\x7d" then pure (.form pos .dictionary [])
  else if ← nextIsSymbol "**" then
    dictionaryRest rules pos (← dictionaryItem rules)
  else
    let isStarred ← nextIsSymbol "*"
    let first ← starNamedExpression rules
    if !isStarred && (← acceptSymbol ":") then
      match first with
      | .assignment .. => noMatch
      | _ =>
        let value ← rules.expression
        if ← startsClause then
          let parts ← clauses rules
          expectSymbol "\x7d"
          pure (.form pos .dictionaryComprehension (first :: value :: parts))
        else dictionaryRest rules pos (some first, value)
    else if !isStarred && (← startsClause) then
      let parts ← clauses rules
      expectSymbol "\x7d"
      pure (.form pos .setComprehension (first :: parts))
    else
      let (elements, _) ← moreElements (starNamedExpression rules) first
      expectSymbol "\x7d"
      pure (.form pos .set elements)

def atom (rules : Rules) : Parser Node := do
  let token ← peek
  let pos := token.pos
  match token.kind with
  | .name id =>
    advance
    pure (.name pos id)
  | .number value =>
    advance
    pure (.constant pos value)
  | .quoted _ => quotedLiterals rules
  | .keyword "True" =>
    advance
    pure (.constant pos (.boolean true))
  | .keyword "False" =>
    advance
    pure (.constant pos (.boolean false))
  | .keyword "None" =>
    advance
    pure (.constant pos .nothing)
  | .symbol "..." =>
    advance
    pure (.constant pos .ellipsis)
  | .symbol "(" =>
    advance
    parenthesized rules pos
  | .symbol "[" =>
    advance
    bracketed rules pos
  | .symbol "\x7b" =>
    advance
    braced rules pos
  | _ => noMatch

/-- An optional bound of a slice. -/
def sliceBound (rules : Rules) : Parser (List Node) := do
  if (← nextIsSymbol ":") || (← nextIsSymbol ",") || (← nextIsSymbol "]") then pure []
  else pure [← rules.expression]

/-- The bounds of a slice after the lower one. -/
def sliceRest (rules : Rules) (pos : Pos) (lower : List Node) : Parser Node := do
  expectSymbol ":"
  let upper ← sliceBound rules
  let step ← if ← acceptSymbol ":" then sliceBound rules else pure []
  pure (.form pos .slice (lower ++ upper ++ step))

def sliceElement (rules : Rules) : Parser Node := do
  let pos ← here
  if ← acceptSymbol "*" then
    let value ← rules.expression
    pure (.starred pos value)
  else if ← nextIsSymbol ":" then sliceRest rules pos []
  else
    let value ← namedExpression rules
    match value with
    | .assignment .. => pure value
    | _ => if ← nextIsSymbol ":" then sliceRest rules pos [value] else pure value

/-- What stands between the brackets of a subscript. -/
def slices (rules : Rules) : Parser Node := do
  let pos ← here
  let isStarred ← nextIsSymbol "*"
  let first ← sliceElement rules
  let (elements, isTuple) ← moreElements (sliceElement rules) first
  pure (if isTuple || isStarred then .tuple pos elements else first)

/-- After the opening parenthesis of a call. A generator may stand alone without parentheses of its
own. -/
def callRest (rules : Rules) (pos : Pos) (callee : Node) (opening : Pos) : Parser Node := do
  if ← acceptSymbol ")" then pure (.call pos callee [] [])
  else
    let isPlain := !(← nextIsSymbol "*")
    let first ← argument rules {}
    if isPlain && first.keywords.isEmpty && (← startsClause) then
      let parts ← clauses rules
      expectSymbol ")"
      pure (.call pos callee [.form opening .generator (first.args ++ parts)] [])
    else
      let (args, keywords) ← argumentsAfter rules first
      expectSymbol ")"
      pure (.call pos callee args keywords)

/-- An atom with attributes, calls and subscripts after it. -/
def primary (rules : Rules) : Parser Node := do
  let pos ← here
  let first ← atom rules
  iterate (fun value => do
    let next ← here
    if ← acceptSymbol "." then
      let (_, attr) ← expectName
      pure (some (.attribute pos value attr))
    else if ← acceptSymbol "(" then pure (some (← callRest rules pos value next))
    else if ← acceptSymbol "[" then
      let index ← slices rules
      expectSymbol "]"
      pure (some (.subscript pos value index))
    else pure none) first

def awaitPrimary (rules : Rules) : Parser Node := do
  let pos ← here
  if ← acceptKeyword "await" then
    let value ← primary rules
    pure (.await pos value)
  else primary rules

def power (rules : Rules) : Parser Node := do
  let pos ← here
  let base ← awaitPrimary rules
  if ← acceptSymbol "**" then
    let exponent ← rules.factor
    pure (.form pos .binary [base, exponent])
  else pure base

def factor (rules : Rules) : Parser Node := do
  let pos ← here
  if ← acceptSymbol "+" then pure (.unary pos .plus (← rules.factor))
  else if ← acceptSymbol "-" then pure (.unary pos .minus (← rules.factor))
  else if ← acceptSymbol "~" then pure (.unary pos .invert (← rules.factor))
  else power rules

/-- Takes the next token if it is one of the symbols. -/
def acceptAny (symbols : List String) : Parser Bool := do
  let token ← peek
  match token.kind with
  | .symbol text =>
    if symbols.contains text then
      advance
      pure true
    else pure false
  | _ => pure false

/-- Operands with operators of one rank between them, grouped from the left. -/
def leftGrouped (symbols : List String) (operand : Parser Node) : Parser Node := do
  let pos ← here
  let first ← operand
  iterate (fun left => do
    if ← acceptAny symbols then
      let right ← operand
      pure (some (.form pos .binary [left, right]))
    else pure none) first

def term (rules : Rules) : Parser Node := leftGrouped ["*", "/", "//", "%", "@"] (factor rules)

def sum (rules : Rules) : Parser Node := leftGrouped ["+", "-"] (term rules)

def shift (rules : Rules) : Parser Node := leftGrouped ["<<", ">>"] (sum rules)

def bitwiseAnd (rules : Rules) : Parser Node := leftGrouped ["&"] (shift rules)

def bitwiseXor (rules : Rules) : Parser Node := leftGrouped ["^"] (bitwiseAnd rules)

def bitwiseOr (rules : Rules) : Parser Node := leftGrouped ["|"] (bitwiseXor rules)

/-- Takes a comparison operator if one comes next. -/
def acceptComparison : Parser Bool := do
  if ← acceptAny ["==", "!=", "<", "<=", ">", ">="] then pure true
  else if ← acceptKeyword "in" then pure true
  else if ← acceptKeyword "is" then
    let _ ← acceptKeyword "not"
    pure true
  else if ← nextIsKeyword "not" then
    match ← peekSecond? with
    | some second =>
      if second.kind = .keyword "in" then
        advance
        advance
        pure true
      else pure false
    | none => pure false
  else pure false

def comparison (rules : Rules) : Parser Node := do
  let pos ← here
  let first ← bitwiseOr rules
  let others ← many (do
    if ← acceptComparison then pure (some (← bitwiseOr rules)) else pure none)
  pure (if others.isEmpty then first else .form pos .comparison (first :: others))

def inversion (rules : Rules) : Parser Node := do
  let pos ← here
  if ← acceptKeyword "not" then pure (.unary pos .negate (← rules.inversion))
  else comparison rules

/-- Operands with one word between them are one operation. -/
def joined (word : String) (operand : Parser Node) : Parser Node := do
  let pos ← here
  let first ← operand
  let others ← many (do
    if ← acceptKeyword word then pure (some (← operand)) else pure none)
  pure (if others.isEmpty then first else .form pos .boolean (first :: others))

def conjunction (rules : Rules) : Parser Node := joined "and" (inversion rules)

def disjunction (rules : Rules) : Parser Node := joined "or" (conjunction rules)

def lambda (rules : Rules) : Parser Node := do
  let pos ← here
  expectKeyword "lambda"
  let draft ← parameters rules false ":"
  expectSymbol ":"
  let body ← rules.expression
  pure (.lambda pos draft.signature draft.parts body)

def expression (rules : Rules) : Parser Node := do
  if ← nextIsKeyword "lambda" then lambda rules
  else
    let pos ← here
    let value ← disjunction rules
    if ← nextIsKeyword "if" then
      let choice ← attempt (do
        expectKeyword "if"
        let test ← disjunction rules
        expectKeyword "else"
        let other ← rules.expression
        pure (test, other))
      match choice with
      | some (test, other) => pure (.form pos .conditional [test, value, other])
      | none => pure value
    else pure value

end ContractLint.Source.Grammar
