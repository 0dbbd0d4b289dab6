import ContractLint.Source.Node

/-! Parsers over a token stream. A parser may fail to match, and then another one is tried from the
same token; or it may find a fault, which ends the reading. -/

namespace ContractLint.Source.Grammar

/-- How far a parser has come: the next token, and the furthest token looked at. -/
structure Progress where
  index : Nat := 0
  reached : Nat := 0

inductive Refusal
  | noMatch
  | fault (fault : Fault)

abbrev Parser (α : Type) := ReaderT TokenStream (ExceptT Refusal (StateM Progress)) α

def noMatch {α : Type} : Parser α := throw .noMatch

/-- The next token. Where the text itself has a fault, looking at it reports the fault. -/
def peek : Parser Token := do
  let stream ← read
  let progress ← get
  set { progress with reached := max progress.reached progress.index }
  match stream.tokens[progress.index]? with
  | some token => pure token
  | none =>
    match stream.fault with
    | some lexical => throw (.fault lexical.fault)
    | none => noMatch

/-- The token after the next one, as far as there is one. -/
def peekSecond? : Parser (Option Token) := do
  let stream ← read
  let progress ← get
  set { progress with reached := max progress.reached (progress.index + 1) }
  pure stream.tokens[progress.index + 1]?

def advance : Parser Unit :=
  modify fun progress => { progress with index := progress.index + 1 }

/-- The place of the next token. -/
def here : Parser Pos := do
  let token ← peek
  pure token.pos

/-- Refuses the text at the next token. -/
def refuse {α : Type} (cause : Cause) : Parser α := do
  let token ← peek
  throw (.fault ⟨cause, some token.pos.line, some token.offset⟩)

/-- Refuses the text where it has been read up to. -/
def refuseAtCursor {α : Type} (cause : Cause) : Parser α := do
  let token ← peek
  throw (.fault ⟨cause, some token.pos.line, some token.cursor⟩)

/-- Tries a parser; if it does not match, nothing is taken. -/
def attempt {α : Type} (parser : Parser α) : Parser (Option α) := do
  let start ← get
  try
    let value ← parser
    pure (some value)
  catch
    | .noMatch =>
      modify fun progress => { progress with index := start.index }
      pure none
    | .fault fault => throw (.fault fault)

def nextIs (kind : TokenKind) : Parser Bool := do
  let token ← peek
  pure (token.kind = kind)

/-- Takes the next token if it is of this kind. -/
def accept (kind : TokenKind) : Parser Bool := do
  if ← nextIs kind then
    advance
    pure true
  else pure false

def expect (kind : TokenKind) : Parser Unit := do
  unless ← accept kind do noMatch

def nextIsSymbol (text : String) : Parser Bool := nextIs (.symbol text)

def acceptSymbol (text : String) : Parser Bool := accept (.symbol text)

def expectSymbol (text : String) : Parser Unit := expect (.symbol text)

def nextIsKeyword (word : String) : Parser Bool := nextIs (.keyword word)

def acceptKeyword (word : String) : Parser Bool := accept (.keyword word)

def expectKeyword (word : String) : Parser Unit := expect (.keyword word)

/-- A name with its place. -/
def expectName : Parser (Pos × String) := do
  let token ← peek
  match token.kind with
  | .name text =>
    advance
    pure (token.pos, text)
  | _ => noMatch

/-- The symbol after the next token is this one. -/
def secondIsSymbol (text : String) : Parser Bool := do
  let token ← peekSecond?
  pure (token.any fun token => token.kind = .symbol text)

/-- The next token is a name, and the one after it is this symbol. -/
def nameThenSymbol (text : String) : Parser Bool := do
  let token ← peek
  match token.kind with
  | .name _ =>
    if ← secondIsSymbol text then
      pure true
    else pure false
  | _ => pure false

/-- Repeats a step as long as it yields a new value, at most `fuel` times. -/
def iterateFor {α : Type} (step : α → Parser (Option α)) : Nat → α → Parser α
  | 0, value => pure value
  | fuel + 1, value => do
    match ← step value with
    | some next => iterateFor step fuel next
    | none => pure value

/-- Repeats a step that takes at least one token as long as it yields a new value. -/
def iterate {α : Type} (step : α → Parser (Option α)) (value : α) : Parser α := do
  let stream ← read
  iterateFor step (stream.tokens.size + 1) value

/-- Repeats a parser that takes at least one token as long as it yields a value. -/
def many {α : Type} (parser : Parser (Option α)) : Parser (List α) := do
  let found ← iterate (fun found => do
    match ← parser with
    | some value => pure (some (value :: found))
    | none => pure none) []
  pure found.reverse

/-- The fault of a text that did not match: the furthest token cannot stand where it stands. -/
def mismatchFault (stream : TokenStream) (reached : Nat) : Fault :=
  match stream.tokens[reached]? with
  | some token =>
    match token.kind with
    | .indent => ⟨.unexpectedIndent, some token.pos.line, some token.cursor⟩
    | .dedent => ⟨.unexpectedUnindent, some token.pos.line, some token.cursor⟩
    | _ => ⟨.invalidSyntax, some token.pos.line, some token.offset⟩
  | none =>
    match stream.fault with
    | some lexical => lexical.fault
    | none => ⟨.invalidSyntax, none, none⟩

/-- A fault of the text counts before a fault of its tokens, as its standing says. -/
def settleFault (stream : TokenStream) (reached : Nat) (fault : Fault) : Fault :=
  match stream.fault with
  | none => fault
  | some lexical =>
    match lexical.standing with
    | .always => lexical.fault
    | .reached => fault
    | .openBracket line =>
      match stream.tokens[reached]? with
      | some token => if line < token.pos.line then lexical.fault else fault
      | none => lexical.fault

/-- Runs a parser on a stream from its first token. -/
def Parser.run {α : Type} (parser : Parser α) (stream : TokenStream) : Except Fault α :=
  let (result, progress) := ((ReaderT.run parser stream).run).run {}
  match result with
  | .ok value => .ok value
  | .error .noMatch =>
    .error (settleFault stream progress.reached (mismatchFault stream progress.reached))
  | .error (.fault fault) => .error (settleFault stream progress.reached fault)

end ContractLint.Source.Grammar
