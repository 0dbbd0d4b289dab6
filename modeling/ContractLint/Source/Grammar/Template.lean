import ContractLint.Source.Quoted

/-! Templates: quoted literals with expressions in braces. -/

namespace ContractLint.Source.Grammar

/-- A replacement field of a template: the characters of its expression with the brace before them
and the character after them, and the fields of its format. -/
inductive Field where
  | mk (brace : Glyph) (body : List Glyph) (stop : Glyph) (format : List Field)

/-- What stands before the next field: a doubled brace, a field, or the end of this part. -/
inductive LiteralEnd
  | doubled
  | stopped

/-- Passes over literal text. Outside formats a doubled brace stands for itself, and a closing brace
does not stand alone. The characters passed come reversed. -/
def scanLiteralText (isRaw inFormat : Bool) : Nat → List Glyph → List Glyph →
    Except String (LiteralEnd × List Glyph × List Glyph)
  | 0, passed, text => .ok (.stopped, passed, text)
  | fuel + 1, passed, text =>
    match text with
    | [] => .ok (.stopped, passed, [])
    | glyph :: rest =>
      if glyph.char = '\\' && !isRaw then
        match rest with
        | [] => .ok (.stopped, glyph :: passed, [])
        | mark :: more =>
          if mark.char = 'N' then
            match more with
            | brace :: named =>
              if brace.char = '\x7b' then
                let inside := named.takeWhile (·.char != '\x7d')
                let after := named.drop (inside.length + 1)
                let closing := (named.drop inside.length).take 1
                scanLiteralText isRaw inFormat fuel
                  (closing.reverse ++ inside.reverse ++ brace :: mark :: glyph :: passed) after
              else
                scanLiteralText isRaw inFormat fuel (brace :: mark :: glyph :: passed) named
            | [] => .ok (.stopped, mark :: glyph :: passed, [])
          else if mark.char = '\x7b' || mark.char = '\x7d' then
            atBrace (glyph :: passed) mark more
          else scanLiteralText isRaw inFormat fuel (mark :: glyph :: passed) more
      else if glyph.char = '\x7b' || glyph.char = '\x7d' then atBrace passed glyph rest
      else scanLiteralText isRaw inFormat fuel (glyph :: passed) rest
where
  atBrace (passed : List Glyph) (glyph : Glyph) (rest : List Glyph) :
      Except String (LiteralEnd × List Glyph × List Glyph) :=
    if inFormat then .ok (.stopped, passed, glyph :: rest)
    else match rest with
      | second :: more =>
        if second.char = glyph.char then .ok (.doubled, glyph :: passed, more)
        else if glyph.char = '\x7d' then .error "single '\x7d' is not allowed"
        else .ok (.stopped, passed, glyph :: rest)
      | [] =>
        if glyph.char = '\x7d' then .error "single '\x7d' is not allowed"
        else .ok (.stopped, passed, glyph :: rest)

/-- The state of the search for the end of an expression: the quote that is open and whether it is
a threefold one, and the open brackets. -/
structure FieldScan where
  quote : Option (Char × Bool) := none
  brackets : List Char := []

def startsTriple (quote : Char) : List Glyph → Bool
  | second :: third :: _ => second.char = quote && third.char = quote
  | _ => false

def closesBracket (opening closing : Char) : Bool :=
  (opening = '(' && closing = ')') || (opening = '[' && closing = ']') ||
    (opening = '\x7b' && closing = '\x7d')

/-- Splits the text after the brace of a field where its expression ends. -/
def scanFieldBody : Nat → FieldScan → List Glyph → List Glyph →
    Except String (List Glyph × List Glyph)
  | 0, _, body, text => .ok (body.reverse, text)
  | fuel + 1, state, body, text =>
    match text with
    | [] =>
      if state.quote.isSome then .error "unterminated string"
      else match state.brackets with
        | opening :: _ => .error ("unmatched '" ++ opening.toString ++ "'")
        | [] => .ok (body.reverse, [])
    | glyph :: rest =>
      let c := glyph.char
      if c = '\\' then .error "expression part cannot include a backslash"
      else match state.quote with
        | some (quote, isTriple) =>
          if c = quote then
            if isTriple then
              if startsTriple quote rest then
                scanFieldBody fuel { state with quote := none }
                  ((rest.take 2).reverse ++ glyph :: body) (rest.drop 2)
              else scanFieldBody fuel state (glyph :: body) rest
            else scanFieldBody fuel { state with quote := none } (glyph :: body) rest
          else scanFieldBody fuel state (glyph :: body) rest
        | none =>
          if c = '"' || c = '\'' then
            if startsTriple c rest then
              scanFieldBody fuel { state with quote := some (c, true) }
                ((rest.take 2).reverse ++ glyph :: body) (rest.drop 2)
            else scanFieldBody fuel { state with quote := some (c, false) } (glyph :: body) rest
          else if c = '(' || c = '[' || c = '\x7b' then
            scanFieldBody fuel { state with brackets := c :: state.brackets } (glyph :: body) rest
          else if c = '#' then .error "expression part cannot include '#'"
          else if state.brackets.isEmpty &&
              (c = '!' || c = ':' || c = '\x7d' || c = '=' || c = '<' || c = '>') then
            let doubled := rest.head?.any (fun next => next.char = '=') && c != ':' && c != '\x7d'
            if doubled then
              scanFieldBody fuel state ((rest.take 1).reverse ++ glyph :: body) (rest.drop 1)
            else if c = '<' || c = '>' then scanFieldBody fuel state (glyph :: body) rest
            else .ok (body.reverse, text)
          else if c = ')' || c = ']' || c = '\x7d' then
            match state.brackets with
            | [] => .error ("unmatched '" ++ c.toString ++ "'")
            | opening :: outer =>
              if closesBracket opening c then
                scanFieldBody fuel { state with brackets := outer } (glyph :: body) rest
              else
                .error ("closing parenthesis '" ++ c.toString ++
                  "' does not match opening parenthesis '" ++ opening.toString ++ "'")
          else scanFieldBody fuel state (glyph :: body) rest

def isFieldBlank (glyph : Glyph) : Bool :=
  [' ', '\t', '\n', '\r', '\x0b', '\x0c'].contains glyph.char

/-- Passes over the mark that shows the text of the expression, and over a conversion. -/
def scanConversion (text : List Glyph) : Except String (List Glyph) := do
  let shown := match text with
    | glyph :: rest => if glyph.char = '=' then rest.dropWhile isFieldBlank else text
    | [] => []
  match shown with
  | mark :: rest =>
    if mark.char = '!' then
      match rest with
      | letter :: after =>
        if ['s', 'r', 'a'].contains letter.char then pure after
        else throw "invalid conversion character: expected 's', 'r', or 'a'"
      | [] => throw "expecting '\x7d'"
    else pure shown
  | [] => throw "expecting '\x7d'"

/-- The fields of a template, or of the format of a field at depth one. Formats inside formats are
refused. -/
def scanFields (isRaw : Bool) : Nat → Nat → List Glyph → Except String (List Field × List Glyph)
  | 0, _, text => .ok ([], text)
  | fuel + 1, depth, text => do
    let (ending, passed, rest) ← scanLiteralText isRaw (depth != 0) (text.length + 1) [] text
    unless isRaw || escapesOk false (glyphText passed.reverse) do
      throw "malformed escape in literal"
    match ending with
    | .doubled => scanFields isRaw fuel depth rest
    | .stopped =>
      match rest with
      | [] => pure ([], [])
      | brace :: after =>
        if brace.char = '\x7d' then pure ([], rest)
        else
          if 2 ≤ depth then throw "expressions nested too deeply"
          let (body, rest) ← scanFieldBody (after.length + 1) {} [] after
          match rest with
          | [] => throw "expecting '\x7d'"
          | stop :: _ =>
            if body.all isFieldBlank then throw "empty expression not allowed"
            let rest ← scanConversion rest
            let (format, rest) ← match rest with
              | colon :: spec =>
                if colon.char = ':' then scanFields isRaw fuel (depth + 1) spec
                else pure ([], rest)
              | [] => pure ([], rest)
            match rest with
            | closing :: rest =>
              if closing.char = '\x7d' then
                let (fields, rest) ← scanFields isRaw fuel depth rest
                pure (.mk brace body stop format :: fields, rest)
              else throw "expecting '\x7d'"
            | [] => throw "expecting '\x7d'"

/-- The fields of a template literal. -/
def QuotedLiteral.fields (literal : QuotedLiteral) : Except String (List Field) := do
  let (fields, rest) ← scanFields literal.isRaw (literal.body.length + 2) 0 literal.body
  if rest.isEmpty then pure fields else throw "unexpected end of string"

end ContractLint.Source.Grammar
