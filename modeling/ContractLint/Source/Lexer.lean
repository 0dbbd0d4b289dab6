import ContractLint.Source.Number
import ContractLint.Source.Quoted
import ContractLint.Text.Identifier
import ContractLint.Text.NormalForm
import ContractLint.Text.Printable

/-! Division of a source text into tokens. Lines that hold only blanks and comments give no token;
a deeper line gives an indent, a shallower one a dedent for each level that it leaves. -/

namespace ContractLint.Source

open ContractLint.Text (isIdentifierStart isIdentifierPart isPrintable isWordChar)

/-- Where a text ends: its last line, and the length of that line with its newline. -/
structure Ending where
  line : Nat
  cursor : Nat

def endingOf (text : List Glyph) : Ending :=
  match text.getLast? with
  | some glyph => ⟨glyph.line, glyph.offset + 1⟩
  | none => ⟨1, 0⟩

/-- The width of an indentation, with tabs to every eighth column and with tabs as one column. Two
lines of one level agree in both. -/
structure Width where
  column : Nat
  alternative : Nat
deriving Repr, DecidableEq

/-- The state between tokens: open brackets and indentations with the innermost first, and the
tokens so far with the last one first. -/
structure Lexer where
  brackets : List Glyph := []
  indents : List Width := []
  tokens : List Token := []

def Lexer.emit (lexer : Lexer) (token : Token) : Lexer :=
  { lexer with tokens := token :: lexer.tokens }

def Lexer.width (lexer : Lexer) : Width := lexer.indents.headD ⟨0, 0⟩

def Lexer.stop (lexer : Lexer) (fault : LexicalFault) : TokenStream :=
  ⟨lexer.tokens.reverse.toArray, some fault⟩

/-- A fault at a character, counted whatever the tokens before it are. -/
def faultAt (cause : Cause) (glyph : Glyph) : LexicalFault :=
  ⟨⟨cause, some glyph.line, some (glyph.offset + 1)⟩, .always⟩

def faultAtEnd (cause : Cause) (ending : Ending) : LexicalFault :=
  ⟨⟨cause, some ending.line, some ending.cursor⟩, .reached⟩

def tokenAt (kind : TokenKind) (glyph : Glyph) : Token :=
  ⟨kind, glyph.pos, glyph.offset + 1, glyph.offset + 1⟩

/-- A token without text: the line has been read up to the given character, or to its end. -/
def layoutToken (kind : TokenKind) (ending : Ending) (next : Option Glyph) : Token :=
  match next with
  | some glyph => ⟨kind, glyph.pos, 0, glyph.offset⟩
  | none => ⟨kind, ⟨ending.line, ending.cursor⟩, 0, ending.cursor⟩

/-- After a backslash the line must end, and another line must follow. -/
def continueLine (ending : Ending) (mark : Glyph) (rest : List Glyph) :
    Except LexicalFault (List Glyph) :=
  match rest with
  | newline :: more =>
    if newline.char != '\n' then
      .error ⟨⟨.afterContinuation, some mark.line, some (mark.offset + 1)⟩, .reached⟩
    else if more.isEmpty then .error (faultAtEnd .unexpectedEnd ending)
    else .ok more
  | [] => .error (faultAtEnd .unexpectedEnd ending)

/-- Reads an indentation. A backslash joins lines; the first one after some blanks fixes the width,
which `fixed` then holds. -/
def scanIndent (ending : Ending) : Nat → Width → Nat → List Glyph →
    Except LexicalFault (Width × List Glyph)
  | 0, width, _, text => .ok (width, text)
  | fuel + 1, width, fixed, text =>
    let final : Width := if fixed = 0 then width else ⟨fixed, fixed⟩
    match text with
    | [] => .ok (final, [])
    | glyph :: rest =>
      if glyph.char = ' ' then
        scanIndent ending fuel ⟨width.column + 1, width.alternative + 1⟩ fixed rest
      else if glyph.char = '\t' then
        scanIndent ending fuel ⟨(width.column / 8 + 1) * 8, width.alternative + 1⟩ fixed rest
      else if glyph.char = '\x0c' then scanIndent ending fuel ⟨0, 0⟩ fixed rest
      else if glyph.char = '\\' then
        match continueLine ending glyph rest with
        | .error fault => .error fault
        | .ok more =>
          scanIndent ending fuel width (if fixed = 0 then width.column else fixed) more
      else .ok (final, text)

/-- At most this many indentations may be open. -/
def maximumIndents : Nat := 100

def mixedTabsFault (ending : Ending) (next : Option Glyph) : LexicalFault :=
  ⟨⟨.mixedTabs, some ((next.map (·.line)).getD ending.line), some 1⟩, .reached⟩

/-- The place after the line that the text stands in. -/
def lineEnd (ending : Ending) (text : List Glyph) : Nat :=
  match text.find? (·.char = '\n') with
  | some newline => newline.offset + 1
  | none => ending.cursor

/-- Opens or closes indentations, so that the innermost one has the width of the line. -/
def Lexer.indentTo (lexer : Lexer) (ending : Ending) (width : Width) (text : List Glyph) :
    Except LexicalFault Lexer :=
  let next := text.head?
  let line := (next.map (·.line)).getD ending.line
  if width.column = lexer.width.column then
    if width.alternative = lexer.width.alternative then .ok lexer
    else .error (mixedTabsFault ending next)
  else if lexer.width.column < width.column then
    if maximumIndents ≤ lexer.indents.length + 1 then
      .error ⟨⟨.tooDeep, some line, some 1⟩, .reached⟩
    else if width.alternative ≤ lexer.width.alternative then .error (mixedTabsFault ending next)
    else
      .ok ({ lexer with indents := width :: lexer.indents }.emit
        (layoutToken .indent ending next))
  else
    let left := lexer.indents.takeWhile fun level => width.column < level.column
    let kept := lexer.indents.dropWhile fun level => width.column < level.column
    let outer : Width := kept.headD ⟨0, 0⟩
    if width.column != outer.column then
      .error ⟨⟨.unindentMismatch, some line, some (lineEnd ending text)⟩, .reached⟩
    else if width.alternative != outer.alternative then .error (mixedTabsFault ending next)
    else
      .ok (left.foldl (fun lexer _ => lexer.emit (layoutToken .dedent ending next))
        { lexer with indents := kept })

def threeCharSymbols : List String := ["**=", "//=", ">>=", "<<=", "..."]

def twoCharSymbols : List String :=
  ["!=", "%=", "&=", "**", "*=", "+=", "-=", "->", "//", "/=", ":=", "<<", "<=", "<>", "==", ">=",
    ">>", "@=", "^=", "|="]

/-- The length of the symbol that starts the text: the longest of the known ones. -/
def symbolLength (text : List Char) : Nat :=
  if threeCharSymbols.contains (String.ofList (text.take 3)) then 3
  else if twoCharSymbols.contains (String.ofList (text.take 2)) then 2
  else 1

/-- At most this many brackets may be open. -/
def maximumBrackets : Nat := 200

def closes (opening closing : Char) : Bool :=
  (opening = '(' && closing = ')') || (opening = '[' && closing = ']') ||
    (opening = '\x7b' && closing = '\x7d')

/-- Keeps account of the brackets that a symbol opens or closes. -/
def Lexer.bracket (lexer : Lexer) (glyph : Glyph) : Except LexicalFault Lexer :=
  let c := glyph.char
  if c = '(' || c = '[' || c = '\x7b' then
    if maximumBrackets ≤ lexer.brackets.length then .error (faultAt .tooManyBrackets glyph)
    else .ok { lexer with brackets := glyph :: lexer.brackets }
  else if c = ')' || c = ']' || c = '\x7d' then
    match lexer.brackets with
    | [] => .error (faultAt (.unmatched c) glyph)
    | opening :: outer =>
      if closes opening.char c then .ok { lexer with brackets := outer }
      else
        let line := if opening.line = glyph.line then none else some opening.line
        .error (faultAt (.mismatched c opening.char line) glyph)
  else .ok lexer

/-- The character that keeps a word from being an identifier. -/
def wordFault? : List Glyph → Option Glyph
  | [] => none
  | first :: rest =>
    if isIdentifierStart first.char then rest.find? fun glyph => !isIdentifierPart glyph.char
    else some first

def wordKind (text : List Char) : TokenKind :=
  let word := String.ofList text
  if keywords.contains word then .keyword word
  else .name (String.ofList (Text.NormalForm.normalize text))

def isBlankGlyph (glyph : Glyph) : Bool :=
  glyph.char = ' ' || glyph.char = '\t' || glyph.char = '\x0c'

/-- Reads a quoted literal whose opening quote heads `text`; `start` is its first character, a
letter or the quote itself. -/
def scanLiteral (ending : Ending) (start : Glyph) (literal : QuotedLiteral) (quote : Glyph)
    (text : List Glyph) : Except LexicalFault (Token × List Glyph) :=
  match scanQuoted quote.char ending.line text with
  | .ok (body, rest) => .ok (tokenAt (.quoted { literal with body := body }) start, rest)
  | .error cause => .error (faultAt cause start)

/-- The name or keyword that a word is, with the text after it. -/
def scanName (start : Glyph) (word rest : List Glyph) :
    Except LexicalFault (Token × List Glyph) :=
  match wordFault? word with
  | some glyph =>
    if isPrintable glyph.char then .error (faultAt (.invalidCharacter glyph.char) glyph)
    else .error (faultAt (.unprintableCharacter glyph.char.toNat) glyph)
  | none => .ok (tokenAt (wordKind (glyphText word)) start, rest)

/-- Reads the word, or the literal with letters before its quote, that starts the text. -/
def scanWord (ending : Ending) (start : Glyph) (text : List Glyph) :
    Except LexicalFault (Token × List Glyph) :=
  let word := text.takeWhile fun glyph => isWordChar glyph.char
  let rest := text.dropWhile fun glyph => isWordChar glyph.char
  match rest with
  | quote :: more =>
    if quote.char = '"' || quote.char = '\'' then
      match literalOfLetters? (glyphText word) with
      | some literal => scanLiteral ending start literal quote more
      | none => scanName start word rest
    else scanName start word rest
  | [] => scanName start word rest

/-- Reads a number. A fault is reported at the last character read. -/
def scanNumberToken (start : Glyph) (text : List Glyph) :
    Except LexicalFault (Token × List Glyph) :=
  let line := glyphText (text.takeWhile (·.char != '\n'))
  match scanNumber line with
  | .ok (value, rest) => .ok (tokenAt (.number value) start, text.drop (line.length - rest.length))
  | .error fault =>
    let read := line.length - fault.unread.length
    .error ⟨⟨fault.cause, some start.line, some (start.offset + read)⟩, .always⟩

/-- Reads the token that starts the text, which is neither blank nor newline nor comment. -/
def Lexer.token (lexer : Lexer) (ending : Ending) (glyph : Glyph) (rest : List Glyph) :
    Except LexicalFault (Lexer × List Glyph) := do
  let c := glyph.char
  let text := glyph :: rest
  if isWordChar c && !c.isDigit then
    let (token, rest) ← scanWord ending glyph text
    pure (lexer.emit token, rest)
  else if c.isDigit || (c = '.' && (rest.head?.map (·.char.isDigit)).getD false) then
    let (token, rest) ← scanNumberToken glyph text
    pure (lexer.emit token, rest)
  else if c = '"' || c = '\'' then
    let (token, rest) ← scanLiteral ending glyph ⟨false, false, false, []⟩ glyph rest
    pure (lexer.emit token, rest)
  else
    let length := symbolLength (glyphText (text.take 3))
    let lexer ← if length = 1 then lexer.bracket glyph else .ok lexer
    if length = 1 && !isPrintable c then throw (faultAt (.unprintableCharacter c.toNat) glyph)
    let symbol := String.ofList (glyphText (text.take length))
    pure (lexer.emit (tokenAt (.symbol symbol) glyph), text.drop length)

/-- The end of the text: every bracket is closed by then, and so is every indentation. -/
def Lexer.close (lexer : Lexer) (ending : Ending) : TokenStream :=
  match lexer.brackets with
  | opening :: _ =>
    lexer.stop ⟨⟨.neverClosed opening.char, some opening.line, some (opening.offset + 1)⟩,
      .openBracket opening.line⟩
  | [] =>
    let closed := lexer.indents.foldl
      (fun lexer _ => lexer.emit (layoutToken .dedent ending none)) lexer
    let finished := closed.emit (layoutToken .finish ending none)
    ⟨finished.tokens.reverse.toArray, none⟩

/-- Reads on from the start of a line or from within one. Each step but the first of a line takes
at least one character, so twice the length of the text is fuel enough. -/
def scanFrom (ending : Ending) : Nat → Bool → Lexer → List Glyph → TokenStream
  | 0, _, lexer, _ => lexer.close ending
  | fuel + 1, true, lexer, text =>
    match scanIndent ending (text.length + 1) ⟨0, 0⟩ 0 text with
    | .error fault => lexer.stop fault
    | .ok (width, rest) =>
      match rest with
      | [] => lexer.close ending
      | glyph :: more =>
        if glyph.char = '\n' then scanFrom ending fuel true lexer more
        else if glyph.char = '#' then
          scanFrom ending fuel true lexer ((more.dropWhile (·.char != '\n')).drop 1)
        else if !lexer.brackets.isEmpty then scanFrom ending fuel false lexer rest
        else match lexer.indentTo ending width rest with
          | .error fault => lexer.stop fault
          | .ok lexer => scanFrom ending fuel false lexer rest
  | fuel + 1, false, lexer, text =>
    match text.dropWhile isBlankGlyph with
    | [] => lexer.close ending
    | glyph :: rest =>
      if glyph.char = '\n' then
        if lexer.brackets.isEmpty then
          scanFrom ending fuel true (lexer.emit (tokenAt .newline glyph)) rest
        else scanFrom ending fuel true lexer rest
      else if glyph.char = '#' then
        scanFrom ending fuel false lexer (rest.dropWhile (·.char != '\n'))
      else if glyph.char = '\\' then
        match continueLine ending glyph rest with
        | .error fault => lexer.stop fault
        | .ok more => scanFrom ending fuel false lexer more
      else match lexer.token ending glyph rest with
        | .error fault => lexer.stop fault
        | .ok (lexer, rest) => scanFrom ending fuel false lexer rest

/-- The tokens of a located text. -/
def tokensOf (text : List Glyph) : TokenStream :=
  scanFrom (endingOf text) (2 * text.length + 2) true {} text

end ContractLint.Source
