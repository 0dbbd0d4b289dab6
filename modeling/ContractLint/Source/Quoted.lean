import ContractLint.Source.Token

/-! Quoted literals: where they end, and whether their escapes are well formed. -/

namespace ContractLint.Source

/-- The letters before the opening quote, in any case and, for a raw literal, in any order. -/
def literalOfLetters? (letters : List Char) : Option QuotedLiteral :=
  match letters.map Char.toLower with
  | [] => some ⟨false, false, false, []⟩
  | ['r'] => some ⟨false, true, false, []⟩
  | ['u'] => some ⟨false, false, false, []⟩
  | ['b'] => some ⟨true, false, false, []⟩
  | ['f'] => some ⟨false, false, true, []⟩
  | ['b', 'r'] | ['r', 'b'] => some ⟨true, true, false, []⟩
  | ['f', 'r'] | ['r', 'f'] => some ⟨false, true, true, []⟩
  | _ => none

/-- Splits the text after an opening quote at the closing one. A refused text gives the line where
the fault shows, if that is before the end of the text. -/
def scanShort (quote : Char) : List Glyph → Except (Option Nat) (List Glyph × List Glyph)
  | [] => .error none
  | glyph :: rest =>
    if glyph.char = quote then .ok ([], rest)
    else if glyph.char = '\n' then .error (some glyph.line)
    else if glyph.char = '\\' then
      match rest with
      | [] => .error none
      | escaped :: more => do
        let (body, unread) ← scanShort quote more
        pure (glyph :: escaped :: body, unread)
    else do
      let (body, unread) ← scanShort quote rest
      pure (glyph :: body, unread)

/-- Splits the text after three opening quotes at the closing three. -/
def scanLong (quote : Char) : List Glyph → Option (List Glyph × List Glyph)
  | [] => none
  | glyph :: rest =>
    if glyph.char = quote then
      match rest with
      | second :: third :: more =>
        if second.char = quote && third.char = quote then some ([], more)
        else (scanLong quote rest).map fun (body, unread) => (glyph :: body, unread)
      | _ => none
    else if glyph.char = '\\' then
      match rest with
      | [] => none
      | escaped :: more =>
        (scanLong quote more).map fun (body, unread) => (glyph :: escaped :: body, unread)
    else (scanLong quote rest).map fun (body, unread) => (glyph :: body, unread)

/-- Splits the text that follows one opening quote into the body of the literal and the rest. -/
def scanQuoted (quote : Char) (lastLine : Nat) (text : List Glyph) :
    Except Cause (List Glyph × List Glyph) :=
  match text with
  | first :: second :: rest =>
    if first.char = quote && second.char = quote then
      match scanLong quote rest with
      | some split => .ok split
      | none => .error (.unterminatedLongText lastLine)
    else short
  | _ => short
where
  short : Except Cause (List Glyph × List Glyph) :=
    match scanShort quote text with
    | .ok split => .ok split
    | .error line => .error (.unterminatedText (line.getD lastLine))

def isHexDigit (c : Char) : Bool :=
  c.isDigit || ('a' ≤ c && c ≤ 'f') || ('A' ≤ c && c ≤ 'F')

/-- The text starts with `count` hexadecimal digits. -/
def startsHex (count : Nat) (text : List Char) : Bool :=
  count ≤ text.length && (text.take count).all isHexDigit

/-- A named character: a name in braces that is not empty. -/
def startsNamed : List Char → Bool
  | '\x7b' :: rest => rest.contains '\x7d' && rest.head? != some '\x7d'
  | _ => false

/-- The eight digits name a character. -/
def startsCode (text : List Char) : Bool :=
  startsHex 8 text && (text.take 2).all (· = '0') &&
    (text.drop 2 |>.head?).any (fun c => c = '0' || (c = '1' && (text.drop 3).head? = some '0'))

/-- The escapes of a literal that is not raw can be read. -/
def escapesOk (isBytes : Bool) : List Char → Bool
  | [] => true
  | ['\\'] => true
  | '\\' :: mark :: rest =>
    (if mark = 'x' then startsHex 2 rest
      else if isBytes then true
      else if mark = 'u' then startsHex 4 rest
      else if mark = 'U' then startsCode rest
      else if mark = 'N' then startsNamed rest
      else true) && escapesOk isBytes rest
  | _ :: rest => escapesOk isBytes rest

/-- A literal that is no template can be read: bytes are ASCII, and escapes are well formed. -/
def QuotedLiteral.readable (literal : QuotedLiteral) : Bool :=
  let text := glyphText literal.body
  (!literal.isBytes || text.all (·.toNat < 128)) &&
    (literal.isRaw || escapesOk literal.isBytes text)

end ContractLint.Source
