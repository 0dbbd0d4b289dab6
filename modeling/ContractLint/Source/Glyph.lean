/-! Characters of a source text with the place where each one stands. -/

namespace ContractLint.Source

/-- A place in a source text: lines count from one, columns are UTF-8 bytes from zero. -/
structure Pos where
  line : Nat
  column : Nat
deriving Repr, DecidableEq, Inhabited

/-- A character with its line, the UTF-8 bytes before it in the line and the characters before it
in the line. -/
structure Glyph where
  char : Char
  line : Nat
  column : Nat
  offset : Nat
deriving Repr, DecidableEq

def Glyph.pos (glyph : Glyph) : Pos := ⟨glyph.line, glyph.column⟩

/-- Both `\r\n` and a lone `\r` end a line, as `\n` does. -/
def unifyNewlines : List Char → List Char
  | [] => []
  | '\r' :: '\n' :: rest => '\n' :: unifyNewlines rest
  | '\r' :: rest => '\n' :: unifyNewlines rest
  | c :: rest => c :: unifyNewlines rest

/-- Every line ends with a newline, the last one too. -/
def closeLastLine (text : List Char) : List Char :=
  if text.getLast? = some '\n' then text else text ++ ['\n']

structure Walker where
  line : Nat := 1
  column : Nat := 0
  offset : Nat := 0
  done : List Glyph := []

def Walker.step (walker : Walker) (c : Char) : Walker :=
  let glyph := ⟨c, walker.line, walker.column, walker.offset⟩
  if c = '\n' then
    { line := walker.line + 1, column := 0, offset := 0, done := glyph :: walker.done }
  else
    { line := walker.line, column := walker.column + c.utf8Size, offset := walker.offset + 1,
      done := glyph :: walker.done }

/-- The characters of a text with their places; lines are unified and closed first. -/
def locate (text : List Char) : List Glyph :=
  ((closeLastLine (unifyNewlines text)).foldl Walker.step {}).done.reverse

def glyphText (glyphs : List Glyph) : List Char := glyphs.map (·.char)

end ContractLint.Source
