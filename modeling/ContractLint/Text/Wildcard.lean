/-! Patterns for names: a star stands for any text, a question mark for any character and a set in
square brackets for one character in it. -/

namespace ContractLint.Text

structure CharRange where
  first : Char
  last : Char
deriving Repr, DecidableEq

def CharRange.contains (range : CharRange) (c : Char) : Bool := range.first ≤ c && c ≤ range.last

inductive PatternPiece
  | anyText
  | anyChar
  | exactly (c : Char)
  | oneOf (isNegated : Bool) (ranges : List CharRange)
deriving Repr, DecidableEq

def PatternPiece.accepts (piece : PatternPiece) (c : Char) : Bool :=
  match piece with
  | .anyText | .anyChar => true
  | .exactly other => c = other
  | .oneOf isNegated ranges => ranges.any (·.contains c) != isNegated

/-- The ranges that are written in a set: `a-z` or single characters. -/
def setRanges : List Char → List CharRange
  | a :: '-' :: b :: rest => ⟨a, b⟩ :: setRanges rest
  | a :: rest => ⟨a, a⟩ :: setRanges rest
  | [] => []

/-- What stands before the bracket that closes a set, and what follows it. A bracket that comes
first belongs to the set. -/
def splitSet (text : List Char) : Option (List Char × List Char) :=
  let (start, rest) := match text with
    | ']' :: rest => ([']'], rest)
    | _ => ([], text)
  match rest.dropWhile (· != ']') with
  | [] => none
  | _ :: after => some (start ++ rest.takeWhile (· != ']'), after)

/-- Reads a pattern; the fuel is its length. -/
def readPattern : Nat → List Char → List PatternPiece
  | 0, _ => []
  | _, [] => []
  | fuel + 1, '*' :: rest => .anyText :: readPattern fuel rest
  | fuel + 1, '?' :: rest => .anyChar :: readPattern fuel rest
  | fuel + 1, '[' :: rest =>
    let (isNegated, start) := match rest with
      | '!' :: start => (true, start)
      | _ => (false, rest)
    match splitSet start with
    | some (set, after) => .oneOf isNegated (setRanges set) :: readPattern fuel after
    | none => .exactly '[' :: readPattern fuel rest
  | fuel + 1, c :: rest => .exactly c :: readPattern fuel rest

/-- The whole text fits the pieces. -/
def fits : List PatternPiece → List Char → Bool
  | [], text => text.isEmpty
  | .anyText :: pieces, [] => fits pieces []
  | .anyText :: pieces, c :: rest => fits pieces (c :: rest) || fits (.anyText :: pieces) rest
  | _ :: _, [] => false
  | piece :: pieces, c :: rest => piece.accepts c && fits pieces rest
termination_by pieces text => pieces.length + text.length

def matchesPattern (pattern name : String) : Bool :=
  fits (readPattern pattern.length pattern.toList) name.toList

end ContractLint.Text
