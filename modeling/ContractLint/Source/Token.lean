import ContractLint.Source.Fault
import ContractLint.Source.Glyph

/-! Tokens of a source text. -/

namespace ContractLint.Source

/-- The value of a constant as far as the rules look at it. -/
inductive Constant
  | integer (value : Nat)
  | boolean (value : Bool)
  | nothing
  | ellipsis
  | real
  | imaginary
  | text
  | bytes
deriving Repr, DecidableEq

/-- A quoted literal: what its prefix letters say, and the characters between the quotes. -/
structure QuotedLiteral where
  isBytes : Bool
  isRaw : Bool
  isTemplate : Bool
  body : List Glyph
deriving Repr, DecidableEq

inductive TokenKind
  | name (text : String)
  | keyword (word : String)
  | number (value : Constant)
  | quoted (literal : QuotedLiteral)
  | symbol (text : String)
  | newline
  | indent
  | dedent
  | finish
deriving Repr, DecidableEq

/-- A token with its place. `offset` is the place in characters that a fault at this token reports,
`cursor` the place up to which the line has been read; the two differ for the tokens that have no
text of their own. -/
structure Token where
  kind : TokenKind
  pos : Pos
  offset : Nat
  cursor : Nat
deriving Repr, DecidableEq

/-- Words that are never names. -/
def keywords : List String :=
  ["False", "None", "True", "and", "as", "assert", "async", "await", "break", "class", "continue",
    "def", "del", "elif", "else", "except", "finally", "for", "from", "global", "if", "import",
    "in", "is", "lambda", "nonlocal", "not", "or", "pass", "raise", "return", "try", "while",
    "with", "yield"]

/-- When a fault of the text counts: `always`, even if the tokens before it are already refused;
`reached`, only if they are accepted so far; `openBracket`, also when they are refused on a line
after the given one. -/
inductive Standing
  | always
  | reached
  | openBracket (line : Nat)
deriving Repr, DecidableEq

structure LexicalFault where
  fault : Fault
  standing : Standing
deriving Repr, DecidableEq

/-- The tokens of a text, up to its end or to the fault that ends them. -/
structure TokenStream where
  tokens : Array Token
  fault : Option LexicalFault

end ContractLint.Source
