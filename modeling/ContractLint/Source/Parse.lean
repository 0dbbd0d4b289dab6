import ContractLint.Source.Grammar.Statement
import ContractLint.Source.Lexer
import ContractLint.Source.Walk

/-! Reading of source texts. -/

namespace ContractLint.Source

open Grammar

/-- Reads the expression of a replacement field, in parentheses of its own. -/
def readField (rules : Rules) (text : List Glyph) : Parser Node :=
  match (starExpressions rules).run (tokensOf text) with
  | .ok value => pure value
  | .error fault => throw (.fault { fault with cause := .inTemplate fault.cause.message })

/-- The rules for texts that nest at most `depth` deep. -/
def rulesOfDepth : Nat → Rules
  | 0 => .none
  | depth + 1 =>
    { expression := fun stream => expression (rulesOfDepth depth) stream
      disjunction := fun stream => disjunction (rulesOfDepth depth) stream
      inversion := fun stream => inversion (rulesOfDepth depth) stream
      bitwiseOr := fun stream => bitwiseOr (rulesOfDepth depth) stream
      factor := fun stream => factor (rulesOfDepth depth) stream
      primary := fun stream => primary (rulesOfDepth depth) stream
      pattern := fun stream => pattern (rulesOfDepth depth) stream
      statement := fun stream => statement (rulesOfDepth depth) stream
      field := fun text => readField (rulesOfDepth depth) text }

/-- Runs a rule on a text. A text nests at most as deep as it has characters. -/
def parseWith {α : Type} (rule : Rules → Parser α) (text : String) : Except Fault α :=
  let characters := text.toList
  if characters.contains '\x00' then .error ⟨.nullBytes, none, none⟩
  else
    let glyphs := locate characters
    (rule (rulesOfDepth (2 * glyphs.length + 2))).run (tokensOf glyphs)

/-- Reads a source text. -/
def parse (text : String) : Except Fault Module := do
  let body ← parseWith statements text
  pure ⟨body⟩

/-- Reads a text that is one expression. -/
def parseExpression (text : String) : Except Fault Node := parseWith soleExpression text

end ContractLint.Source
