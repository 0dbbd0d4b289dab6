/-! Reasons for refusing a source text. -/

namespace ContractLint.Source

/-- The statement or definition that an indented block belongs to. -/
inductive BlockOwner
  | functionDefinition
  | classDefinition
  | statement (keyword : String)
deriving Repr, DecidableEq

def BlockOwner.text : BlockOwner → String
  | .functionDefinition => "function definition"
  | .classDefinition => "class definition"
  | .statement keyword => "'" ++ keyword ++ "' statement"

/-- Why a source text is refused. -/
inductive Cause
  | nullBytes
  | invalidSyntax
  | neverClosed (bracket : Char)
  | unmatched (bracket : Char)
  | mismatched (closing opening : Char) (openingLine : Option Nat)
  | tooManyBrackets
  | unterminatedText (line : Nat)
  | unterminatedLongText (line : Nat)
  | unprintableCharacter (code : Nat)
  | invalidCharacter (c : Char)
  | invalidNumber (kind : String)
  | invalidDigit (digit : Char) (kind : String)
  | leadingZeros
  | hugeNumber
  | afterContinuation
  | unexpectedEnd
  | unexpectedIndent
  | unexpectedUnindent
  | unindentMismatch
  | mixedTabs
  | tooDeep
  | missingBlock (owner : BlockOwner) (line : Nat)
  | expected (what : String)
  | missingHandler
  | mixedHandlers
  | badTarget
  | badArguments
  | badLiteral
  | mixedLiterals
  | inTemplate (what : String)
deriving Repr, DecidableEq

/-- Upper-case hexadecimal digits, at least four of them. -/
def codeDigits (code : Nat) : String :=
  let digits := (Nat.toDigits 16 code).map Char.toUpper
  String.ofList (List.replicate (4 - digits.length) '0' ++ digits)

def Cause.message : Cause → String
  | .nullBytes => "source code string cannot contain null bytes"
  | .invalidSyntax => "invalid syntax"
  | .neverClosed bracket => "'" ++ bracket.toString ++ "' was never closed"
  | .unmatched bracket => "unmatched '" ++ bracket.toString ++ "'"
  | .mismatched closing opening openingLine =>
    "closing parenthesis '" ++ closing.toString ++ "' does not match opening parenthesis '" ++
      opening.toString ++ "'" ++
      match openingLine with
      | some line => " on line " ++ toString line
      | none => ""
  | .tooManyBrackets => "too many nested parentheses"
  | .unterminatedText line =>
    "unterminated string literal (detected at line " ++ toString line ++ ")"
  | .unterminatedLongText line =>
    "unterminated triple-quoted string literal (detected at line " ++ toString line ++ ")"
  | .unprintableCharacter code => "invalid non-printable character U+" ++ codeDigits code
  | .invalidCharacter c =>
    "invalid character '" ++ c.toString ++ "' (U+" ++ codeDigits c.toNat ++ ")"
  | .invalidNumber kind => "invalid " ++ kind ++ " literal"
  | .invalidDigit digit kind => "invalid digit '" ++ digit.toString ++ "' in " ++ kind ++ " literal"
  | .leadingZeros =>
    "leading zeros in decimal integer literals are not permitted; use an 0o prefix for octal integers"
  | .hugeNumber => "Exceeds the limit (4300 digits) for integer string conversion"
  | .afterContinuation => "unexpected character after line continuation character"
  | .unexpectedEnd => "unexpected EOF while parsing"
  | .unexpectedIndent => "unexpected indent"
  | .unexpectedUnindent => "unexpected unindent"
  | .unindentMismatch => "unindent does not match any outer indentation level"
  | .mixedTabs => "inconsistent use of tabs and spaces in indentation"
  | .tooDeep => "too many levels of indentation"
  | .missingBlock owner line =>
    "expected an indented block after " ++ owner.text ++ " on line " ++ toString line
  | .expected what => "expected '" ++ what ++ "'"
  | .missingHandler => "expected 'except' or 'finally' block"
  | .mixedHandlers => "cannot have both 'except' and 'except*' on the same 'try'"
  | .badTarget => "cannot assign to expression"
  | .badArguments => "positional argument follows keyword argument"
  | .badLiteral => "(unicode error) malformed escape in literal"
  | .mixedLiterals => "cannot mix bytes and nonbytes literals"
  | .inTemplate what => "f-string: " ++ what

/-- A refusal: its cause, its line and its place in the line counted in characters from one. A text
with a null character is refused as a whole, without a place. -/
structure Fault where
  cause : Cause
  line : Option Nat
  offset : Option Nat
deriving Repr, DecidableEq

def Fault.message (fault : Fault) : String := fault.cause.message

end ContractLint.Source
