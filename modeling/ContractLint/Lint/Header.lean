import ContractLint.Lint.Finding
import ContractLint.Text.Blank
import ContractLint.Text.Ranges

/-! The comment at the head of a contract that names what it depends on. -/

namespace ContractLint.Lint

/-- The lines of a text; only `\n` divides them. -/
def headerLines (text : List Char) : List (List Char) := Text.splitWhere (· = '\n') text

/-- What a comment line says: without the hash sign and, where a blank follows that, without the
blanks at both ends. -/
def commentText : List Char → Option (List Char)
  | '#' :: ' ' :: rest => some (Text.strip rest)
  | '#' :: rest => some rest
  | _ => none

/-- What the comment lines at the start of a text say, line by line. -/
def headerComments (text : List Char) : List (List Char) :=
  ((headerLines text).map commentText).takeWhile (·.isSome) |>.filterMap id

/-- The header names dependencies, and among them the runner of contracts. -/
def headerFindings (source : String) : List Finding :=
  let header := (headerComments source.toList).flatten
  if !Text.occursIn "\"Depends\"".toList header then [⟨.missingHeader, 1, 0⟩]
  else if !Text.occursIn "py-genlayer:".toList header then [⟨.missingRunner, 1, 0⟩]
  else []

end ContractLint.Lint
