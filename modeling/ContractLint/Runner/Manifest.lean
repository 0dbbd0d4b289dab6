import ContractLint.Entries
import ContractLint.Json.Access

/-! The manifest of a runner names the runners that it depends on. -/

namespace ContractLint.Runner

open Json (Value Mismatch)

/-- Splits a text at its last colon. -/
def splitLast (text : String) : Except Mismatch (String × String) :=
  match text.toList.reverse.dropWhile (· != ':') with
  | _ :: before =>
    .ok (String.ofList before.reverse, Text.afterChars text (before.length + 1))
  | [] => .error (.tooFewParts 2 1)

/-- The dependency that an item of a manifest names, if it names one. -/
def itemDependency? (item : Value) : Except Mismatch (Option (String × String)) := do
  if ← item.mentions "Depends" then
    let dependency ← (← item.require "Depends").asText "rsplit"
    return some (← splitLast dependency)
  else return none

/-- The dependencies of a manifest, in the order of their first mention. -/
def manifestDependencies (manifest : Value) : Except Mismatch (List (String × String)) := do
  let items ← (← manifest.getOr "Seq" (.array [])).elements
  return entriesOf ((← items.mapM itemDependency?).filterMap id)

end ContractLint.Runner
