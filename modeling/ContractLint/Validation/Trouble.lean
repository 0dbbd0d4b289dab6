import ContractLint.Text.Quote

/-! What can go wrong while a contract is loaded. -/

namespace ContractLint.Validation

inductive Trouble
  | unreadable (problem : String) (file : String) (line : Option Int)
  | notImported (problem : String)
  | wrongType (problem : String)
  | missingKey (key : String)
  | other (problem : String)
deriving Repr, DecidableEq

def Trouble.message : Trouble → String
  | .unreadable problem file (some line) =>
    problem ++ " (" ++ file ++ ", line " ++ toString line ++ ")"
  | .unreadable problem file none => problem ++ " (" ++ file ++ ")"
  | .notImported problem => problem
  | .wrongType problem => problem
  | .missingKey key => Text.quote key
  | .other problem => problem

end ContractLint.Validation
