import ContractLint.Text.DecimalDigit

/-! The order of versions: by the numbers in them. -/

namespace ContractLint.Release

/-- The numbers in a text; `current` is the one that is being read. -/
def numbersFrom (current : Option Nat) : List Char → List Nat
  | [] => current.toList
  | c :: rest =>
    match Text.decimalDigit? c with
    | some digit => numbersFrom (some (current.getD 0 * 10 + digit)) rest
    | none => current.toList ++ numbersFrom none rest

/-- The numbers in a version, from left to right. -/
def versionNumbers (version : String) : List Nat := numbersFrom none version.toList

/-- The first list of numbers comes before the second one, or they are the same. A list comes
before those that go on from it. -/
def numbersLe : List Nat → List Nat → Bool
  | [], _ => true
  | _ :: _, [] => false
  | a :: as, b :: bs => a < b || (a = b && numbersLe as bs)

/-- Versions by their numbers, the largest first. Those with the same numbers stay in order. -/
def newestFirst (versions : List String) : List String :=
  versions.mergeSort fun a b => numbersLe (versionNumbers b) (versionNumbers a)

end ContractLint.Release
