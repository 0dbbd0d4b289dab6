/-! Sets of characters given by tables of code ranges. -/

namespace ContractLint.Text

/-- The codes from `first` to `last`, both included. -/
structure CodeRange where
  first : Nat
  last : Nat
deriving Repr, DecidableEq

def CodeRange.contains (range : CodeRange) (code : Nat) : Bool :=
  range.first ≤ code && code ≤ range.last

/-- The value of a hexadecimal digit in upper or lower case. -/
def hexDigit? (c : Char) : Option Nat :=
  if '0' ≤ c && c ≤ '9' then some (c.toNat - '0'.toNat)
  else if 'A' ≤ c && c ≤ 'F' then some (c.toNat - 'A'.toNat + 10)
  else if 'a' ≤ c && c ≤ 'f' then some (c.toNat - 'a'.toNat + 10)
  else none

/-- Reads hexadecimal digits; any other character is passed over. -/
def readHex (digits : List Char) : Nat :=
  digits.foldl (fun value c => match hexDigit? c with
    | some digit => value * 16 + digit
    | none => value) 0

/-- The pieces of a list between the elements that satisfy `isMark`. -/
def splitWhere {α : Type} (isMark : α → Bool) : List α → List (List α)
  | [] => [[]]
  | x :: rest =>
    if isMark x then [] :: splitWhere isMark rest
    else match splitWhere isMark rest with
      | [] => [[x]]
      | piece :: pieces => (x :: piece) :: pieces

theorem splitWhere_ne_nil {α : Type} (isMark : α → Bool) (list : List α) :
    splitWhere isMark list ≠ [] := by
  cases list with
  | nil => simp [splitWhere]
  | cons x rest =>
      rw [splitWhere]
      split
      · simp
      · split <;> simp

/-- The words of a table, divided by blanks and line ends. -/
def tableWords (table : String) : List (List Char) :=
  (splitWhere (fun c => c = ' ' || c = '\n') table.toList).filter fun word => !word.isEmpty

def CodeRange.ofWord (word : List Char) : CodeRange :=
  match splitWhere (· = '-') word with
  | [first, last] => ⟨readHex first, readHex last⟩
  | _ => ⟨readHex word, readHex word⟩

/-- Reads a table such as `C0-D6 AA`: ranges and single codes in hexadecimal. -/
def readRanges (table : String) : Array CodeRange :=
  ((tableWords table).map CodeRange.ofWord).toArray

def inRanges (ranges : Array CodeRange) (c : Char) : Bool :=
  ranges.any (·.contains c.toNat)

end ContractLint.Text
