import ContractLint.Text.NormalForm.Tables

/-! The composed compatibility form (NFKC) of the characters that identifiers may hold. -/

namespace ContractLint.Text.NormalForm

/-- The combining class of a character; starters have class zero. -/
def combiningClass (c : Char) : Nat :=
  match combiningClasses.find? (·.1.contains c.toNat) with
  | some (_, value) => value
  | none => 0

/-- A Hangul syllable is a leading consonant, a vowel and perhaps a trailing consonant. -/
def hangulParts (code : Nat) : List Nat :=
  let index := code - 0xAC00
  let leading := 0x1100 + index / 588
  let vowel := 0x1161 + index % 588 / 28
  if index % 28 = 0 then [leading, vowel] else [leading, vowel, 0x11A7 + index % 28]

def decompose (c : Char) : List Char :=
  if c.toNat < 128 then [c]
  else if 0xAC00 ≤ c.toNat && c.toNat ≤ 0xD7A3 then (hangulParts c.toNat).map Char.ofNat
  else match decompositions.find? (·.code = c.toNat) with
    | some found => found.parts
    | none => [c]

/-- Puts a mark before the marks of higher class that end the text so far (kept reversed). -/
def insertMark (value : Nat) (c : Char) : List (Nat × Char) → List (Nat × Char)
  | [] => [(value, c)]
  | (other, d) :: rest =>
    if value != 0 && value < other then (other, d) :: insertMark value c rest
    else (value, c) :: (other, d) :: rest

/-- Sorts each run of marks by class and keeps the order of marks of one class. -/
def orderMarks (text : List Char) : List (Nat × Char) :=
  (text.foldl (fun done c => insertMark (combiningClass c) c done) []).reverse

def composeHangul? (first second : Nat) : Option Nat :=
  if 0x1100 ≤ first && first ≤ 0x1112 && 0x1161 ≤ second && second ≤ 0x1175 then
    some (0xAC00 + ((first - 0x1100) * 21 + (second - 0x1161)) * 28)
  else if 0xAC00 ≤ first && first ≤ 0xD7A3 && (first - 0xAC00) % 28 = 0 &&
      0x11A8 ≤ second && second ≤ 0x11C2 then
    some (first + (second - 0x11A7))
  else none

/-- The character that a starter and a following character compose to. -/
def composePair? (first second : Char) : Option Char :=
  match composeHangul? first.toNat second.toNat with
  | some code => some (Char.ofNat code)
  | none =>
    (compositions.find? fun pair =>
      pair.first = first.toNat && pair.second = second.toNat).map (·.composed)

/-- Composes what follows the starter. `kept` holds, reversed, the marks after it that found no
partner; a character composes with the starter unless a kept mark of the same or a higher class
stands between them. -/
def composeAfter (starter : Char) (kept : List (Nat × Char)) : List (Nat × Char) → List Char
  | [] => starter :: (kept.reverse.map (·.2))
  | (value, c) :: rest =>
    let free := match kept with
      | [] => true
      | (last, _) :: _ => last < value
    match if free then composePair? starter c else none with
    | some composed => composeAfter composed kept rest
    | none =>
      if value = 0 then starter :: (kept.reverse.map (·.2)) ++ composeAfter c [] rest
      else composeAfter starter ((value, c) :: kept) rest

def compose : List (Nat × Char) → List Char
  | [] => []
  | (value, c) :: rest => if value = 0 then composeAfter c [] rest else c :: compose rest

/-- The composed compatibility form. -/
def normalize (text : List Char) : List Char :=
  if text.all (·.toNat < 128) then text
  else compose (orderMarks (text.flatMap decompose))

end ContractLint.Text.NormalForm
