/-! Texts within texts. -/

namespace ContractLint.Text

def startsWith (text start : String) : Bool := start.toList.isPrefixOf text.toList

def endsWith (text ending : String) : Bool := ending.toList.isSuffixOf text.toList

/-- The part occurs somewhere in the text. -/
def occursIn (part : List Char) : List Char → Bool
  | [] => part.isEmpty
  | c :: rest => part.isPrefixOf (c :: rest) || occursIn part rest

def contains (text part : String) : Bool := occursIn part.toList text.toList

/-- What stands for every occurrence of a part, searched from the left; `skip` characters still
belong to the last one found. -/
def replaceFrom (part substitute : List Char) (skip : Nat) : List Char → List Char
  | [] => []
  | c :: rest =>
    if skip != 0 then replaceFrom part substitute (skip - 1) rest
    else if part.isPrefixOf (c :: rest) then
      substitute ++ replaceFrom part substitute (part.length - 1) rest
    else c :: replaceFrom part substitute 0 rest

/-- Puts a text in the place of every occurrence of a part that is not empty. -/
def replaceAll (text part substitute : String) : String :=
  String.ofList (replaceFrom part.toList substitute.toList 0 text.toList)

/-- Drops every occurrence of a part. -/
def removeAll (text part : String) : String := replaceAll text part ""

/-- The pieces of a text between the marks. -/
def splitAt (text : String) (mark : Char) : List String :=
  (splitChars mark text.toList).map String.ofList
where
  splitChars (mark : Char) : List Char → List (List Char)
    | [] => [[]]
    | c :: rest =>
      if c = mark then [] :: splitChars mark rest
      else match splitChars mark rest with
        | [] => [[c]]
        | piece :: pieces => (c :: piece) :: pieces

def joinWith (between : String) (pieces : List String) : String := between.intercalate pieces

/-- The first characters of a text. -/
def firstChars (text : String) (count : Nat) : String := String.ofList (text.toList.take count)

/-- A text without its first characters. -/
def afterChars (text : String) (count : Nat) : String := String.ofList (text.toList.drop count)

/-- A text without an ending, if it has that ending. -/
def withoutEnding (text ending : String) : String :=
  if endsWith text ending then firstChars text (text.length - ending.length) else text

end ContractLint.Text
