import ContractLint.Text.Search

/-! Options and words on a command line. -/

namespace ContractLint.Command

/-- An option by its names, the first of which stands for it. -/
structure OptionSpec where
  names : List String
  takesValue : Bool
deriving Repr, DecidableEq

def OptionSpec.name (spec : OptionSpec) : String := spec.names.head?.getD ""

def flagOption (name : String) : OptionSpec := ⟨[name], false⟩

def valueOption (names : List String) : OptionSpec := ⟨names, true⟩

/-- What is wrong with a command line. -/
inductive UsageFault
  | unknownOption (name : String)
  | ambiguousOption (name : String)
  | missingValue (name : String)
  | unexpectedValue (name : String)
  | wrongValue (value : String)
  | unknownCommand (name : String)
  | missingWord
  | unexpectedWord (word : String)
  | missingFile (path : String)
deriving Repr, DecidableEq

/-- The options of a command line in order, each with its value, and the words between them. -/
structure Parsed where
  options : List (String × Option String) := []
  words : List String := []
deriving Repr, DecidableEq

def Parsed.has (parsed : Parsed) (name : String) : Bool := parsed.options.any (·.1 = name)

/-- All values of an option. -/
def Parsed.values (parsed : Parsed) (name : String) : List String :=
  parsed.options.filterMap fun (other, value) => if other = name then value else none

/-- The value of an option that was given last. -/
def Parsed.value? (parsed : Parsed) (name : String) : Option String :=
  (parsed.values name).getLast?

def findOption? (specs : List OptionSpec) (name : String) : Option OptionSpec :=
  specs.find? (·.names.contains name)

/-- The name and the value of `name=value`. -/
def splitValue (argument : String) : String × Option String :=
  let characters := argument.toList
  match characters.dropWhile (· != '=') with
  | _ :: value =>
    (String.ofList (characters.takeWhile (· != '=')), some (String.ofList value))
  | [] => (argument, none)

/-- An option that is read: its name, its value, and what is left of the command line. -/
structure ReadOption where
  options : List (String × Option String)
  rest : List String

/-- Reads an option by its whole name. Its value stands behind an equals sign or comes next. -/
def readNamed (spec : OptionSpec) (value : Option String) (rest : List String) :
    Except UsageFault ReadOption :=
  match spec.takesValue, value, rest with
  | true, some value, rest => .ok ⟨[(spec.name, some value)], rest⟩
  | true, none, next :: rest => .ok ⟨[(spec.name, some next)], rest⟩
  | true, none, [] => .error (.missingValue spec.name)
  | false, some _, _ => .error (.unexpectedValue spec.name)
  | false, none, rest => .ok ⟨[(spec.name, none)], rest⟩

/-- Reads options of one letter each. What follows the letter of an option with a value is that
value. -/
def readLetters (specs : List OptionSpec) (rest : List String) :
    List Char → Except UsageFault ReadOption
  | [] => .ok ⟨[], rest⟩
  | letter :: letters =>
    let name := String.ofList ['-', letter]
    match findOption? specs name with
    | none => .error (.unknownOption name)
    | some spec =>
      if spec.takesValue then
        readNamed spec (if letters.isEmpty then none else some (String.ofList letters)) rest
      else do
        let read ← readLetters specs rest letters
        return { read with options := (spec.name, none) :: read.options }

/-- A hyphen and one letter make a short name. -/
def isLongName (name : String) : Bool := name.length != 2

def readOption (specs : List OptionSpec) (argument : String) (rest : List String) :
    Except UsageFault ReadOption :=
  let (name, value) := splitValue argument
  match (findOption? specs name).filter fun _ => isLongName name with
  | some spec => readNamed spec value rest
  | none =>
    if Text.startsWith argument "--" then .error (.unknownOption name)
    else readLetters specs rest (argument.toList.drop 1)

/-- A single hyphen is a word. -/
def isOption (argument : String) : Bool := Text.startsWith argument "-" && argument != "-"

/-- Reads a command line. Two hyphens end the options; so does the first word unless options may
follow words. The fuel is the number of arguments. -/
def readArguments (specs : List OptionSpec) (optionsAnywhere : Bool) :
    Nat → List String → Except UsageFault Parsed
  | 0, arguments => .ok ⟨[], arguments⟩
  | _, [] => .ok {}
  | fuel + 1, argument :: rest =>
    if argument = "--" then .ok ⟨[], rest⟩
    else if isOption argument then do
      let read ← readOption specs argument rest
      let parsed ← readArguments specs optionsAnywhere fuel read.rest
      return { parsed with options := read.options ++ parsed.options }
    else if optionsAnywhere then do
      let parsed ← readArguments specs optionsAnywhere fuel rest
      return { parsed with words := argument :: parsed.words }
    else .ok ⟨[], argument :: rest⟩

def parseArguments (specs : List OptionSpec) (optionsAnywhere : Bool) (arguments : List String) :
    Except UsageFault Parsed :=
  readArguments specs optionsAnywhere arguments.length arguments

end ContractLint.Command
