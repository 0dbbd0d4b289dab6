import ContractLint.Command.Options
import ContractLint.Text.DecimalDigit

/-! The command line of editors: a contract first, then options, whose names may be cut short. -/

namespace ContractLint.Command

inductive EditorFormat
  | text
  | json
deriving Repr, DecidableEq

def EditorFormat.ofText? : String → Option EditorFormat
  | "text" => some .text
  | "json" => some .json
  | _ => none

structure EditorOptions where
  contract : String
  format : EditorFormat := .text
  severity : Option String := none
  excluded : List String := []
deriving Repr, DecidableEq

inductive EditorOption
  | help
  | format
  | severity
  | exclude
deriving Repr, DecidableEq

def EditorOption.takesValue : EditorOption → Bool
  | .help => false
  | _ => true

def editorOptionNames : List (String × EditorOption) :=
  [("-h", .help), ("--help", .help), ("--format", .format), ("--severity", .severity),
    ("--exclude-rule", .exclude)]

/-- What an argument is before it is used. -/
inductive Argument
  | word (text : String)
  | separator
  | option (name : String) (option : EditorOption) (value : Option String)
  | unknown (name : String)
deriving Repr, DecidableEq

/-- A hyphen and digits, with a point before the last of them or none: `-5`, `-1.5`, `-.5`. -/
def isNegativeNumber (argument : String) : Bool :=
  match argument.toList with
  | '-' :: rest =>
    let rest := match rest.getLast? with
      | some '\n' => rest.dropLast
      | _ => rest
    match rest.dropWhile Text.isDecimalDigit with
    | [] => !rest.isEmpty
    | '.' :: fraction => !fraction.isEmpty && fraction.all Text.isDecimalDigit
    | _ => false
  | _ => false

/-- The options that an argument may stand for by the start of their name or by their letter. -/
def matchingOptions (argument : String) : List (String × EditorOption × Option String) :=
  if Text.startsWith argument "--" then
    let (start, value) := splitValue argument
    editorOptionNames.filterMap fun (name, option) =>
      if Text.startsWith name start then some (name, option, value) else none
  else
    let letter := Text.firstChars argument 2
    editorOptionNames.filterMap fun (name, option) =>
      if name = letter then some (name, option, some (Text.afterChars argument 2))
      else if Text.startsWith name argument then some (name, option, none)
      else none

/-- Tells words from options. -/
def Argument.ofText (argument : String) : Except UsageFault Argument :=
  if !isOption argument then .ok (.word argument)
  else match editorOptionNames.lookup argument with
    | some found => .ok (.option argument found none)
    | none =>
      let (name, value) := splitValue argument
      match value, editorOptionNames.lookup name with
      | some value, some found => .ok (.option name found (some value))
      | _, _ =>
        match matchingOptions argument with
        | [(name, found, value)] => .ok (.option name found value)
        | _ :: _ :: _ => .error (.ambiguousOption argument)
        | [] =>
          if isNegativeNumber argument || argument.toList.contains ' ' then .ok (.word argument)
          else .ok (.unknown argument)

/-- Tells words from options up to two hyphens; all that follows those are words. -/
def classify : List String → Except UsageFault (List Argument)
  | [] => .ok []
  | argument :: rest =>
    if argument = "--" then .ok (.separator :: rest.map .word)
    else do
      let first ← Argument.ofText argument
      return first :: (← classify rest)

/-- What the command line of an editor asks for. -/
inductive EditorRequest
  | help
  | lint (options : EditorOptions)
deriving Repr, DecidableEq

def EditorOptions.set (options : EditorOptions) (option : EditorOption) (value : String) :
    Except UsageFault EditorOptions :=
  match option with
  | .help => .ok options
  | .format =>
    match EditorFormat.ofText? value with
    | some format => .ok { options with format := format }
    | none => .error (.wrongValue value)
  | .severity =>
    if ["error", "warning", "info"].contains value then .ok { options with severity := some value }
    else .error (.wrongValue value)
  | .exclude => .ok { options with excluded := options.excluded ++ [value] }

/-- Whether a help option with something behind it only repeats its letter. -/
def repeatsHelp (name value : String) : Bool :=
  name = "-h" && !value.isEmpty && value.toList.all (· = 'h')

/-- Goes through the options one by one. Help is given as soon as it is asked for; a word that is
no value is refused at the end. -/
def readOptions (options : EditorOptions) (strays : List String) :
    List Argument → Except UsageFault EditorRequest
  | [] =>
    match strays with
    | [] => .ok (.lint options)
    | stray :: _ => .error (.unexpectedWord stray)
  | .word text :: rest => readOptions options (strays ++ [text]) rest
  | .separator :: rest => readOptions options (strays ++ ["--"]) rest
  | .unknown name :: rest => readOptions options (strays ++ [name]) rest
  | .option name .help (some value) :: _ =>
    if repeatsHelp name value then .ok .help else .error (.unexpectedValue name)
  | .option _ .help none :: _ => .ok .help
  | .option _ option (some value) :: rest => do
    readOptions (← options.set option value) strays rest
  | .option _ option none :: .word value :: rest => do
    readOptions (← options.set option value) strays rest
  | .option name _ none :: _ => .error (.missingValue name)

/-- Reads the command line of an editor, whose first argument is the contract. -/
def readEditorArguments (contract : String) (arguments : List String) :
    Except UsageFault EditorRequest := do
  match ← classify arguments with
  | .separator :: rest => readOptions { contract := contract } [] rest
  | rest => readOptions { contract := contract } [] rest

end ContractLint.Command
