import ContractLint.Command.EditorOptions
import ContractLint.Text.Identifier

/-! What a command line asks for. -/

namespace ContractLint.Command

inductive Request
  | help
  | version
  | check (contract : String) (json : Bool)
  | lint (contract : String) (json : Bool)
  | validate (contract : String) (json : Bool)
  | schema (contract : String) (output : Option String) (json : Bool)
  | available
  | downloaded
  | download (version : Option String)
  | stubsList
  | stubs (version : Option String) (output : Option String)
  | setup (version : Option String) (contract : Option String) (json : Bool)
  | typeCheck (contract : String) (json strict all : Bool)
  | cacheClean (keep : List String) (all dryRun : Bool)
  | editor (options : EditorOptions)
deriving Repr, DecidableEq

def helpOption : OptionSpec := flagOption "--help"

def jsonOption : OptionSpec := flagOption "--json"

def versionOption : OptionSpec := valueOption ["--version", "-v"]

def outputOption : OptionSpec := valueOption ["--output", "-o"]

def listOption : OptionSpec := flagOption "--list"

def allOption : OptionSpec := flagOption "--all"

/-- Reads the arguments of a command without words. Help comes before all that is wrong with the
words. -/
def withoutWords (specs : List OptionSpec) (arguments : List String) (make : Parsed → Request) :
    Except UsageFault Request := do
  let parsed ← parseArguments (helpOption :: specs) true arguments
  if parsed.has "--help" then return .help
  match parsed.words with
  | [] => return make parsed
  | word :: _ => throw (.unexpectedWord word)

/-- Reads the arguments of a command with one word, the contract. -/
def withContract (specs : List OptionSpec) (arguments : List String)
    (make : String → Parsed → Request) : Except UsageFault Request := do
  let parsed ← parseArguments (helpOption :: specs) true arguments
  if parsed.has "--help" then return .help
  match parsed.words with
  | [] => throw .missingWord
  | [contract] => return make contract parsed
  | _ :: word :: _ => throw (.unexpectedWord word)

def readCacheClean (arguments : List String) : Except UsageFault Request :=
  withoutWords [valueOption ["--keep", "-k"], allOption, flagOption "--dry-run"] arguments
    fun parsed =>
      .cacheClean (parsed.values "--keep") (parsed.has "--all") (parsed.has "--dry-run")

/-- A name that starts with neither a letter nor a digit is taken for an option that came too
late, and help is given. -/
def looksLikeOption (name : String) : Bool :=
  match name.toList with
  | c :: _ => !(Text.isDecimalDigit c || (Text.isIdentifierStart c && c != '_'))
  | [] => false

/-- Reads the arguments of a command that has commands of its own. -/
def readGroup (specs : List OptionSpec) (arguments : List String)
    (early : Parsed → Option Request)
    (read : String → List String → Option (Except UsageFault Request)) :
    Except UsageFault Request := do
  if arguments.isEmpty then return .help
  let parsed ← parseArguments (helpOption :: specs) false arguments
  match early parsed with
  | some command => return command
  | none =>
    match parsed.words with
    | [] => throw .missingWord
    | name :: rest =>
      match read name rest with
      | some result => result
      | none => if looksLikeOption name then return .help else throw (.unknownCommand name)

/-- Of the options that end it all, the first one counts. -/
def earlyCommand? (parsed : Parsed) : Option Request :=
  parsed.options.findSome? fun
    | ("--help", _) => some .help
    | ("--version", _) => some .version
    | _ => none

def readCache (arguments : List String) : Except UsageFault Request :=
  readGroup [] arguments earlyCommand? fun
    | "list", rest => some (withoutWords [] rest fun _ => .downloaded)
    | "clean", rest => some (readCacheClean rest)
    | _, _ => none

def readDownload (arguments : List String) : Except UsageFault Request :=
  withoutWords [versionOption, listOption, flagOption "--available"] arguments fun parsed =>
    if parsed.has "--available" then .available
    else if parsed.has "--list" then .downloaded
    else .download (parsed.value? "--version")

def readStubs (arguments : List String) : Except UsageFault Request :=
  withoutWords [versionOption, outputOption, listOption] arguments fun parsed =>
    if parsed.has "--list" then .stubsList
    else .stubs (parsed.value? "--version") (parsed.value? "--output")

def readSetup (arguments : List String) : Except UsageFault Request :=
  withoutWords [versionOption, valueOption ["--contract", "-c"], jsonOption] arguments
    fun parsed =>
      .setup (parsed.value? "--version") (parsed.value? "--contract") (parsed.has "--json")

def readSchema (arguments : List String) : Except UsageFault Request :=
  withContract [outputOption, jsonOption] arguments fun contract parsed =>
    .schema contract (parsed.value? "--output") (parsed.has "--json")

def readTypeCheck (arguments : List String) : Except UsageFault Request :=
  withContract [jsonOption, flagOption "--strict", allOption] arguments fun contract parsed =>
    .typeCheck contract (parsed.has "--json") (parsed.has "--strict") (parsed.has "--all")

/-- Reads the arguments of a command by its name. -/
def readNamedCommand (name : String) (arguments : List String) :
    Option (Except UsageFault Request) :=
  let plain (make : String → Bool → Request) :=
    withContract [jsonOption] arguments fun contract parsed =>
      make contract (parsed.has "--json")
  match name with
  | "check" => some (plain .check)
  | "lint" => some (plain .lint)
  | "validate" => some (plain .validate)
  | "schema" => some (readSchema arguments)
  | "download" => some (readDownload arguments)
  | "stubs" => some (readStubs arguments)
  | "setup" => some (readSetup arguments)
  | "typecheck" => some (readTypeCheck arguments)
  | "cache" => some (readCache arguments)
  | _ => none

/-- Reads a command line. One that starts with a word that is no command comes from an editor. -/
def readCommand (arguments : List String) : Except UsageFault Request := do
  match arguments with
  | [] => return .help
  | first :: rest =>
    if Text.startsWith first "-" || (readNamedCommand first []).isSome then
      readGroup [flagOption "--version"] arguments earlyCommand? readNamedCommand
    else match ← readEditorArguments first rest with
      | .help => return .help
      | .lint options => return .editor options

end ContractLint.Command
