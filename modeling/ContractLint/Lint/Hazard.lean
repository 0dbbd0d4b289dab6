import ContractLint.Lint.Finding
import ContractLint.Lint.Names

/-! Imports, calls and exceptions that have no place in a contract. -/

namespace ContractLint.Lint

open Source

/-- Modules whose behaviour differs from one machine to the next. -/
def forbiddenModules : List String :=
  ["random", "os", "sys", "subprocess", "threading", "multiprocessing", "asyncio", "socket", "http",
    "requests", "pickle", "shelve", "sqlite3", "tempfile", "shutil", "glob", "pathlib", "io",
    "builtins"]

/-- Modules that are allowed although they may look forbidden. -/
def allowedModules : List String := ["urllib.parse"]

def forbiddenCalls : List String :=
  ["time.time", "time.localtime", "time.gmtime", "uuid.uuid1", "uuid.uuid4"]

/-- Exceptions that are not to be raised in a contract. -/
def builtinExceptions : List String :=
  ["BaseException", "Exception", "ArithmeticError", "AssertionError", "AttributeError",
    "BlockingIOError", "BrokenPipeError", "BufferError", "ChildProcessError",
    "ConnectionAbortedError", "ConnectionError", "ConnectionRefusedError", "ConnectionResetError",
    "EOFError", "FileExistsError", "FileNotFoundError", "FloatingPointError", "GeneratorExit",
    "IOError", "ImportError", "IndexError", "InterruptedError", "IsADirectoryError", "KeyError",
    "KeyboardInterrupt", "LookupError", "MemoryError", "ModuleNotFoundError", "NameError",
    "NotADirectoryError", "NotImplementedError", "OSError", "OverflowError", "PermissionError",
    "ProcessLookupError", "RecursionError", "ReferenceError", "RuntimeError",
    "StopAsyncIteration", "StopIteration", "SyntaxError", "SystemError", "SystemExit",
    "TimeoutError", "TypeError", "UnboundLocalError", "UnicodeDecodeError", "UnicodeEncodeError",
    "UnicodeError", "UnicodeTranslateError", "ValueError", "ZeroDivisionError"]

/-- The name before the first point. -/
def topModule (module : String) : String := String.ofList (module.toList.takeWhile (· != '.'))

def isForbiddenModule (module : String) : Bool :=
  !allowedModules.contains module && forbiddenModules.contains (topModule module)

/-- The number of contract classes around the nodes below a node. -/
def enterContract (contracts : Nat) (node : Node) : Nat :=
  if isContractClass node then contracts + 1 else contracts

/-- The hazards of one node inside `contracts` contract classes. -/
def hazardsAt (contracts : Nat) : Node → List Finding
  | .importing pos modules =>
    (modules.filter (isForbiddenModule ·.name)).map fun item =>
      findingAt (.forbiddenImport item.name) pos
  | .importingFrom pos (some module) _ _ =>
    if isForbiddenModule module then [findingAt (.forbiddenImportFrom module) pos] else []
  | .call pos callee _ _ =>
    let call := calledName callee
    if forbiddenCalls.contains call then [findingAt (.nondeterministicCall call) pos] else []
  | .raising pos (some exception) _ =>
    match exceptionName exception with
    | some name =>
      if 0 < contracts && builtinExceptions.contains name then
        [findingAt (.bareException name) pos]
      else []
    | none => []
  | _ => []

def hazards (module : Module) : List Finding :=
  (module.walk enterContract 0).flatMap fun (contracts, node) => hazardsAt contracts node

end ContractLint.Lint
