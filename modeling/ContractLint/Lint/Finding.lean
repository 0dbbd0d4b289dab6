import ContractLint.Source.Glyph
import ContractLint.Text.Search

/-! What the rules find: each issue has a code, a message and a severity. -/

namespace ContractLint.Lint

/-- Operations that must not happen in a non-deterministic block. -/
inductive Operation
  | emission
  | contractAccess (call : String)
  | interfaceAccess (className : String)
  | nestedBlock (call : String)
  | storageWrite (field : String)
deriving Repr, DecidableEq

def Operation.code : Operation → String
  | .emission => "E023"
  | .contractAccess _ | .interfaceAccess _ => "E024"
  | .nestedBlock _ => "E025"
  | .storageWrite _ => "E026"

/-- How the operation is written in the source. -/
def Operation.text : Operation → String
  | .emission => ".emit()"
  | .contractAccess call => call ++ "()"
  | .interfaceAccess className => className ++ "(...)"
  | .nestedBlock call => call ++ "()"
  | .storageWrite field => "self." ++ field

def Operation.reason : Operation → String
  | .emission => "message emission is forbidden in non-deterministic contexts"
  | .contractAccess _ | .interfaceAccess _ =>
    "inter-contract calls are forbidden in non-deterministic contexts"
  | .nestedBlock _ => "nested non-deterministic blocks are forbidden"
  | .storageWrite _ => "storage writes are forbidden in non-deterministic contexts"

inductive Issue
  | forbiddenImport (module : String)
  | forbiddenImportFrom (module : String)
  | nondeterministicCall (call : String)
  | bareException (name : String)
  | looseCallInModule
  | looseCall (scope : String)
  | forbiddenOperation (operation : Operation) (scope : String)
  | strictEquality (line : Nat) (call : String) (callLine : Nat)
  | missingHeader
  | missingRunner
  | furtherContract (name : String)
  | publicConstructor
  | publicUnderscores (method : String)
  | undeclaredStorage (className : String)
  | rawInteger (field : String)
  | builtinContainer (field container substitute : String)
  | arraySize (field : String)
  | mapKey (field key : String)
  | specialDecorator (method decorator : String)
  | missingReturnType (method : String)
  | variadicParameters (method : String)
  | keywordParameters (method : String)
  | missingSelf (method : String)
deriving Repr, DecidableEq

def Issue.code : Issue → String
  | .forbiddenImport _ | .forbiddenImportFrom _ => "W001"
  | .nondeterministicCall _ => "W002"
  | .bareException _ => "W004"
  | .looseCallInModule | .looseCall _ => "E010"
  | .forbiddenOperation operation _ => operation.code
  | .strictEquality _ _ _ => "GL-S03"
  | .missingHeader => "W010"
  | .missingRunner => "W011"
  | .furtherContract _ => "E011"
  | .publicConstructor => "E012"
  | .publicUnderscores _ => "E013"
  | .undeclaredStorage _ => "E014"
  | .rawInteger _ => "E015"
  | .builtinContainer _ _ _ => "E016"
  | .arraySize _ => "E017"
  | .mapKey _ _ => "E018"
  | .specialDecorator _ _ => "E019"
  | .missingReturnType _ => "W020"
  | .variadicParameters _ | .keywordParameters _ => "E021"
  | .missingSelf _ => "E022"

def Issue.message : Issue → String
  | .forbiddenImport module => "Forbidden import '" ++ module ++ "'"
  | .forbiddenImportFrom module => "Forbidden import from '" ++ module ++ "'"
  | .nondeterministicCall call => "Non-deterministic call '" ++ call ++ "()'"
  | .bareException name =>
    "Bare Python exception '" ++ name ++
      "' in contract; use gl.vm.UserError(\"message\") instead"
  | .looseCallInModule =>
    "gl.nondet.* call at module level (must be in equivalence principle block)"
  | .looseCall scope =>
    "gl.nondet.* call in '" ++ scope ++ "' not reachable from equivalence principle block"
  | .forbiddenOperation operation scope =>
    operation.text ++ " in '" ++ scope ++ "' reachable from non-deterministic block; " ++
      operation.reason
  | .strictEquality line call callLine =>
    "GL-S03: eq_principle_strict_eq on line " ++ toString line ++
      " wraps a function that returns raw nondeterministic output (" ++ call ++ " on line " ++
      toString callLine ++ "). Strict equality will fail across validators. " ++
      "Use eq_principle_prompt_comparative or eq_principle_prompt_non_comparative instead."
  | .missingHeader => "Missing contract dependency header (# \x7b \"Seq\": [...] \x7d)"
  | .missingRunner => "Missing py-genlayer dependency in header"
  | .furtherContract name =>
    "Multiple contracts in module; '" ++ name ++ "' should be in separate file"
  | .publicConstructor => "__init__ must be private (remove @gl.public decorator)"
  | .publicUnderscores method => "Public method '" ++ method ++ "' cannot start with '__'"
  | .undeclaredStorage className =>
    "Class '" ++ className ++ "' used in storage needs @allow_storage decorator"
  | .rawInteger field => "Storage field '" ++ field ++ "' cannot use raw 'int'; use u256/i256"
  | .builtinContainer field container substitute =>
    "Storage field '" ++ field ++ "' cannot use '" ++ container ++ "'; use " ++ substitute
  | .arraySize field => "Array size for '" ++ field ++ "' must be positive integer"
  | .mapKey field key =>
    "TreeMap key for '" ++ field ++ "' must be Comparable (str, Address, u32, etc.), got '" ++
      key ++ "'"
  | .specialDecorator method decorator =>
    "'" ++ method ++ "' requires @" ++ decorator ++ " decorator"
  | .missingReturnType method =>
    "View method '" ++ method ++ "' should have return type annotation"
  | .variadicParameters method => "Public method '" ++ method ++ "' cannot use *args"
  | .keywordParameters method => "Public method '" ++ method ++ "' cannot use **kwargs"
  | .missingSelf method => "Method '" ++ method ++ "' must have 'self' as first parameter"

/-- An issue with its place. -/
structure Finding where
  issue : Issue
  line : Nat
  column : Nat
deriving Repr, DecidableEq

def Finding.code (finding : Finding) : String := finding.issue.code

def Finding.message (finding : Finding) : String := finding.issue.message

def findingAt (issue : Issue) (pos : Source.Pos) : Finding := ⟨issue, pos.line, pos.column⟩

inductive Severity
  | error
  | warning
deriving Repr, DecidableEq

def Severity.text : Severity → String
  | .error => "error"
  | .warning => "warning"

/-- How severe a finding on safety is. -/
def safetySeverity (code : String) : Severity :=
  if Text.startsWith code "E" || code = "GL-S03" then .error else .warning

/-- How severe a finding on structure is. -/
def structureSeverity (code : String) : Severity :=
  if Text.startsWith code "E" || code = "GL-S03" then .error else .warning

/-- Advice on what to do about a code. -/
def suggestion? : String → Option String
  | "W001" => some "Remove the forbidden import. Use GenLayer SDK equivalents instead."
  | "W002" => some "Use deterministic alternatives from the GenLayer SDK."
  | "W010" =>
    some "Add contract header: # \x7b \"Seq\": [\x7b \"Depends\": \"py-genlayer:...\" \x7d] \x7d"
  | "W011" => some "Add py-genlayer dependency to contract header."
  | "E010" =>
    some "Wrap gl.nondet.* calls in gl.eq_principle.* or gl.vm.run_nondet() for consensus."
  | "E011" => some "Move each contract class to its own file."
  | "E012" => some "Remove @gl.public decorator from __init__ method."
  | "E013" => some "Rename method to not start with '__' or make it private."
  | "E014" => some "Add @allow_storage decorator to the class."
  | "E015" => some "Use u256 or i256 instead of int for storage fields."
  | "E016" => some "Use DynArray instead of list, TreeMap instead of dict."
  | "E017" => some "Array size must be a positive integer Literal."
  | "E018" => some "TreeMap keys must be Comparable (str, Address, u32, u256, etc.)."
  | "E019" => some "Add the required decorator for this special method."
  | "W020" => some "Add return type annotation to view method for schema generation."
  | "E021" => some "Remove *args/**kwargs from public method signature."
  | "E022" => some "Add 'self' as first parameter."
  | "E023" =>
    some ("Move .emit() call outside the leader/validator function. " ++
      "Message emission cannot happen inside non-deterministic contexts.")
  | "E024" =>
    some ("Move contract call outside the leader/validator function. " ++
      "Inter-contract calls cannot happen inside non-deterministic contexts.")
  | "E025" => some "Cannot nest run_nondet/eq_principle inside a non-deterministic block."
  | "E026" =>
    some ("Move storage write outside the leader/validator function. " ++
      "Storage writes cannot happen inside non-deterministic contexts.")
  | "GL-S03" =>
    some ("Replace eq_principle_strict_eq with eq_principle_prompt_comparative " ++
      "or eq_principle_prompt_non_comparative for LLM/web outputs.")
  | _ => none

end ContractLint.Lint
