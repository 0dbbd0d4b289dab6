import ContractLint.Files.Tree
import ContractLint.Json.Access
import ContractLint.Json.Reader

/-! Why something could not be done. -/

namespace ContractLint

inductive Failure
  | mismatch (found : Json.Mismatch)
  | notJson (problem : Json.ReadError)
  | notText (fault : Text.Utf8Fault)
  | file (fault : Files.FileFault)
  | refused (status : Int) (reason : String)
  | unreachable (reason : String)
  | connectionReset
  | incomplete (got missing : Nat)
  | notWhole (text : String)
  | notNumber (text : String)
  | noNumber (kind : String)
  | noWhole (kind : String)
  | unknownMode (mode : String)
  | noTreeGiven
  | unusableTree (setting root problem : String)
  | noBundle (version : String)
  | noRunner (kind : String)
  | noLibrary
  | noPaths
  | noMember (name : String)
  | notArchive (problem : String)
  | notExtractable (name : String)
  | outside (name target : String)
  | noModule (name : String)
  | notPackage (name parent : String)
  | noName (name module path : String)
  | noHome
  | notJoinable (kind : String)
  | notWritable (kind : String)

namespace Failure

/-- The files that release bundles may be called, the newest name first. -/
def bundleAssets : List String := ["genvm-runners-all.tar.xz", "genvm-universal.tar.xz"]

def message : Failure → String
  | .mismatch found => found.message
  | .notJson problem => problem.message
  | .notText fault => fault.message
  | .file fault => fault.message
  | .refused status reason => "HTTP Error " ++ toString status ++ ": " ++ reason
  | .unreachable reason => "<urlopen error " ++ reason ++ ">"
  | .connectionReset => "connection reset"
  | .incomplete got missing =>
    "IncompleteRead(" ++ toString got ++ " bytes read, " ++ toString missing ++ " more expected)"
  | .notWhole text => "invalid literal for int() with base 10: " ++ Text.quote text
  | .notNumber text => "could not convert string to float: " ++ Text.quote text
  | .noNumber kind => "float() argument must be a string or a real number, not '" ++ kind ++ "'"
  | .noWhole kind =>
    "int() argument must be a string, a bytes-like object or a real number, not '" ++ kind ++ "'"
  | .unknownMode mode =>
    "Invalid GENVM_SOURCE_MODE=" ++ Text.quote mode ++
      "; expected 'prebuilt', 'release', or an empty value for auto mode"
  | .noTreeGiven =>
    "GENVM_SOURCE_MODE=prebuilt requires GENVM_PREBUILT_DIR (preferred) or GENVMROOT to point " ++
      "at a GenVM tree containing bin/genvm-modules and runners/."
  | .unusableTree setting root problem =>
    "GENVM_SOURCE_MODE=prebuilt selected " ++ setting ++ "=" ++ Text.quote root ++
      ", but that GenVM tree is unusable: " ++ problem ++
      ". Build GenVM first or point GENVM_PREBUILT_DIR at a tree containing " ++
      "bin/genvm-modules and runners/."
  | .noBundle version =>
    "No GenVM runner bundle for " ++ version ++ "; tried " ++ Text.joinWith ", " bundleAssets
  | .noRunner kind => "Could not find " ++ kind ++ " in release"
  | .noLibrary => "py-genlayer runner doesn't specify py-lib-genlayer-std"
  | .noPaths => "Could not extract SDK paths"
  | .noMember name => Text.quote ("filename " ++ Text.quote name ++ " not found")
  | .notArchive problem => problem
  | .notExtractable name => "Could not extract " ++ name
  | .outside name target =>
    Text.quote name ++ " would be extracted to " ++ Text.quote target ++
      ", which is outside the destination"
  | .noModule name => "No module named " ++ Text.quote name
  | .notPackage name parent =>
    "No module named " ++ Text.quote name ++ "; " ++ Text.quote parent ++ " is not a package"
  | .noName name module path =>
    "cannot import name " ++ Text.quote name ++ " from " ++ Text.quote module ++ " (" ++ path ++ ")"
  | .noHome => "Could not determine home directory."
  | .notJoinable kind => "unsupported operand type(s) for /: 'PosixPath' and '" ++ kind ++ "'"
  | .notWritable kind => "data must be str, not " ++ kind

end Failure

end ContractLint
