import ContractLint.Text.Search

/-! Where the releases of a repository are, and how their bundles are named in the cache. -/

namespace ContractLint.Release

def releasesUrl (repository : String) : String :=
  "https://github.com/" ++ repository ++ "/releases"

def listingUrl (repository : String) : String :=
  "https://api.github.com/repos/" ++ repository ++ "/releases"

/-- Where a file of a release is. -/
def assetUrl (repository version asset : String) : String :=
  releasesUrl repository ++ "/download/" ++ version ++ "/" ++ asset

/-- The name of a repository as a part of a file name. -/
def slug (repository : String) : String := Text.replaceAll repository "/" "-"

/-- Every bundle starts with this. -/
def bundleStart : String := "genvm-universal-"

def bundleEnding : String := ".tar.xz"

/-- The bundles of a repository start with this. -/
def repositoryStart (repository : String) : String := bundleStart ++ slug repository ++ "-"

/-- The name of the bundle of a version. -/
def bundleName (repository version : String) : String :=
  repositoryStart repository ++ version ++ bundleEnding

/-- The version of a bundle of the repository. -/
def versionOf (repository name : String) : String :=
  Text.removeAll (Text.afterChars name (repositoryStart repository).length) bundleEnding

/-- What a bundle is called in lists of what to keep. -/
def keptName (name : String) : String :=
  Text.removeAll (Text.removeAll name bundleStart) bundleEnding

end ContractLint.Release
