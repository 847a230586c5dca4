import RegionGateway.Configuration.Document
import RegionGateway.Files.Disk

/-!
# Configuration files

A configuration is loaded from the file that is named, else from the user's own file if there is one.
-/

namespace RegionGateway

/-- Why a configuration cannot be loaded or saved. -/
inductive ConfigurationError where
  | file (error : IoError)
  /-- The file is no TOML document, or a setting is of the wrong kind. -/
  | unreadable (refusal : Toml.Refusal)
  /-- The named file does not exist. -/
  | absent (path : String)
  deriving DecidableEq

/-- The wording of a failure. -/
def ConfigurationError.message : ConfigurationError → String
  | .file error => "config I/O error: " ++ error.message
  | .unreadable .malformed => "invalid config: TOML parse error"
  | .unreadable .tooDeep => "invalid config: recursion limit"
  | .absent path => "config file " ++ path ++ " does not exist"

namespace Configuration

/-- The configuration in a file. -/
def ofFile [Monad m] (disk : Disk m) (environment : Environment) (path : String) :
    ExceptT ConfigurationError m Configuration := do
  let text ← (disk.readText path).adapt .file
  match parse (.default environment) text with
  | .ok configuration => return configuration
  | .error refusal => throw (.unreadable refusal)

/-- The configuration of a run, given the path of a file if one is named. -/
def load [Monad m] (disk : Disk m) (environment : Environment) (named : Option String) :
    ExceptT ConfigurationError m Configuration := do
  match named with
  | some path =>
    if ← disk.isThere path then ofFile disk environment path else throw (.absent path)
  | none =>
    match environment.userConfiguration with
    | none => return .default environment
    | some path =>
      if ← disk.isThere path then ofFile disk environment path else return .default environment

/-- Saves a configuration to a file. -/
def save [Monad m] (disk : Disk m) (path : String) (configuration : Configuration) :
    ExceptT ConfigurationError m Unit :=
  (disk.writeText path configuration.document).adapt .file

end Configuration

end RegionGateway
