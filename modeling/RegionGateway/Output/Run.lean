import RegionGateway.Interface.RequestFile
import RegionGateway.Output.Generation

/-!
# Runs

A run takes a request, generates every file in memory and then writes them below the output directory,
with `mod.rs` last. Where there is nothing to generate, nothing is written, not even the directory. Files
are not formatted after they are written.
-/

namespace RegionGateway

/-- Why a run fails. -/
inductive RunError where
  /-- A setting that a run needs is not given. -/
  | unset (setting : String)
  /-- There is no file that the request could be read from. -/
  | requestNotFound (path : String)
  | badRequest (error : RequestError)
  | generation (error : GenerationError)
  | io (error : IoError)

/-- The wording of a failure. -/
def RunError.message : RunError → String
  | .unset setting => setting ++ " is required"
  | .requestNotFound path => "request not found: " ++ path
  | .badRequest error => "failed to load request: " ++ error.message
  | .generation error => error.message
  | .io error => error.message

/-- The settings of a run that may be left open. -/
structure RunSettings where
  request : Option Request
  flags : ModeFlags
  paths : Option ModulePaths
  outputDirectory : Option String

namespace RunSettings

/-- The run that settings describe and its output directory. -/
def generation (settings : RunSettings) : Except RunError (Generation × String) :=
  match settings.request, settings.outputDirectory with
  | none, _ => .error (.unset "request")
  | some _, none => .error (.unset "base_output_dir")
  | some request, some directory =>
    .ok (.ofRequest request settings.flags (settings.paths.getD .standard), directory)

end RunSettings

/-- What a run has written. -/
structure RunSummary where
  mode : Mode
  /-- The names of the files below the output directory, `mod.rs` last. -/
  files : List String
  deriving DecidableEq

namespace Run

/-- The path of a generated file; a name without the extension gets it. -/
def filePath (directory name : String) : String :=
  Path.below directory (if (Text.dropEnd? ".rs" name).isSome then name else name ++ ".rs")

/-- Writes one named text below a directory, cleaned. -/
def writeFile [Monad m] (disk : Disk m) (directory : String) (file : String × String) :
    ExceptT IoError m Unit := do
  let path := filePath directory file.1
  disk.makeParent path
  disk.writeText path (Text.clean file.2)

/-- Writes named texts below a directory, one after the other; those before a failure stay. -/
def writeFiles [Monad m] (disk : Disk m) (directory : String) (files : List (String × String)) :
    ExceptT IoError m Unit := do
  disk.makeDirectories directory
  files.forM (writeFile disk directory)

/-- Writes generated files and `mod.rs`; gives the names of the files. -/
def writeAll [Monad m] (disk : Disk m) (directory : String) (files : List SourceFile) :
    ExceptT IoError m (List String) := do
  if files.isEmpty then return []
  let names := files.map (·.name)
  writeFiles disk directory (files.map fun file => (file.name, file.text))
  disk.writeText (Path.below directory "mod.rs") (Generation.moduleIndex names)
  return names ++ ["mod.rs"]

/-- Generates and writes the files for a request. -/
def compile [Monad m] (disk : Disk m) (request : Request) (flags : ModeFlags) (directory : String)
    (paths : ModulePaths) : ExceptT RunError m RunSummary := do
  let run := Generation.ofRequest request flags paths
  match (run.files WrapperOwners.empty).1 with
  | .error e => throw (.generation e)
  | .ok files => return ⟨run.mode, ← (writeAll disk directory files).adapt .io⟩

end Run

end RegionGateway
