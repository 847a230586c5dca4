import RegionGateway.Files.Path
import RegionGateway.Output.ModulePaths

/-!
# Configuration

The settings of a program run: where the request is, where generated files go, what is generated and
what is logged. Every setting has a default.
-/

namespace RegionGateway

/-- What the surroundings of a program say. -/
structure Environment where
  /-- The output directory of a build. -/
  buildDirectory : Option String
  workingDirectory : Option String
  /-- The user's configuration file, which need not exist. -/
  userConfiguration : Option String
  /-- The filter for log lines, instead of the configured one. -/
  logFilter : Option String

/-- Where generated files go if nothing else is said: to the output directory of a build, else to a
directory in the working directory. -/
def Environment.outputDirectory (environment : Environment) : String :=
  environment.buildDirectory.getD
    (environment.workingDirectory.elim "generated" fun directory => Path.below directory "generated")

/-- What is logged and where. -/
structure LoggingSettings where
  /-- A level or filter directives. -/
  level : String
  /-- A file for log lines instead of standard error. -/
  file : Option String
  deriving DecidableEq

/-- What is generated and where. -/
structure CodegenSettings where
  /-- The file that the request is read from. -/
  inputPath : String
  /-- Where generated files go. -/
  outputDirectory : String
  /-- Generator parameters on top of those of the request. -/
  parameter : Option String
  /-- Whether generated files are formatted by a tool. -/
  rustfmt : Bool
  paths : ModulePaths
  deriving DecidableEq

/-- The settings of a run. -/
structure Configuration where
  logging : LoggingSettings
  codegen : CodegenSettings
  deriving DecidableEq

/-- The settings of a run about which nothing is said. -/
def Configuration.default (environment : Environment) : Configuration :=
  ⟨⟨"info", none⟩, ⟨"request.json", environment.outputDirectory, none, false, .standard⟩⟩

end RegionGateway
