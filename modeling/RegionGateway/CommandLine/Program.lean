import RegionGateway.CommandLine.Arguments
import RegionGateway.CommandLine.LogFilter
import RegionGateway.Output.Run

/-!
# The program

What a call of the program does, from its arguments to its exit code. The configuration is read first,
then logging is set up, then the run starts; the first failure ends the program.
-/

namespace RegionGateway

/-- Why the program ends without success. -/
inductive ProgramError where
  | configuration (error : ConfigurationError)
  | logging (error : LoggingError)
  | run (error : RunError)

/-- The wording of a failure. -/
def ProgramError.message : ProgramError → String
  | .configuration error => error.message
  | .logging error => error.message
  | .run error => error.message

/-- The exit code of a failure. A filter with a torn piece is not refused; the program breaks down. -/
def ProgramError.exitCode : ProgramError → UInt8
  | .logging (.badLevel _ .torn) => 101
  | _ => 1

namespace Run

/-- The modes that a configured parameter asks for. -/
def configuredFlags (parameter : Option String) : ModeFlags :=
  parameter.elim .none fun text => .ofParameters ((Text.split ',' text).map Text.trim)

/-- The run that a configuration describes. -/
def ofConfiguration [Monad m] (disk : Disk m) (configuration : Configuration) (flags : ModeFlags) :
    ExceptT RunError m RunSummary := do
  let codegen := configuration.codegen
  if ← disk.isThere codegen.inputPath then
    let request ← (Request.load disk codegen.inputPath).adapt .badRequest
    compile disk request (flags.union (configuredFlags codegen.parameter)) codegen.outputDirectory
      codegen.paths
  else throw (.requestNotFound codegen.inputPath)

end Run

namespace Program

/-- The name of the program. -/
def name : String := "restgate"

/-- The version of the program. -/
def version : String := "0.1.0"

/-- What the program prints and how it ends. -/
structure Outcome where
  exitCode : UInt8
  output : String
  complaint : String
  deriving DecidableEq

/-- The wording of a refusal of arguments. -/
def usageMessage : UsageError → String
  | .unknown => "error: unexpected argument found\n"
  | .badValue => "error: a value is required for an option but none was supplied\n"
  | .repeated => "error: an option cannot be used multiple times\n"
  | .unwantedValue => "error: unexpected value for a flag found; no more were expected\n"

/-- How the program is called. -/
def usage : String :=
  "Usage: restgate [--input <INPUT>] [--output <OUTPUT>] [--config <CONFIG>] [--genapi] [--genclient]\n" ++
    "                [--gentest] [--gentestutil] [--log-level <LOG_LEVEL>] [--rustfmt]\n"

/-- Runs the generator as the arguments say. -/
def generate [Monad m] (disk : Disk m) (environment : Environment) (arguments : Arguments) :
    ExceptT ProgramError m RunSummary := do
  let configuration ← (arguments.configuration disk environment).adapt .configuration
  let logging := configuration.logging
  (Logging.start disk environment.logFilter logging.level logging.file).adapt .logging
  (Run.ofConfiguration disk configuration arguments.modeFlags).adapt .run

/-- The line that reports a success. -/
def report (summary : RunSummary) : String :=
  name ++ ": generated " ++ summary.mode.name ++ " code, " ++
    String.ofList (Nat.toDigits 10 summary.files.length) ++ " files\n"

/-- A call of the program. -/
def run [Monad m] (disk : Disk m) (environment : Environment) (arguments : List String) :
    m Outcome := do
  match Command.parse arguments with
  | .error e => return ⟨2, "", usageMessage e⟩
  | .ok .help => return ⟨0, usage, ""⟩
  | .ok .version => return ⟨0, name ++ " " ++ version ++ "\n", ""⟩
  | .ok (.run arguments) =>
    match ← (generate disk environment arguments).run with
    | .ok summary => return ⟨0, report summary, ""⟩
    | .error e => return ⟨e.exitCode, "", name ++ ": " ++ e.message ++ "\n"⟩

end Program

end RegionGateway
