import RegionGateway.Configuration.Storage
import RegionGateway.Output.Mode

/-!
# Arguments

The command line knows flags, and options with a value: the value is attached with an equals sign or is
the next argument, unless that begins with a hyphen. An option that waits for its value is settled when
the next one is met, and at the end; so of two faults the one that is noticed first wins.
-/

namespace RegionGateway

/-- An option with a value. -/
inductive ValueOption where
  | input
  | output
  | config
  | logLevel
  deriving DecidableEq

/-- An option without value. -/
inductive FlagOption where
  | api
  | client
  | test
  | testHelper
  | rustfmt
  deriving DecidableEq

/-- Why a command line is refused. -/
inductive UsageError where
  /-- An argument is not known. -/
  | unknown
  /-- A value is missing, or empty where that means nothing. -/
  | badValue
  /-- An option is given twice. -/
  | repeated
  /-- A flag is given a value. -/
  | unwantedValue
  deriving DecidableEq

/-- What the command line says. -/
structure Arguments where
  values : List (ValueOption × String)
  flags : List FlagOption
  deriving DecidableEq

/-- What a command line asks for. -/
inductive Command where
  | run (arguments : Arguments)
  | help
  | version
  deriving DecidableEq

namespace Arguments

/-- Nothing is said. -/
def empty : Arguments := ⟨[], []⟩

/-- The value of an option. -/
def value? (arguments : Arguments) (option : ValueOption) : Option String :=
  arguments.values.lookup option

/-- Whether a flag is set. -/
def has (arguments : Arguments) (flag : FlagOption) : Bool := arguments.flags.any (· == flag)

/-- The modes asked for. -/
def modeFlags (arguments : Arguments) : ModeFlags :=
  ⟨arguments.has .api, arguments.has .client, arguments.has .test, arguments.has .testHelper⟩

/-- The configuration of a run: that of a file, with the options that are given instead. -/
def configuration [Monad m] (disk : Disk m) (environment : Environment) (arguments : Arguments) :
    ExceptT ConfigurationError m Configuration := do
  let loaded ← Configuration.load disk environment (arguments.value? .config)
  let codegen := loaded.codegen
  return {
    logging := { loaded.logging with
      level := (arguments.value? .logLevel).getD loaded.logging.level }
    codegen := { codegen with
      inputPath := (arguments.value? .input).getD codegen.inputPath
      outputDirectory := (arguments.value? .output).getD codegen.outputDirectory
      rustfmt := codegen.rustfmt || arguments.has .rustfmt }
  }

end Arguments

namespace Command

/-- What an option is named for. -/
inductive OptionName where
  | value (option : ValueOption)
  | flag (option : FlagOption)
  | help
  | version

/-- The option of a name; names are not abbreviated. -/
def optionName? : String → Option OptionName
  | "input" => some (.value .input)
  | "output" => some (.value .output)
  | "config" => some (.value .config)
  | "log-level" => some (.value .logLevel)
  | "genapi" => some (.flag .api)
  | "genclient" => some (.flag .client)
  | "gentest" => some (.flag .test)
  | "gentestutil" => some (.flag .testHelper)
  | "rustfmt" => some (.flag .rustfmt)
  | "help" => some .help
  | "version" => some .version
  | _ => none

/-- What an argument is. -/
inductive Word where
  /-- The mark after which no options follow. -/
  | endOfOptions
  | option (name : OptionName) (attached : Option String)
  /-- Something that begins with a hyphen and is not known. -/
  | unknown
  /-- Anything else; a single hyphen too. -/
  | operand

/-- What an argument is. -/
def word (argument : String) : Word :=
  match argument.toList with
  | ['-', '-'] => .endOfOptions
  | '-' :: '-' :: long =>
    let attached := match long.dropWhile (· != '=') with
      | [] => none
      | _ :: value => some (String.ofList value)
    match optionName? (String.ofList (long.takeWhile (· != '='))) with
    | some name => .option name attached
    | none => .unknown
  | '-' :: 'h' :: _ => .option .help none
  | '-' :: 'V' :: _ => .option .version none
  | '-' :: _ :: _ => .unknown
  | _ => .operand

/-- Adds the value of an option. -/
def addValue (said : Arguments) (option : ValueOption) (value : String) :
    Except UsageError Arguments :=
  if (said.value? option).isSome then .error .repeated
  else if value = "" ∧ option ≠ .logLevel then .error .badValue
  else .ok { said with values := said.values ++ [(option, value)] }

/-- Sets a flag. -/
def addFlag (said : Arguments) (option : FlagOption) : Except UsageError Arguments :=
  if said.has option then .error .repeated else .ok { said with flags := said.flags ++ [option] }

/-- The option that waits for its value or has just got it. -/
abbrev Waiting := Option (ValueOption × Option String)

/-- Settles the option that waits. -/
def settle (said : Arguments) : Waiting → Except UsageError Arguments
  | none => .ok said
  | some (_, none) => .error .badValue
  | some (option, some value) => addValue said option value

/-- Reads arguments after what is said so far. -/
def ofArguments (said : Arguments) (waiting : Waiting) : List String → Except UsageError Command
  | [] => .run <$> settle said waiting
  | argument :: rest =>
    match word argument with
    | .unknown => .error .unknown
    | .endOfOptions => if rest.isEmpty then .run <$> settle said waiting else .error .unknown
    | .operand =>
      match waiting with
      | some (option, none) => ofArguments said (some (option, some argument)) rest
      | _ => .error .unknown
    | .option (.value option) none => do
      ofArguments (← settle said waiting) (some (option, none)) rest
    | .option (.value option) (some value) => do
      ofArguments (← addValue (← settle said waiting) option value) none rest
    | .option _ (some _) => .error .unwantedValue
    | .option (.flag option) none => do
      ofArguments (← addFlag (← settle said waiting) option) none rest
    | .option .help none => do
      let _ ← settle said waiting
      return .help
    | .option .version none => do
      let _ ← settle said waiting
      return .version

/-- What a command line asks for. -/
def parse (arguments : List String) : Except UsageError Command :=
  ofArguments .empty none arguments

end Command

end RegionGateway
