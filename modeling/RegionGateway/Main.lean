import RegionGateway.CommandLine.Program

/-!
# The command line

Runs the program on the files of the machine, with the environment it is called in. Generated files
are left as they are written; no formatter is started.
-/

namespace RegionGateway

/-- The cause of a failed operation on the files of the machine. -/
def IoError.ofMachine : IO.Error → IoError
  | .noFileOrDirectory _ _ _ => .notFound
  | .alreadyExists _ _ _ => .alreadyExists
  | .inappropriateType _ code _ => if code = 20 then .notDirectory else .isDirectory
  | error => .other (toString error)

/-- An operation on the files of the machine. -/
def onMachine (action : IO α) : ExceptT IoError IO α :=
  ExceptT.mk do
    match ← action.toBaseIO with
    | .ok value => return .ok value
    | .error error => return .error (IoError.ofMachine error)

/-- The files of the machine. -/
def machineDisk : Disk IO where
  isThere path := do
    match ← (IO.FS.realPath path).toBaseIO with
    | .ok _ => return true
    | .error _ => return false
  read path := return (← onMachine (IO.FS.readBinFile path)).toList
  write path content := onMachine (IO.FS.writeBinFile path (ByteArray.mk content.toArray))
  makeDirectories path := onMachine (IO.FS.createDirAll path)
  openAtEnd path := onMachine do
    let _ ← IO.FS.Handle.mk path .append

/-- The user's configuration file. -/
def userConfigurationPath : IO (Option String) := do
  let directory := match ← IO.getEnv "XDG_CONFIG_HOME", ← IO.getEnv "HOME" with
    | some directory, home =>
      if Path.isAbsolute directory then some directory else home.map (Path.below · ".config")
    | none, home => home.map (Path.below · ".config")
  return directory.map fun directory => Path.below directory "restgate/config.toml"

/-- What the surroundings of the program say. -/
def machineEnvironment : IO Environment := do
  let directory ← IO.currentDir.toBaseIO
  return {
    buildDirectory := ← IO.getEnv "OUT_DIR"
    workingDirectory := directory.toOption.map toString
    userConfiguration := ← userConfigurationPath
    logFilter := ← IO.getEnv "RUST_LOG"
  }

end RegionGateway

/-- A call of the program from the command line. -/
def main (arguments : List String) : IO UInt32 := do
  let outcome ← RegionGateway.Program.run RegionGateway.machineDisk
    (← RegionGateway.machineEnvironment) arguments
  IO.print outcome.output
  IO.eprint outcome.complaint
  return outcome.exitCode.toUInt32
