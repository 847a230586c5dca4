import RegionGateway.Configuration.Basic
import RegionGateway.Toml.Read

/-!
# Configurations as TOML documents

A section is written as a table. When a section is read, a list of its settings in order will do as
well; a setting that is not there has its default. Other keys are passed over, but the numbers under
them have to have a value. What follows the settings in a list is not looked at.
-/

namespace RegionGateway

namespace Toml

/-- Text. -/
def text? : Toml → Option String
  | .str s => some s
  | _ => none

/-- A truth value. -/
def flag? : Toml → Option Bool
  | .bool b => some b
  | _ => none

/-- Whether a value can be a section. A date can, as one without settings. -/
def isSection : Toml → Bool
  | .table _ => true
  | .arr _ => true
  | .date => true
  | _ => false

/-- The setting of a section with a name, if it is there; `names` are the names of the settings in
order. -/
def setting? (names : List String) (v : Toml) (name : String) : Option Toml :=
  match v with
  | .table members => members.lookup name
  | .arr items => items[names.idxOf name]?
  | _ => none

/-- A value read by `read?`, or the default if there is none. -/
def orDefault (default : α) (read? : Toml → Option α) : Option Toml → Option α
  | none => some default
  | some v => read? v

/-- Whether what stands in a table beside its settings can be passed over. -/
def isSoundBeside (names : List String) : Toml → Bool
  | .table members => membersAreSound (members.filter fun m => !names.contains m.1)
  | _ => true

/-- A section whose settings have the given names, read by a function of its settings. -/
def section? (names : List String) (read? : (String → Option Toml) → Option α) (v : Toml) : Option α :=
  if v.isSection && v.isSoundBeside names then read? (v.setting? names) else none

end Toml

namespace Configuration

/-- The paths of modules in a section. -/
def paths? (default : ModulePaths) : Toml → Option ModulePaths :=
  Toml.section? ["proto_module", "api_module", "client_module", "testutil_module", "runtime_crate"]
    fun setting => do
      let path := fun (name default : String) => Toml.orDefault default Toml.text? (setting name)
      return ⟨← path "proto_module" default.messages, ← path "api_module" default.wrappers,
        ← path "client_module" default.bindings, ← path "testutil_module" default.testHelpers,
        ← path "runtime_crate" default.runtime⟩

/-- The settings for code generation in a section. -/
def codegen? (default : CodegenSettings) : Toml → Option CodegenSettings :=
  Toml.section? ["input_path", "output_dir", "parameter", "rustfmt", "paths"] fun setting => do
    return ⟨← Toml.orDefault default.inputPath Toml.text? (setting "input_path"),
      ← Toml.orDefault default.outputDirectory Toml.text? (setting "output_dir"),
      ← Toml.orDefault default.parameter (fun v => v.text?.map some) (setting "parameter"),
      ← Toml.orDefault default.rustfmt Toml.flag? (setting "rustfmt"),
      ← Toml.orDefault default.paths (paths? default.paths) (setting "paths")⟩

/-- The settings for logging in a section. -/
def logging? (default : LoggingSettings) : Toml → Option LoggingSettings :=
  Toml.section? ["level", "file"] fun setting => do
    return ⟨← Toml.orDefault default.level Toml.text? (setting "level"),
      ← Toml.orDefault default.file (fun v => v.text?.map some) (setting "file")⟩

/-- The configuration in a table. -/
def configuration? (default : Configuration) : Toml → Option Configuration :=
  Toml.section? ["logging", "codegen"] fun setting => do
    return ⟨← Toml.orDefault default.logging (logging? default.logging) (setting "logging"),
      ← Toml.orDefault default.codegen (codegen? default.codegen) (setting "codegen")⟩

/-- The configuration that a document describes. -/
def parse (default : Configuration) (text : String) : Except Toml.Refusal Configuration := do
  match configuration? default (.table (← Toml.read text)) with
  | some configuration => return configuration
  | none => throw .malformed

/-- A line with a setting. -/
def settingLine (name value : String) : String := name ++ " = " ++ value ++ "\n"

/-- A line with a setting that is text. -/
def textLine (name value : String) : String :=
  settingLine name (String.ofList (Toml.StringText.write value.toList))

/-- A line with a setting that may be absent. -/
def textLine? (name : String) (value : Option String) : String := value.elim "" (textLine name)

/-- The document that a configuration is saved as. -/
def document (configuration : Configuration) : String :=
  let logging := configuration.logging
  let codegen := configuration.codegen
  let paths := codegen.paths
  "[logging]\n" ++ textLine "level" logging.level ++ textLine? "file" logging.file ++
    "\n[codegen]\n" ++ textLine "input_path" codegen.inputPath ++
    textLine "output_dir" codegen.outputDirectory ++ textLine? "parameter" codegen.parameter ++
    settingLine "rustfmt" (if codegen.rustfmt then "true" else "false") ++
    "\n[codegen.paths]\n" ++ textLine "proto_module" paths.messages ++
    textLine "api_module" paths.wrappers ++ textLine "client_module" paths.bindings ++
    textLine "testutil_module" paths.testHelpers ++ textLine "runtime_crate" paths.runtime

end Configuration

end RegionGateway
