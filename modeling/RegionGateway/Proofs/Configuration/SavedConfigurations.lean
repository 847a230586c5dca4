import RegionGateway.Configuration.Storage
import RegionGateway.Proofs.Files.Overlays
import RegionGateway.Proofs.Toml.Sections

/-!
# Configurations that are saved and loaded

Every configuration is read back from the document that it is saved as (`Configuration.parse_document`),
whatever the defaults are for what a document does not say: all that is left out is what is absent. So a
configuration that has been saved is loaded as it was (`Configuration.saved_and_loaded`).
-/

namespace RegionGateway

open Toml (Setting Reads IsBare)

/-! ## Settings -/

namespace Toml.Setting

/-- A setting that is text. -/
def ofText (name value : String) (bare : IsBare name) : Setting where
  name := name
  text := StringText.write value.toList
  value := .str value
  bare := bare
  shows := by simpa using shows_write value.toList

/-- A setting that may be absent. -/
def ofText? (name : String) (value : Option String) (bare : IsBare name) : List Setting :=
  value.elim [] fun value => [ofText name value bare]

/-- A setting that is a truth value. -/
def ofFlag (name : String) (value : Bool) (bare : IsBare name) : Setting where
  name := name
  text := (if value then "true" else "false").toList
  value := .bool value
  bare := bare
  shows := by
    cases value
    · exact shows_false
    · exact shows_true

end Toml.Setting

/-- The settings for logging as they are written. -/
def LoggingSettings.settings (logging : LoggingSettings) : List Setting :=
  .ofText "level" logging.level (by decide) :: Setting.ofText? "file" logging.file (by decide)

/-- The settings for code generation as they are written, without those of the paths. -/
def CodegenSettings.settings (codegen : CodegenSettings) : List Setting :=
  [.ofText "input_path" codegen.inputPath (by decide),
    .ofText "output_dir" codegen.outputDirectory (by decide)] ++
  Setting.ofText? "parameter" codegen.parameter (by decide) ++
  [.ofFlag "rustfmt" codegen.rustfmt (by decide)]

/-- The paths of modules as they are written. -/
def ModulePaths.settings (paths : ModulePaths) : List Setting :=
  [.ofText "proto_module" paths.messages (by decide), .ofText "api_module" paths.wrappers (by decide),
    .ofText "client_module" paths.bindings (by decide),
    .ofText "testutil_module" paths.testHelpers (by decide),
    .ofText "runtime_crate" paths.runtime (by decide)]

namespace Configuration

/-! ## Documents -/

theorem line_ofText (name value : String) (bare : IsBare name) :
    (Setting.ofText name value bare).line = (textLine name value).toList := by
  simp [textLine, settingLine, Setting.line, Setting.ofText]

theorem lines_ofText? (name : String) (value : Option String) (bare : IsBare name) :
    (Setting.ofText? name value bare).flatMap Setting.line = (textLine? name value).toList := by
  cases value with
  | none => rfl
  | some value => exact (List.append_nil _).trans (line_ofText name value bare)

theorem line_ofFlag (name : String) (value : Bool) (bare : IsBare name) :
    (Setting.ofFlag name value bare).line =
      (settingLine name (if value then "true" else "false")).toList := by
  simp [settingLine, Setting.line, Setting.ofFlag]

/-- A document has a section for logging, one for code generation and one for paths. -/
theorem toList_document (c : Configuration) : c.document.toList =
    '[' :: (Toml.dotted [] "logging" ++ [']', '\n']) ++ c.logging.settings.flatMap Setting.line ++
    (['\n'] ++ ('[' :: (Toml.dotted [] "codegen" ++ [']', '\n']) ++
      c.codegen.settings.flatMap Setting.line) ++
    (['\n'] ++ ('[' :: (Toml.dotted ["codegen"] "paths" ++ [']', '\n']) ++
      c.codegen.paths.settings.flatMap Setting.line))) := by
  have hlogging : '[' :: (Toml.dotted [] "logging" ++ [']', '\n']) = "[logging]\n".toList := rfl
  have hcodegen : '[' :: (Toml.dotted [] "codegen" ++ [']', '\n']) = "[codegen]\n".toList := rfl
  have hpaths : '[' :: (Toml.dotted ["codegen"] "paths" ++ [']', '\n']) = "[codegen.paths]\n".toList := rfl
  have hcodegen' : "\n[codegen]\n".toList = ['\n'] ++ "[codegen]\n".toList := rfl
  have hpaths' : "\n[codegen.paths]\n".toList = ['\n'] ++ "[codegen.paths]\n".toList := rfl
  rw [hlogging, hcodegen, hpaths]
  unfold document LoggingSettings.settings CodegenSettings.settings ModulePaths.settings
  dsimp only
  simp only [String.toList_append, hcodegen', hpaths', List.flatMap_cons, List.flatMap_append,
    List.flatMap_nil, line_ofText, lines_ofText?, line_ofFlag, List.append_assoc, List.append_nil]

/-- What a document says. -/
def members (c : Configuration) : List (String × Toml) :=
  [("logging", .table (Setting.members c.logging.settings)),
    ("codegen", .table (Setting.members c.codegen.settings ++
      [("paths", .table (Setting.members c.codegen.paths.settings))]))]

theorem nodup_logging (logging : LoggingSettings) : (logging.settings.map (·.name)).Nodup := by
  unfold LoggingSettings.settings
  cases logging.file
  · show ["level"].Nodup
    decide
  · show ["level", "file"].Nodup
    decide

theorem nodup_codegen (codegen : CodegenSettings) : (codegen.settings.map (·.name)).Nodup := by
  unfold CodegenSettings.settings
  cases codegen.parameter
  · show ["input_path", "output_dir", "rustfmt"].Nodup
    decide
  · show ["input_path", "output_dir", "parameter", "rustfmt"].Nodup
    decide

theorem nodup_paths (paths : ModulePaths) : (paths.settings.map (·.name)).Nodup := by
  show ["proto_module", "api_module", "client_module", "testutil_module", "runtime_crate"].Nodup
  decide

/-- The section of paths is not among the settings for code generation. -/
theorem lookup_paths (codegen : CodegenSettings) :
    (Setting.nodes codegen.settings).lookup "paths" = none := by
  unfold CodegenSettings.settings
  cases codegen.parameter <;> rfl

/-- The document is read section by section. -/
theorem read_document (c : Configuration) : Toml.read c.document = .ok c.members := by
  have hlogging := Toml.reads_section Toml.Node.opens_nil (List.forall_mem_nil _) (by decide) []
    "logging" [] (by decide) rfl (nodup_logging c.logging)
  have hcodegen := Toml.reads_section Toml.Node.opens_nil (List.forall_mem_nil _) (by decide) ["logging"]
    "codegen" [("logging", .table .defined (Setting.nodes c.logging.settings))] (by decide) rfl
    (nodup_codegen c.codegen)
  have hpaths := Toml.reads_section (Toml.Node.opens_key "codegen"
      [("logging", .table .defined (Setting.nodes c.logging.settings))] rfl)
    (by decide) (by decide) ["codegen"] "paths" (Setting.nodes c.codegen.settings) (by decide)
    (lookup_paths c.codegen) (nodup_paths c.codegen.paths)
  have hreads := hlogging.append (((Toml.reads_blank _).append hcodegen).append
    ((Toml.reads_blank _).append hpaths))
  rw [← toList_document] at hreads
  have hmark : c.document.toList.head? ≠ some '\uFEFF' := by
    rw [toList_document]
    exact fun hsame => absurd (Option.some.inj hsame) (by decide)
  rw [Toml.read_of_reads hmark hreads]
  simp only [Toml.Node.finishMembers_append, Toml.Node.finishMembers, Toml.Node.finish,
    Setting.finishMembers_nodes, members, List.cons_append, List.nil_append]

/-- The defaults that matter are those of settings that are absent. -/
theorem configuration?_members (c : Configuration) (environment : Environment) :
    configuration? (.default environment) (.table c.members) = some c := by
  obtain ⟨⟨level, file⟩, ⟨inputPath, outputDirectory, parameter, rustfmt, paths⟩⟩ := c
  cases file <;> cases parameter <;> rfl

/-- Every configuration is read back, whatever the defaults are. -/
theorem parse_document (c : Configuration) (environment : Environment) :
    parse (.default environment) c.document = .ok c := by
  unfold parse
  rw [read_document]
  dsimp only [bind, Except.bind]
  rw [configuration?_members]
  rfl

/-! ## Files -/

section

variable {c : Configuration} {path : String} {tree after : FileTree}
  (h : save FileTree.disk path c tree = (.ok (), after))
include h

theorem read_of_saved : after.read path = .ok (Utf8.bytes c.document) := by
  cases hwrite : (FileTree.disk.writeText path c.document : Attempt FileTree IoError Unit) tree with
  | mk result between =>
      have hsave := (Attempt.adapt_eq ConfigurationError.file hwrite).symm.trans h
      cases result with
      | error error => cases hsave
      | ok _ =>
          cases hsave
          exact FileTree.read_of_writeText hwrite

theorem ofFile_of_saved (environment : Environment) :
    ofFile FileTree.disk environment path after = (.ok c, after) := by
  have htext := Attempt.adapt_eq ConfigurationError.file (FileTree.readText_of_read (read_of_saved h))
  refine (Attempt.bind_ok _ htext).trans ?_
  rw [parse_document]
  rfl

/-- The file is there when a run asks for it by its name. -/
theorem load_of_saved (environment : Environment) :
    load FileTree.disk environment (some path) after = (.ok c, after) := by
  have hthere := FileTree.disk_isThere ConfigurationError path after
  rw [FileTree.isThere_of_read (read_of_saved h)] at hthere
  exact (Attempt.bind_ok _ hthere).trans (ofFile_of_saved h environment)

end

/-- A configuration is read back from what it is saved as, wherever the program runs. -/
structure ReadBack (c : Configuration) : Prop where
  parsed : ∀ environment, parse (.default environment) c.document = .ok c
  /-- The document is what stands in a file after the configuration has been saved there, -/
  saved : ∀ path tree after, save FileTree.disk path c tree = (.ok (), after) →
    after.read path = .ok (Utf8.bytes c.document)
  /-- the configuration is read from there, and nothing else changes, -/
  read : ∀ environment path tree after, save FileTree.disk path c tree = (.ok (), after) →
    ofFile FileTree.disk environment path after = (.ok c, after)
  /-- also by a run that is given the path. -/
  loaded : ∀ environment path tree after, save FileTree.disk path c tree = (.ok (), after) →
    load FileTree.disk environment (some path) after = (.ok c, after)

/-- **Configurations survive saving.** Every configuration, with any texts in its settings and whatever is
absent, is read back from the document that it is saved as, whatever the defaults are where it is read. If
it can be saved to a file, reading that file gives the same configuration. -/
theorem survives_saving (c : Configuration) : c.ReadBack where
  parsed environment := c.parse_document environment
  saved _ _ _ h := read_of_saved h
  read environment _ _ _ h := ofFile_of_saved h environment
  loaded environment _ _ _ h := load_of_saved h environment

/-- A configuration with texts that are written in different ways. -/
def awkward : Configuration where
  logging := ⟨"debug,[\x07]", some "C:\\log's\n\"\"\""⟩
  codegen := ⟨"a\"b", "", some "''' \\", true, ⟨"two\nlines", "\"\"", "''\\\"", "é\t", "\x7f\r\n"⟩⟩

theorem survives_saving_awkward :
    (∃ after, save FileTree.disk "conf.toml" awkward ⟨[], []⟩ = (.ok (), after)) ∧ awkward.ReadBack := by
  have hsaved : faultOf (save FileTree.disk "conf.toml" awkward ⟨[], []⟩).1 = none := by
    decide +kernel
  obtain ⟨_, hdone⟩ := faultOf_eq_none.mp hsaved
  exact ⟨⟨_, Prod.ext hdone rfl⟩, survives_saving awkward⟩

end Configuration

end RegionGateway
