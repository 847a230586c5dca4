import Mathlib.Data.List.Nodup
import RegionGateway.Output.Run
import RegionGateway.Proofs.Files.Overlays
import RegionGateway.Proofs.Output.Files
import RegionGateway.Widgets.Interface

/-!
# What a run leaves behind

The names that a run writes below its output directory are different names of files, whatever the
interface files are called (`isName_outputs`, `nodup_outputs`). Each step of writing goes along the texts
that are written (`advances_writeAll`): a run that succeeds has written all of them
(`writes_what_it_generates`), one that fails a first part of them (`stops_on_the_way`). Formatting of written
files is off: with it on, each text would be changed where it stands.
-/

namespace RegionGateway

/-! ## Names of files -/

theorem FileDecl.isName (file : FileDecl) : Path.IsName (file.moduleName ++ ".rs") :=
  Path.isName_append _ fun hslash => absurd (isModuleChar_of_mem hslash) (by decide)

namespace Run

/-- The texts that a run writes, each with its name: those of the files, cleaned, and `mod.rs`. -/
def outputs : List SourceFile → List (String × String)
  | [] => []
  | first :: rest =>
    let files := first :: rest
    (files.map fun file => (file.name, Text.clean file.text)) ++
      [("mod.rs", Generation.moduleIndex (files.map (·.name)))]

/-- What texts are as files below a directory. -/
def contents (directory : String) (outputs : List (String × String)) : List (String × Bytes) :=
  outputs.map fun output => (Path.below directory output.1, Utf8.bytes output.2)

theorem filePath_name (directory : String) (file : SourceFile) :
    filePath directory file.name = Path.below directory file.name := by
  rw [filePath, SourceFile.name, Text.dropEnd?_append]
  rfl

/-! ## Writing -/

variable {directory : String}

theorem advances_writeFile (file : SourceFile) (h : Path.IsName file.name) :
    Attempt.Advances (FileTree.Overlaid directory) (contents directory [(file.name, Text.clean file.text)])
      (writeFile FileTree.disk directory (file.name, file.text) : Attempt FileTree IoError Unit) := by
  unfold writeFile
  dsimp only
  rw [filePath_name]
  exact Attempt.advances_bind_of_leads (FileTree.traced_overlaid directory) (FileTree.leads_makeParent h)
    (fun _ => FileTree.advances_writeText h _) (List.cons_ne_nil _ _)

theorem advances_writeFiles {files : List SourceFile} (h : ∀ file ∈ files, Path.IsName file.name)
    (hfiles : files ≠ []) :
    Attempt.Advances (FileTree.Overlaid directory)
      (contents directory (files.map fun file => (file.name, Text.clean file.text)))
      (writeFiles FileTree.disk directory (files.map fun file => (file.name, file.text)) :
        Attempt FileTree IoError Unit) := by
  have htraced := FileTree.traced_overlaid directory
  have hcontents : contents directory (files.map fun file => (file.name, Text.clean file.text)) =
      (files.map fun file => (file.name, file.text)).flatMap
        fun named => contents directory [(named.1, Text.clean named.2)] := by
    simp only [contents, List.map_map, List.flatMap_map, List.map_cons, List.map_nil, Function.comp_def]
    rw [List.map_eq_flatMap]
  have hloop : ∀ named ∈ files.map fun file => (file.name, file.text),
      Attempt.Advances (FileTree.Overlaid directory) (contents directory [(named.1, Text.clean named.2)])
        (writeFile FileTree.disk directory named : Attempt FileTree IoError Unit) := by
    intro named hnamed
    obtain ⟨file, hfile, rfl⟩ := List.mem_map.mp hnamed
    exact advances_writeFile file (h file hfile)
  unfold writeFiles
  refine Attempt.advances_bind_of_leads htraced (FileTree.leads_makeDirectories directory) (fun _ => ?_) ?_
  · rw [hcontents]
    exact Attempt.advances_forM htraced _ hloop
  · simpa [contents] using hfiles

/-- Writing goes along what is to be written. -/
theorem advances_writeAll {files : List SourceFile} (h : ∀ file ∈ files, Path.IsName file.name) :
    Attempt.Advances (FileTree.Overlaid directory) (contents directory (outputs files))
      (writeAll FileTree.disk directory files : Attempt FileTree IoError (List String)) := by
  have htraced := FileTree.traced_overlaid directory
  cases files with
  | nil => exact Attempt.advances_pure htraced []
  | cons first rest =>
      unfold writeAll outputs contents
      rw [List.map_append]
      refine Attempt.advances_bind htraced (advances_writeFiles h (by simp)) fun _ => ?_
      rw [← List.append_nil (List.map _ [_])]
      refine Attempt.advances_bind htraced ?_ fun _ => Attempt.advances_pure htraced _
      exact FileTree.advances_writeText Path.isName_mod _

/-- A tree after texts were written under names in a directory. -/
structure Written (directory : String) (before : FileTree) (outputs : List (String × String))
    (after : FileTree) : Prop where
  workingDirectory : after.workingDirectory = before.workingDirectory
  /-- The path of each name leads to a place of that name in the directory, where its text stands. -/
  located : ∀ output ∈ outputs, after.locate (Path.below directory output.1) =
    .ok (before.placeOf directory ++ [output.1])
  text : ∀ output ∈ outputs, after.entryAt (before.placeOf directory ++ [output.1]) =
    some (.file (Utf8.bytes output.2))
  /-- Any other place is as it was, or a new directory on the way to the directory. -/
  frame : ∀ place, (∀ output ∈ outputs, place ≠ before.placeOf directory ++ [output.1]) →
    after.entryAt place = before.entryAt place ∨
      before.entryAt place = none ∧ after.entryAt place = some .directory ∧
        place ∈ before.wayTo directory

theorem lastWritten_contents_eq_none {tree : FileTree} {outputs : List (String × String)} {place : Place}
    (hnames : ∀ output ∈ outputs, Path.IsName output.1) :
    tree.lastWritten (contents directory outputs) place = none ↔
      ∀ output ∈ outputs, place ≠ tree.placeOf directory ++ [output.1] := by
  rw [FileTree.lastWritten_eq_none, contents, List.forall_mem_map]
  refine forall₂_congr fun output houtput => ?_
  rw [tree.placeOf_below (hnames output houtput)]

/-- Texts under different names stay as they are written. -/
theorem lastWritten_contents {tree : FileTree} {outputs : List (String × String)}
    (hnames : ∀ output ∈ outputs, Path.IsName output.1) (hnodup : (outputs.map (·.1)).Nodup)
    {output : String × String} (houtput : output ∈ outputs) :
    tree.lastWritten (contents directory outputs) (tree.placeOf directory ++ [output.1]) =
      some (Utf8.bytes output.2) := by
  induction outputs with
  | nil => cases houtput
  | cons first rest ih =>
      obtain ⟨hfirst, hrest⟩ := List.forall_mem_cons.mp hnames
      obtain ⟨hnew, hnodup⟩ := List.nodup_cons.mp hnodup
      have hsplit : contents directory (first :: rest) =
          [(Path.below directory first.1, Utf8.bytes first.2)] ++ contents directory rest := rfl
      rw [hsplit, FileTree.lastWritten_append]
      rcases List.mem_cons.mp houtput with rfl | hlater
      · have hnone : tree.lastWritten (contents directory rest) (tree.placeOf directory ++ [output.1]) =
            none := by
          refine (lastWritten_contents_eq_none hrest).mpr fun later hlater hsame => hnew ?_
          have hname : output.1 = later.1 := (List.cons.inj (List.append_cancel_left hsame)).1
          exact List.mem_map.mpr ⟨later, hlater, hname.symm⟩
        rw [hnone, Option.none_or, FileTree.lastWritten_singleton,
          if_pos (tree.placeOf_below hfirst).symm]
      · rw [ih hrest hnodup hlater, Option.some_or]

theorem written_of_overlaid {before after : FileTree} {outputs : List (String × String)}
    (hnames : ∀ output ∈ outputs, Path.IsName output.1) (hnodup : (outputs.map (·.1)).Nodup)
    (h : FileTree.Overlaid directory before (contents directory outputs) after) :
    Written directory before outputs after := by
  refine ⟨h.workingDirectory, fun output houtput => ?_, fun output houtput => ?_, fun place hother => ?_⟩
  · rw [← before.placeOf_below (hnames output houtput)]
    exact h.located (Path.below directory output.1, Utf8.bytes output.2) (List.mem_map_of_mem houtput)
  · exact h.written (lastWritten_contents hnames hnodup houtput)
  · exact h.frame ((lastWritten_contents_eq_none hnames).mpr hother)

theorem writeAll_names {files : List SourceFile} {names : List String} {before after : FileTree}
    (h : (writeAll FileTree.disk directory files : Attempt FileTree IoError (List String)) before =
      (.ok names, after)) : names = (outputs files).map (·.1) := by
  cases files with
  | nil =>
      cases h
      rfl
  | cons first rest =>
      obtain ⟨_, _, _, h⟩ := Attempt.bind_eq_ok h
      obtain ⟨_, _, _, h⟩ := Attempt.bind_eq_ok h
      cases h
      simp [outputs]

/-- What a run does: it fails to generate, or it writes what is generated. -/
theorem compile_cases {request : Request} {flags : ModeFlags} {paths : ModulePaths}
    {before after : FileTree} {result : Except RunError RunSummary}
    (h : compile FileTree.disk request flags directory paths before = (result, after)) :
    (∃ cause, ((Generation.ofRequest request flags paths).files .empty).1 = .error cause ∧
      result = .error (.generation cause) ∧ after = before) ∨
    ∃ files owners, (Generation.ofRequest request flags paths).files .empty = (.ok files, owners) ∧
      ((∃ names, (writeAll FileTree.disk directory files : Attempt FileTree IoError (List String))
          before = (.ok names, after) ∧
        result = .ok ⟨(Generation.ofRequest request flags paths).mode, names⟩) ∨
      ∃ cause, (writeAll FileTree.disk directory files : Attempt FileTree IoError (List String))
          before = (.error cause, after) ∧ result = .error (.io cause)) := by
  unfold compile at h
  cases hfiles : (Generation.ofRequest request flags paths).files .empty with
  | mk generated owners =>
      rw [hfiles] at h
      cases generated with
      | error cause =>
          cases h
          exact .inl ⟨cause, rfl, rfl, rfl⟩
      | ok files =>
          exact .inr ⟨files, owners, rfl, Attempt.adapt_cases h⟩

/-! ## The text of `mod.rs` -/

/-- The lines of `mod.rs` for a module. -/
def declaration (module : String) : String := "pub mod " ++ module ++ ";\npub use " ++ module ++ "::*;\n"

theorem moduleIndex_eq {modules : List String} (h : "mod" ∉ modules) :
    Generation.moduleIndex (modules.map (· ++ ".rs")) =
      generatedHeader ++ "\n\n" ++ Text.join "" (modules.map declaration) := by
  have hmodules : ∀ module ∈ modules, module ≠ "mod" := fun module hmodule hmod => h (hmod ▸ hmodule)
  rw [Generation.moduleIndex, List.map_map]
  refine congrArg (fun lines => generatedHeader ++ "\n\n" ++ Text.join "" lines) ?_
  refine List.map_congr_left fun module hmodule => ?_
  dsimp only [Function.comp_apply]
  rw [Text.dropEnd?_append, Option.getD_some, if_neg (hmodules module hmodule), declaration]

/-! ## The names that are written -/

section

variable {run : Generation} {owners owners' : WrapperOwners} {files : List SourceFile}
  (hfiles : run.files owners = (.ok files, owners'))
include hfiles

theorem isName_files : ∀ file ∈ files, Path.IsName file.name := by
  refine List.forall_mem_map.mp ?_
  rw [run.names_eq hfiles]
  exact List.forall_mem_map.mpr fun file _ => file.isName

theorem names_outputs : (outputs files).map (·.1) =
    if run.request.gatewayFiles = [] then []
    else run.request.gatewayFiles.map (·.moduleName ++ ".rs") ++ ["mod.rs"] := by
  have hnames := run.names_eq hfiles
  cases files with
  | nil => rw [if_pos (List.map_eq_nil_iff.mp hnames.symm)]; rfl
  | cons first rest =>
      have hsome : run.request.gatewayFiles ≠ [] := by
        intro hnone
        rw [hnone] at hnames
        cases hnames
      rw [if_neg hsome, ← hnames]
      simp [outputs]

theorem isName_outputs : ∀ output ∈ outputs files, Path.IsName output.1 := by
  refine List.forall_mem_map.mp ?_
  rw [names_outputs hfiles]
  split
  · exact List.forall_mem_nil _
  · refine List.forall_mem_append.mpr ⟨List.forall_mem_map.mpr fun file _ => file.isName, ?_⟩
    exact List.forall_mem_singleton.mpr Path.isName_mod

/-- No two of the names are the same, as the modules are different and none is `mod`. -/
theorem nodup_outputs : ((outputs files).map (·.1)).Nodup := by
  obtain ⟨plans, hplan, -⟩ := Generation.files_eq_ok hfiles
  have hmodules := (Generation.plan_eq_ok hplan).modules
  have hinj (module module' : String) (h : module ++ ".rs" = module' ++ ".rs") : module = module' :=
    String.append_left_inj ".rs" |>.mp h
  rw [names_outputs hfiles]
  split
  · exact List.nodup_nil
  · rw [List.nodup_append]
    refine ⟨?_, List.nodup_singleton _, ?_⟩
    · have hnames := hmodules.map fun module module' => hinj module module'
      rwa [List.map_map] at hnames
    · refine List.forall_mem_map.mpr fun file _ => List.forall_mem_singleton.mpr fun hsame => ?_
      exact file.moduleName_ne_mod (hinj _ "mod" hsame)

/-- The modules that `mod.rs` declares and exports are those of the files, in order. -/
theorem index_files : Generation.moduleIndex (files.map (·.name)) = generatedHeader ++ "\n\n" ++
    Text.join "" (run.request.gatewayFiles.map fun file => declaration file.moduleName) := by
  have hmod : "mod" ∉ run.request.gatewayFiles.map (·.moduleName) := by
    intro hmem
    obtain ⟨file, -, hmod⟩ := List.mem_map.mp hmem
    exact file.moduleName_ne_mod hmod
  have hindex := moduleIndex_eq hmod
  rw [List.map_map, List.map_map] at hindex
  rw [run.names_eq hfiles]
  exact hindex

end

/-! ## Runs -/

variable {request : Request} {flags : ModeFlags} {paths : ModulePaths} {before after : FileTree}

/-- A run that succeeds has generated files and written them below the output directory. -/
theorem compile_eq_ok {summary : RunSummary}
    (h : compile FileTree.disk request flags directory paths before = (.ok summary, after)) :
    ∃ files owners, (Generation.ofRequest request flags paths).files .empty = (.ok files, owners) ∧
      (writeAll FileTree.disk directory files : Attempt FileTree IoError (List String)) before =
        (.ok summary.files, after) ∧
      summary.mode = (Generation.ofRequest request flags paths).mode ∧
      Written directory before (outputs files) after := by
  obtain ⟨cause, -, hfailed, -⟩ | ⟨files, owners, hfiles, hwrite⟩ := compile_cases h
  · cases hfailed
  obtain ⟨names, hwrite, hsummary⟩ | ⟨cause, -, hfailed⟩ := hwrite
  · obtain rfl := Except.ok.inj hsummary
    exact ⟨files, owners, hfiles, hwrite, rfl, written_of_overlaid (isName_outputs hfiles) (nodup_outputs hfiles)
      ((advances_writeAll (isName_files hfiles)).ok hwrite)⟩
  · cases hfailed

/-- What a run has done that has written these files. -/
structure Succeeded (run : Generation) (directory : String) (before : FileTree) (files : List SourceFile)
    (summary : RunSummary) (after : FileTree) : Prop where
  generated : (run.files .empty).1 = .ok files
  /-- There is one file for each generated interface file with gateway methods, in order. -/
  origin : files.map (fun file => (file.module, file.source)) =
    run.request.gatewayFiles.map fun file => (file.moduleName, file.name)
  mode : summary.mode = run.mode
  /-- The names of the modules are listed in that order, `mod.rs` last; none if there are none. -/
  names : summary.files = if run.request.gatewayFiles = [] then []
    else run.request.gatewayFiles.map (·.moduleName ++ ".rs") ++ ["mod.rs"]
  distinct : (summary.files.map (Path.below directory)).Nodup
  /-- `mod.rs` declares and exports every module, in order. -/
  index : Generation.moduleIndex (files.map (·.name)) = generatedHeader ++ "\n\n" ++
    Text.join "" (run.request.gatewayFiles.map fun file => declaration file.moduleName)
  /-- Below the output directory stand the files, cleaned, and `mod.rs`; nothing else has changed. -/
  written : Written directory before (outputs files) after
  nothing : run.request.gatewayFiles = [] → after = before

/-- **A run writes what it generates and nothing else.** Over any tree of files, a run that succeeds has written
one file for each generated interface file with gateway methods, which holds the cleaned text, and `mod.rs`,
which declares these modules in order. The paths are all different and are those of the summary, in this
order. Any other place is as it was, but for new directories on the way to the output directory; if
there is nothing to write, nothing has changed at all. The run leaves the texts as they are written: it does not
format the files afterwards. -/
theorem writes_what_it_generates {summary : RunSummary}
    (h : compile FileTree.disk request flags directory paths before = (.ok summary, after)) :
    ∃ files, Succeeded (.ofRequest request flags paths) directory before files summary after := by
  obtain ⟨files, owners, hfiles, hwrite, hmode, hwritten⟩ := compile_eq_ok h
  have hnames := writeAll_names hwrite
  refine ⟨files, congrArg Prod.fst hfiles, Generation.origins_eq _ hfiles, hmode, ?_, ?_, ?_, hwritten, ?_⟩
  · exact hnames.trans (names_outputs hfiles)
  · rw [hnames]
    refine (nodup_outputs hfiles).map_on fun name hname name' hname' => ?_
    exact Path.below_inj (List.forall_mem_map.mpr (isName_outputs hfiles) _ hname)
      (List.forall_mem_map.mpr (isName_outputs hfiles) _ hname')
  · exact index_files hfiles
  · intro hnone
    have hempty := Generation.names_eq _ hfiles
    rw [hnone] at hempty
    obtain rfl := List.map_eq_nil_iff.mp hempty
    -- without files nothing is written
    exact (congrArg Prod.snd hwrite).symm

/-- The run that writes the wrappers of the widget services. -/
def compileWidgets : Attempt FileTree RunError RunSummary :=
  compile FileTree.disk Widgets.request ⟨true, false, false, false⟩ "out" .standard

theorem writes_what_it_generates_widgets : ∃ summary after files,
    compile FileTree.disk Widgets.request ⟨true, false, false, false⟩ "out" .standard ⟨[], []⟩ =
      (.ok summary, after) ∧ summary.files = ["widget.rs", "cluster.rs", "mod.rs"] ∧
    Succeeded (.ofRequest Widgets.request ⟨true, false, false, false⟩ .standard) "out" ⟨[], []⟩ files
      summary after := by
  have hnames : ((compileWidgets ⟨[], []⟩).1.toOption.map (·.files)) =
      some ["widget.rs", "cluster.rs", "mod.rs"] := by decide +kernel
  cases hrun : compileWidgets ⟨[], []⟩ with
  | mk result after =>
      cases result with
      | error error => rw [hrun] at hnames; cases hnames
      | ok summary =>
          rw [hrun] at hnames
          obtain ⟨files, hsucceeded⟩ := writes_what_it_generates hrun
          exact ⟨summary, after, files, hrun, Option.some.inj hnames, hsucceeded⟩

/-- **A run that fails has written a beginning of what it generates.** If a run fails to generate, the tree
is as it was. If it fails to write, everything has been generated: some of the texts, in order and not all,
stand below the output directory; any other place is as it was, but for new directories on the way
to the output directory. As in a run that succeeds, files are not formatted after they are written. -/
theorem stops_on_the_way {error : RunError}
    (h : compile FileTree.disk request flags directory paths before = (.error error, after)) :
    (∃ cause, error = .generation cause ∧
      ((Generation.ofRequest request flags paths).files .empty).1 = .error cause ∧ after = before) ∨
    ∃ cause files done rest, error = .io cause ∧
      ((Generation.ofRequest request flags paths).files .empty).1 = .ok files ∧
      outputs files = done ++ rest ∧ rest ≠ [] ∧ Written directory before done after := by
  obtain ⟨cause, hgenerated, hfailed, hsame⟩ | ⟨files, owners, hfiles, hwrite⟩ := compile_cases h
  · exact .inl ⟨cause, Except.error.inj hfailed, hgenerated, hsame⟩
  obtain ⟨names, -, hdone⟩ | ⟨cause, hwrite, hfailed⟩ := hwrite
  · cases hdone
  · obtain ⟨_, _, hsplit, hrest, hoverlaid⟩ := (advances_writeAll (isName_files hfiles)).error hwrite
    obtain ⟨done, rest, houtputs, rfl, rfl⟩ := List.map_eq_append_iff.mp hsplit
    refine .inr ⟨cause, files, done, rest, Except.error.inj hfailed, congrArg Prod.fst hfiles, houtputs,
      fun hnone => hrest (by rw [hnone]; rfl), written_of_overlaid ?_ ?_ hoverlaid⟩
    · exact fun output houtput => isName_outputs hfiles output (by simp [houtputs, houtput])
    · have hnodup := nodup_outputs hfiles
      rw [houtputs, List.map_append] at hnodup
      exact hnodup.of_append_left

/-- A tree with a directory where the file of a module belongs. -/
def occupied : FileTree := ⟨[(["out", "cluster.rs"], .directory), (["out"], .directory)], []⟩

/-- The operation on files that a run failed with, if it was one. -/
def ioCause? : RunError → Option IoError
  | .io cause => some cause
  | _ => none

theorem ioCause?_eq_some {error : RunError} {cause : IoError} :
    ioCause? error = some cause ↔ error = .io cause := by
  cases error <;> simp [ioCause?]

theorem compileWidgets_occupied : ∃ after, compileWidgets occupied = (.error (.io .isDirectory), after) ∧
    (after.filesBelow ["out"]).map (·.1) = ["widget.rs"] := by
  have hfailed : (faultOf (compileWidgets occupied).1).bind ioCause? = some .isDirectory := by
    decide +kernel
  have hfiles : ((compileWidgets occupied).2.filesBelow ["out"]).map (·.1) = ["widget.rs"] := by
    decide +kernel
  cases hrun : compileWidgets occupied with
  | mk result after =>
      rw [hrun] at hfailed hfiles
      obtain ⟨error, herror, hcause⟩ := Option.bind_eq_some_iff.mp hfailed
      rw [faultOf_eq_some, ioCause?_eq_some.mp hcause] at herror
      exact ⟨after, Prod.ext herror rfl, hfiles⟩

theorem stops_on_the_way_occupied : ∃ after files done rest,
    compile FileTree.disk Widgets.request ⟨true, false, false, false⟩ "out" .standard occupied =
      (.error (.io .isDirectory), after) ∧
    ((Generation.ofRequest Widgets.request ⟨true, false, false, false⟩ .standard).files .empty).1 =
      .ok files ∧
    outputs files = done ++ rest ∧ rest ≠ [] ∧ Written "out" occupied done after := by
  obtain ⟨after, hrun, -⟩ := compileWidgets_occupied
  obtain ⟨cause, hcause, -⟩ | ⟨_, files, done, rest, -, hstopped⟩ := stops_on_the_way hrun
  · cases hcause
  · exact ⟨after, files, done, rest, hrun, hstopped⟩

/-- A run that fails to write may leave files behind: nothing is undone. -/
theorem not_all_or_nothing : ¬ ∀ (request : Request) (flags : ModeFlags) (directory : String)
    (paths : ModulePaths) (before after : FileTree) (error : RunError),
    compile FileTree.disk request flags directory paths before = (.error error, after) →
      after.filesBelow (before.placeOf directory) = before.filesBelow (before.placeOf directory) := by
  intro hall
  obtain ⟨after, hrun, hfiles⟩ := compileWidgets_occupied
  have hplace : occupied.placeOf "out" = ["out"] := by decide +kernel
  have hsame := hall _ _ _ _ _ _ _ hrun
  rw [hplace] at hsame
  rw [hsame] at hfiles
  revert hfiles
  decide +kernel

end Run

end RegionGateway
