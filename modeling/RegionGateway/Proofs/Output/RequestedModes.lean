import RegionGateway.CommandLine.Program
import RegionGateway.Proofs.Files.HiddenContents
import RegionGateway.Proofs.Interface.SavedRequests
import RegionGateway.Proofs.Output.Pruning
import RegionGateway.Proofs.Output.Writing

/-!
# Where a mode is asked for

A mode is asked for by a flag, by an entry of the configured parameter or by one of the request's own. The
flags that a run goes by tell which names stand among all these entries (`gives_total`), and the mode is
the first of the asked ones (`follows_select`). Nothing else of a request's parameter is looked at
(`compile_congr`), so that a run does the same wherever its mode is asked for (`modes_asked_anywhere`).
-/

namespace RegionGateway

/-! ## Names of modes -/

namespace ModeFlags

/-- The names of the modes that can be asked for, in the order in which one is taken before another. -/
def known : List String := ["genapi", "genclient", "gentest", "gentestutil"]

/-- Whether flags ask for the mode of a name. -/
def gives (flags : ModeFlags) : String → Bool
  | "genapi" => flags.api
  | "genclient" => flags.client
  | "gentest" => flags.test
  | "gentestutil" => flags.testHelper
  | _ => false

/-- The names of the modes that flags ask for. -/
def names (flags : ModeFlags) : List String := known.filter flags.gives

theorem gives_none (name : String) : none.gives name = false := by
  unfold gives
  split <;> rfl

theorem gives_union (a b : ModeFlags) (name : String) :
    (a.union b).gives name = (a.gives name || b.gives name) := by
  unfold gives
  split <;> rfl

theorem gives_ofParameter {name : String} (h : name ∈ known) (parameter : String) :
    (ofParameter parameter).gives name = (parameter == name) := by
  unfold ofParameter
  simp only [known, List.mem_cons, List.not_mem_nil, or_false] at h
  split
  · rcases h with rfl | rfl | rfl | rfl <;> decide
  · rcases h with rfl | rfl | rfl | rfl <;> decide
  · rcases h with rfl | rfl | rfl | rfl <;> decide
  · rcases h with rfl | rfl | rfl | rfl <;> decide
  · next hapi hclient htest hhelper =>
      rw [gives_none]
      rcases h with rfl | rfl | rfl | rfl
      · exact (beq_false_of_ne hapi).symm
      · exact (beq_false_of_ne hclient).symm
      · exact (beq_false_of_ne htest).symm
      · exact (beq_false_of_ne hhelper).symm

/-- Parameters ask for the modes whose names are among them. -/
theorem gives_ofParameters {name : String} (h : name ∈ known) (parameters : List String) :
    (ofParameters parameters).gives name = parameters.contains name := by
  have hfold (flags : ModeFlags) : (parameters.foldl (fun flags parameter =>
      flags.union (ofParameter parameter)) flags).gives name =
        (flags.gives name || parameters.contains name) := by
    induction parameters generalizing flags with
    | nil => simp
    | cons parameter rest ih =>
        rw [List.foldl_cons, ih, gives_union, gives_ofParameter h, Bool.or_assoc, List.contains_cons,
          BEq.comm]
  rw [ofParameters, hfold, gives_none, Bool.false_or]

/-- Flags are told by the modes that they ask for. -/
theorem ext_gives {a b : ModeFlags} (h : ∀ name ∈ known, a.gives name = b.gives name) : a = b := by
  simp only [known, List.forall_mem_cons] at h
  obtain ⟨hapi, hclient, htest, hhelper, -⟩ := h
  cases a
  cases b
  cases hapi
  cases hclient
  cases htest
  cases hhelper
  rfl

end ModeFlags

/-- The mode that follows from what is asked for: the first in the order of the names, and server code if
nothing is. -/
def Mode.Follows (asked : String → Prop) : Mode → Prop
  | .api => asked "genapi"
  | .client => ¬ asked "genapi" ∧ asked "genclient"
  | .test => ¬ asked "genapi" ∧ ¬ asked "genclient" ∧ asked "gentest"
  | .testHelper => ¬ asked "genapi" ∧ ¬ asked "genclient" ∧ ¬ asked "gentest" ∧ asked "gentestutil"
  | .server => ¬ asked "genapi" ∧ ¬ asked "genclient" ∧ ¬ asked "gentest" ∧ ¬ asked "gentestutil"

theorem Mode.follows_select {asked : String → Prop} {flags : ModeFlags}
    (h : ∀ name ∈ ModeFlags.known, flags.gives name = true ↔ asked name) : Follows asked (select flags) := by
  simp only [ModeFlags.known, List.forall_mem_cons] at h
  obtain ⟨hapi, hclient, htest, hhelper, -⟩ := h
  unfold select
  split
  · next hflag => exact hapi.mp hflag
  split
  · next hapi' hflag => exact ⟨fun hasked => hapi' (hapi.mpr hasked), hclient.mp hflag⟩
  split
  · next hapi' hclient' hflag =>
      exact ⟨fun hasked => hapi' (hapi.mpr hasked), fun hasked => hclient' (hclient.mpr hasked),
        htest.mp hflag⟩
  split
  · next hapi' hclient' htest' hflag =>
      exact ⟨fun hasked => hapi' (hapi.mpr hasked), fun hasked => hclient' (hclient.mpr hasked),
        fun hasked => htest' (htest.mpr hasked), hhelper.mp hflag⟩
  · next hapi' hclient' htest' hhelper' =>
      exact ⟨fun hasked => hapi' (hapi.mpr hasked), fun hasked => hclient' (hclient.mpr hasked),
        fun hasked => htest' (htest.mpr hasked), fun hasked => hhelper' (hhelper.mpr hasked)⟩

/-! ## Sources -/

namespace Run

/-- The entries of a parameter: what stands between its commas, without the white space around it. -/
def entries (parameter : Option String) : List String :=
  parameter.elim [] fun text => (Text.split ',' text).map Text.trim

/-- Everything that is asked for by flags, by a configured parameter and by a request. -/
def asked (flags : ModeFlags) (configured : Option String) (request : Request) : List String :=
  flags.names ++ entries configured ++ entries request.parameter

/-- The flags that a run goes by. -/
def total (flags : ModeFlags) (configured : Option String) (request : Request) : ModeFlags :=
  (flags.union (configuredFlags configured)).union (.ofParameters request.parameters)

theorem gives_configuredFlags {name : String} (h : name ∈ ModeFlags.known) (configured : Option String) :
    (configuredFlags configured).gives name = (entries configured).contains name := by
  cases configured with
  | none => exact ModeFlags.gives_none name
  | some text => exact ModeFlags.gives_ofParameters h _

/-- Empty entries are dropped, but no mode has an empty name. -/
theorem contains_parameters {name : String} (h : name ∈ ModeFlags.known) (request : Request) :
    request.parameters.contains name = (entries request.parameter).contains name := by
  have hne : name ≠ "" := by
    rintro rfl
    revert h
    decide
  unfold Request.parameters entries
  cases request.parameter with
  | none => rfl
  | some text =>
      refine Bool.eq_iff_iff.mpr ?_
      rw [List.contains_iff_mem, List.contains_iff_mem, List.mem_filter]
      exact and_iff_left (by simpa using hne)

/-- The flags of a run tell which names stand among the entries. -/
theorem gives_total {name : String} (h : name ∈ ModeFlags.known) (flags : ModeFlags)
    (configured : Option String) (request : Request) :
    (total flags configured request).gives name = true ↔ name ∈ asked flags configured request := by
  rw [total, ModeFlags.gives_union, ModeFlags.gives_union, gives_configuredFlags h,
    ModeFlags.gives_ofParameters h, contains_parameters h]
  simp [asked, ModeFlags.names, h, or_assoc]

end Run

/-! ## The rest of a parameter -/

namespace Generation

variable {first second : Request} (h : second = { first with parameter := second.parameter })
include h

theorem messages_of_parameter : second.messages = first.messages := by
  rw [h]
  rfl

theorem planFile_of_parameter : planFile second = planFile first := by
  funext file
  unfold planFile planService
  rw [planMethod_congr (messages_of_parameter h)]

/-- Of its parameter, a run looks at nothing but the names of modes. -/
theorem files_of_parameter (mode : Mode) (paths : ModulePaths) :
    files ⟨second, mode, paths⟩ = files ⟨first, mode, paths⟩ := by
  have hmessages := messages_of_parameter h
  have hplan : plan ⟨second, mode, paths⟩ = plan ⟨first, mode, paths⟩ := by
    unfold plan
    rw [planFile_of_parameter h, h]
    rfl
  have hfiles : filesOf ⟨second, mode, paths⟩ = filesOf ⟨first, mode, paths⟩ := by
    funext plans
    cases plans with
    | nil => rfl
    | cons plan plans =>
        unfold filesOf servicesChunk
        dsimp only
        rw [RouteTable.chunk_congr hmessages, Mode.serviceChunk_congr hmessages, h]
        rfl
  rw [files, files, hplan, hfiles]

end Generation

/-- A request is loaded from a file that is there. -/
theorem Request.isThere_of_load {path : String} {tree after : FileTree} {request : Request}
    (h : load FileTree.disk path tree = (.ok request, after)) : tree.isThere path = true := by
  cases hread : tree.read path with
  | ok content => exact FileTree.isThere_of_read hread
  | error error =>
      have htext : (FileTree.disk.readText path : Attempt FileTree IoError String) tree =
          (.error error, tree) :=
        Attempt.bind_error _ (by rw [FileTree.disk_read, hread])
      cases (Attempt.bind_error _ (Attempt.adapt_eq RequestError.io htext)).symm.trans h

namespace Run

/-! ## Runs over trees -/

section

variable {place : Place}

theorem blind_writeFile (directory : String) (file : String × String) :
    FileTree.Blind place (writeFile FileTree.disk directory file : Attempt FileTree IoError Unit) :=
  FileTree.blind_bind (FileTree.blind_makeParent _) fun _ => FileTree.blind_writeText _ _

theorem blind_writeAll (directory : String) (files : List SourceFile) :
    FileTree.Blind place
      (writeAll FileTree.disk directory files : Attempt FileTree IoError (List String)) := by
  unfold writeAll
  split
  · exact FileTree.blind_pure _
  · refine FileTree.blind_bind (FileTree.blind_bind (FileTree.blind_makeDirectories _) fun _ => ?_) fun _ => ?_
    · exact FileTree.blind_forM (blind_writeFile directory) _
    · exact FileTree.blind_bind (FileTree.blind_writeText _ _) fun _ => FileTree.blind_pure _

theorem blind_compile (request : Request) (flags : ModeFlags) (directory : String) (paths : ModulePaths) :
    FileTree.Blind place (compile FileTree.disk request flags directory paths :
      Attempt FileTree RunError RunSummary) := by
  unfold compile
  dsimp only
  split
  · exact FileTree.blind_throw _
  · exact FileTree.blind_bind (FileTree.blind_adapt _ (blind_writeAll directory _)) fun _ =>
      FileTree.blind_pure _

end

/-- What a run does follows from its mode and from what it generates. -/
theorem compile_congr {first second : Request} {flags flags' : ModeFlags} {paths paths' : ModulePaths}
    (hmode : (Generation.ofRequest second flags' paths').mode = (Generation.ofRequest first flags paths).mode)
    (hfiles : (Generation.ofRequest second flags' paths').files .empty =
      (Generation.ofRequest first flags paths).files .empty) (directory : String) :
    (compile FileTree.disk second flags' directory paths' : Attempt FileTree RunError RunSummary) =
      compile FileTree.disk first flags directory paths := by
  unfold compile
  dsimp only
  rw [hmode, hfiles]

/-- What a run that succeeds has written is what its files hold. -/
theorem read_compiled {request : Request} {flags : ModeFlags} {directory : String} {paths : ModulePaths}
    {before after : FileTree} {summary : RunSummary}
    (h : compile FileTree.disk request flags directory paths before = (.ok summary, after)) :
    summary.mode = (Generation.ofRequest request flags paths).mode ∧
    ∃ files, ((Generation.ofRequest request flags paths).files .empty).1 = .ok files ∧
      summary.files = (outputs files).map (·.1) ∧
      ∀ output ∈ outputs files, after.read (Path.below directory output.1) = .ok (Utf8.bytes output.2) := by
  obtain ⟨files, owners, hfiles, hwrite, hmode, hwritten⟩ := compile_eq_ok h
  refine ⟨hmode, files, congrArg Prod.fst hfiles, writeAll_names hwrite, fun output houtput => ?_⟩
  unfold FileTree.read
  rw [hwritten.located output houtput]
  dsimp only
  rw [hwritten.text output houtput]

/-! ## Calls -/

/-- A call of the generator: flags, a configuration, and files that hold a request where the configuration
says. -/
structure Call where
  flags : ModeFlags
  configuration : Configuration
  tree : FileTree
  request : Request
  loaded : Request.load FileTree.disk configuration.codegen.inputPath tree = (.ok request, tree)

namespace Call

/-- Everything that is asked for. -/
def asked (call : Call) : List String :=
  Run.asked call.flags call.configuration.codegen.parameter call.request

/-- The flags that the configuration adds to. -/
def configured (call : Call) : ModeFlags :=
  call.flags.union (configuredFlags call.configuration.codegen.parameter)

/-- What is generated. -/
def generation (call : Call) : Generation :=
  .ofRequest call.request call.configured call.configuration.codegen.paths

/-- The result of the call and the files that it leaves. -/
def run (call : Call) : Except RunError RunSummary × FileTree :=
  ofConfiguration FileTree.disk call.configuration call.flags call.tree

theorem run_eq (call : Call) : call.run = compile FileTree.disk call.request call.configured
    call.configuration.codegen.outputDirectory call.configuration.codegen.paths call.tree := by
  have hthere := FileTree.disk_isThere RunError call.configuration.codegen.inputPath call.tree
  rw [Request.isThere_of_load call.loaded] at hthere
  refine (Attempt.bind_ok _ hthere).trans ?_
  exact Attempt.bind_ok _ (Attempt.adapt_eq RunError.badRequest call.loaded)

theorem follows_mode (call : Call) : Mode.Follows (· ∈ call.asked) call.generation.mode :=
  Mode.follows_select fun _ hname => gives_total hname _ _ _

/-- A call asks for the same modes as another one, maybe elsewhere, and for the same otherwise. The file
at a place, where the requests may be, need not be the same. -/
structure Rearranges (place : Place) (first second : Call) : Prop where
  configuration : second.configuration.codegen =
    { first.configuration.codegen with parameter := second.configuration.codegen.parameter }
  request : second.request = { first.request with parameter := second.request.parameter }
  files : FileTree.AlikeBut place first.tree second.tree
  asked : ∀ name ∈ ModeFlags.known, name ∈ first.asked ↔ name ∈ second.asked

/-- What two calls do alike. -/
structure Agree (place : Place) (first second : Call) : Prop where
  /-- The mode is the first of those asked for. -/
  follows : Mode.Follows (· ∈ first.asked) first.generation.mode
  mode : second.generation.mode = first.generation.mode
  generated : ∀ owners, second.generation.files owners = first.generation.files owners
  result : second.run.1 = first.run.1
  reported : ∀ summary, first.run.1 = .ok summary → summary.mode = first.generation.mode
  /-- What is written is the same. -/
  written : ∀ summary, first.run.1 = .ok summary → ∀ name ∈ summary.files, ∃ content,
    first.run.2.read (Path.below first.configuration.codegen.outputDirectory name) = .ok content ∧
    second.run.2.read (Path.below first.configuration.codegen.outputDirectory name) = .ok content
  files : FileTree.AlikeBut place first.run.2 second.run.2

section

variable {place : Place} {first second : Call} (h : first.Rearranges place second)
include h

theorem mode_eq_of_rearranges : second.generation.mode = first.generation.mode := by
  refine congrArg Mode.select (ModeFlags.ext_gives fun name hname => Bool.eq_iff_iff.mpr ?_)
  exact (gives_total hname _ _ _).trans ((h.asked name hname).symm.trans (gives_total hname _ _ _).symm)

theorem files_eq_of_rearranges (owners : WrapperOwners) :
    second.generation.files owners = first.generation.files owners := by
  have hpaths : second.configuration.codegen.paths = first.configuration.codegen.paths := by
    rw [h.configuration]
  have hgeneration : second.generation = ⟨second.request, first.generation.mode, first.generation.paths⟩ := by
    rw [← mode_eq_of_rearranges h]
    exact congrArg (Generation.mk second.request _) hpaths
  rw [hgeneration, Generation.files_of_parameter h.request]
  rfl

/-- Both calls run the same operation, each over its own files. -/
theorem run_eq_of_rearranges : second.run = compile FileTree.disk first.request first.configured
    first.configuration.codegen.outputDirectory first.configuration.codegen.paths second.tree := by
  have hdirectory : second.configuration.codegen.outputDirectory =
      first.configuration.codegen.outputDirectory := by
    rw [h.configuration]
  rw [run_eq, hdirectory]
  exact congrFun (compile_congr (mode_eq_of_rearranges h) (files_eq_of_rearranges h .empty) _) second.tree

end

end Call

/-- **It does not matter where a mode is asked for.** Over any files, with whatever flags, configuration
and request: the mode is that which the names of modes lead to that stand among the flags, the entries of
the configured parameter and those of the request's own. A call that asks for the same names, in
other places, in another order, more often or beside entries that name no mode, generates the same files
in the same mode or fails in the same way; what it writes is the same. -/
theorem modes_asked_anywhere {place : Place} {first second : Call} (h : first.Rearranges place second) :
    first.Agree place second := by
  have hfirst := first.run_eq
  have hsecond := Call.run_eq_of_rearranges h
  obtain ⟨hresult, hafter⟩ := blind_compile first.request first.configured
    first.configuration.codegen.outputDirectory first.configuration.codegen.paths h.files
  rw [← hfirst, ← hsecond] at hresult hafter
  refine ⟨first.follows_mode, Call.mode_eq_of_rearranges h, Call.files_eq_of_rearranges h, hresult,
    fun summary hok => ?_, fun summary hok name hname => ?_, hafter⟩
  · exact (read_compiled (hfirst.symm.trans (Prod.ext hok rfl))).1
  · obtain ⟨-, files, hfiles, hnames, hread⟩ := read_compiled (hfirst.symm.trans (Prod.ext hok rfl))
    obtain ⟨-, files', hfiles', -, hread'⟩ :=
      read_compiled (hsecond.symm.trans (Prod.ext (hresult.trans hok) rfl))
    obtain rfl : files = files' := Except.ok.inj (hfiles.symm.trans hfiles')
    rw [hnames] at hname
    obtain ⟨output, houtput, rfl⟩ := List.mem_map.mp hname
    exact ⟨_, hread output houtput, hread' output houtput⟩

/-- A tree with one file. -/
def Call.treeOf (content : Bytes) : FileTree := ⟨[(["request.json"], .file content)], []⟩

theorem Call.read_treeOf (content : Bytes) : (treeOf content).read "request.json" = .ok content := rfl

theorem Call.alikeBut_treeOf (content content' : Bytes) :
    FileTree.AlikeBut ["request.json"] (treeOf content) (treeOf content') where
  workingDirectory := rfl
  elsewhere hp := by simp only [treeOf, FileTree.entryAt, List.lookup_cons, beq_false_of_ne hp]
  file := ⟨content, content', rfl, rfl⟩

/-- A call that finds its request in such a tree. -/
def Call.of (flags : ModeFlags) (parameter : Option String) (request : Request) : Call where
  flags := flags
  configuration := ⟨⟨"info", none⟩, ⟨"request.json", "out", parameter, false, .standard⟩⟩
  tree := treeOf (Utf8.bytes request.document)
  request := request
  loaded := Request.load_of_read (read_treeOf _) request.parse_document

/-- Bindings are asked for by the configuration, among entries that name no mode. -/
def Call.byConfiguration : Call :=
  .of .none (some " bindings,,genclient") { Widgets.request with parameter := some "gentest " }

/-- The same is asked for by a flag and by the request. -/
def Call.byFlag : Call :=
  .of ⟨false, true, false, false⟩ none
    { Widgets.request with parameter := some "gentest,\tgenclient , gentest" }

theorem modes_asked_anywhere_widgets :
    Call.byConfiguration.run.1.toOption = some ⟨.client, ["widget.rs", "cluster.rs", "mod.rs"]⟩ ∧
      Call.byConfiguration.Agree ["request.json"] Call.byFlag := by
  have hrearranged : Call.byConfiguration.Rearranges ["request.json"] Call.byFlag :=
    { configuration := rfl
      request := rfl
      files := Call.alikeBut_treeOf _ _
      asked := by decide +kernel }
  refine ⟨?_, modes_asked_anywhere hrearranged⟩
  rw [Call.run_eq]
  decide +kernel

end Run

end RegionGateway
