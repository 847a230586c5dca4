import Mathlib.Data.List.Count
import Mathlib.Data.List.Nodup
import RegionGateway.Proofs.Output.DeclaredLines
import RegionGateway.Widgets.Interface

/-!
# Wrappers are declared once and in scope

In a run that generates the wrappers of input types:

* `structs_eq`: one wrapper is declared for each input type, in the order in which methods take them;
* `exists_owner`: it is declared in the file of the first method that takes the type;
* `declared_or_imported`: the file of any other method imports it from there, and a file imports nothing
  else from the files of the run (`imported_owner`).

All of it stands in the text of the files. If no name has a line break, nothing else does: the lines that declare
structs are those of the wrappers (`structLines_eq`), so that of a wrapper is in one file (`count_structLine`), and
the lines of imports are those of the uses (`exists_statement`).
-/

namespace RegionGateway

open Rust Text

/-! ## Declared structs -/

/-- The struct that a declaration is, if it is one. -/
def Rust.Item.struct? : Rust.Item → Option String
  | .record _ name _ _ => some name
  | _ => none

/-- The structs that a file declares, in order. -/
def SourceFile.structs (file : SourceFile) : List String :=
  file.chunk.items.filterMap Rust.Item.struct?

/-- The line that declares a struct. -/
def Rust.structLine (name : String) : String := "pub struct " ++ name ++ " \x7b"

theorem Rust.structLine_injective : Function.Injective structLine := fun name other hsame => by
  simpa [structLine] using hsame

theorem Rust.isPrefixOf_structLine (name : String) :
    "pub struct ".toList.isPrefixOf (structLine name).toList = true := by
  rw [structLine, String.toList_append, String.toList_append, List.append_assoc]
  exact List.isPrefixOf_iff_prefix.mpr (List.prefix_append _ _)

/-- The headings that declare structs are the lines of the structs. -/
theorem Rust.Item.structHeading_eq (item : Item) :
    (if item.firstWords = "pub struct " then item.heading?.toList.map String.toList else []) =
      item.struct?.toList.map fun name => (structLine name).toList := by
  cases item with
  | record doc name derives fields => exact if_pos rfl
  | function | backend | table | impl | «alias» => exact if_neg (by simp [firstWords])

/-- The line that declares a struct stands in the text of the struct. -/
theorem SourceFile.stands_structLine {file : SourceFile} {name : String} (h : name ∈ file.structs) :
    Stands (structLine name ++ "\n") file.text := by
  obtain ⟨item, hitem, hname⟩ := List.mem_filterMap.mp h
  cases item with
  | record doc declared derives fields =>
      obtain rfl : declared = name := Option.some.inj hname
      refine Stands.trans ?_ (stands_lines hitem)
      have habove : EndsLine (docLine doc ++ ("#[derive(" ++ Text.join ", " derives ++ ")]\n")).toList := by
        rw [String.toList_append]
        exact (endsLine_append (by decide)).append (endsLine_append (by decide))
      exact ⟨_, Text.join "" (fields.map Field.text) ++ "\x7d\n", habove, by
        simp only [Item.lines_record, structLine, String.append_assoc]⟩
  | function | backend | table | impl | «alias» => cases hname

/-- If no struct is declared twice, a struct of one file is in no other. -/
theorem SourceFile.count_structs {files : List SourceFile} (hstructs : (files.flatMap SourceFile.structs).Nodup)
    (hmodules : (files.map (·.module)).Nodup) {file owner : SourceFile} (hfile : file ∈ files) (howner : owner ∈ files)
    {name : String} (h : name ∈ owner.structs) :
    file.structs.count name = if file.module = owner.module then 1 else 0 := by
  obtain ⟨hnodup, hdisjoint⟩ := List.nodup_flatMap.mp hstructs
  split
  · next hsame =>
      obtain rfl := List.inj_on_of_nodup_map hmodules hfile howner hsame
      exact List.count_eq_one_of_mem (hnodup file hfile) h
  · next hother =>
      have hsymm : Std.Symm (Function.onFun List.Disjoint structs) := ⟨fun _ _ => List.disjoint_symm⟩
      have hapart : List.Disjoint file.structs owner.structs :=
        hdisjoint.forall hfile howner fun h => hother (congrArg SourceFile.module h)
      exact List.count_eq_zero.mpr fun hmem => hapart hmem h

theorem wrapperName_injective : Function.Injective wrapperName := fun type other hsame => by
  simpa [wrapperName] using hsame

namespace Wrapper

theorem struct?_chunk (paths : ModulePaths) (plan : MethodPlan) :
    (chunk paths plan).items.filterMap Rust.Item.struct? =
      if plan.declaresWrapper then [plan.wrapper] else [] := by
  unfold chunk
  cases plan.declaresWrapper with
  | false => rfl
  | true => cases hfields : plan.hasFields <;> simp [declaration, hfields] <;> rfl

/-- The lines that declare a wrapper. -/
def structLines (paths : ModulePaths) (plan : MethodPlan) : List String := [
  "/// `" ++ plan.inputType ++ "` addressed to a region.",
  "#[derive(Debug, Clone, Default, Serialize, Deserialize)]",
  structLine plan.wrapper,
  "    /// Region name",
  "    #[serde(rename = \"Region\")]",
  "    pub region: String,",
  "    /// " ++ plan.inputType ++ " in region",
  "    #[serde(rename = \"" ++ plan.inputType ++ "\")]",
  "    pub " ++ plan.wrapperField ++ ": " ++ localName paths.messages ++ "::" ++ plan.inputType ++ ",",
  "\x7d"]

/-- The lines that name the wrapper a method takes. -/
def aliasLines (plan : MethodPlan) : List String := [
  "/// Request body of `" ++ plan.method ++ "`.",
  "pub type " ++ plan.method ++ "Request = " ++ plan.wrapper ++ ";"]

theorem struct_lines (paths : ModulePaths) (plan : MethodPlan) :
    (struct paths plan).lines = block (structLines paths plan) := by
  have hdoc : "/// `" = "/// " ++ "`" := rfl
  have hderive : "#[derive(Debug, Clone, Default, Serialize, Deserialize)]" =
      "#[derive(" ++ (Text.join ", " ["Debug", "Clone", "Default", "Serialize", "Deserialize"] ++ ")]") := rfl
  have hstruct : ")]\npub struct " = ")]" ++ ("\n" ++ "pub struct ") := rfl
  have hopen : " \x7b\n" = " \x7b" ++ "\n" := rfl
  have hname : "    /// Region name" = "    /// " ++ "Region name" := rfl
  have hrename : "\n    #[serde(rename = \"" = "\n" ++ "    #[serde(rename = \"" := rfl
  have hregion : "    #[serde(rename = \"Region\")]" = "    #[serde(rename = \"" ++ ("Region" ++ "\")]") := rfl
  have hpub : "\")]\n    pub " = "\")]" ++ ("\n" ++ "    pub ") := rfl
  have htype : "    pub region: String," = "    pub " ++ ("region" ++ (": " ++ ("String" ++ ","))) := rfl
  have hcomma : ",\n" = "," ++ "\n" := rfl
  have hclose : "\x7d\n" = "\x7d" ++ "\n" := rfl
  have hfields : ∀ a b : Field, Text.join "" ([a, b].map Field.text) = a.text ++ "" ++ b.text := fun _ _ => rfl
  rw [struct, Item.lines, hfields]
  simp only [structLines, block_cons, block_nil, docLine, Field.text, Ty.text, ModulePaths.messageType, structLine,
    hdoc, hderive, hstruct, hopen, hname, hrename, hregion, hpub, htype, hcomma, hclose, String.append_assoc,
    String.append_empty]

theorem requestAlias_lines (plan : MethodPlan) : (requestAlias plan).lines = block (aliasLines plan) := by
  have hdoc : "/// Request body of `" = "/// " ++ "Request body of `" := rfl
  have hname : "Request = " = "Request" ++ " = " := rfl
  have hend : ";\n" = ";" ++ "\n" := rfl
  simp only [requestAlias, Item.lines, aliasLines, block_cons, block_nil, docLine, hdoc, hname, hend,
    String.append_assoc, String.append_empty]

theorem requestAlias_mem_chunk (paths : ModulePaths) (plan : MethodPlan) :
    requestAlias plan ∈ (chunk paths plan).items :=
  List.mem_append_right _ List.mem_cons_self

theorem struct_mem_chunk (paths : ModulePaths) {plan : MethodPlan} (h : plan.declaresWrapper = true) :
    struct paths plan ∈ (chunk paths plan).items := by
  unfold chunk declaration
  rw [if_pos h]
  refine List.mem_append_left _ ?_
  split <;> exact List.mem_cons_self

/-- The imports that are configured: message types and symbols of the runtime. -/
def standing (paths : ModulePaths) : List Rust.Use :=
  paths.uses [paths.messages] ["ControllerRoute", "RegionObj", "RegionObjFields"]

/-- Other imports of a method are those of derived traits, and that of its wrapper from the module it is told. -/
theorem use_of_mem_chunk {paths : ModulePaths} {plan : MethodPlan} {use : Use} (h : use ∈ (chunk paths plan).uses) :
    use ∈ standing paths ∨ use.path = "serde" ∨
      ∃ owner, plan.wrapperModule = some owner ∧ use = ⟨"super::" ++ owner, plan.wrapper⟩ := by
  unfold chunk at h
  cases hdeclares : plan.declaresWrapper with
  | true =>
      rw [hdeclares, if_pos rfl, Chunk.append_uses, List.append_nil, declaration] at h
      rcases List.mem_append.mp h with h | h
      · refine .inl (paths.uses_subset (List.Subset.refl _) ?_ h)
        split <;> simp
      · rcases List.mem_pair.mp h with rfl | rfl
        · exact .inr (.inl rfl)
        · exact .inr (.inl rfl)
  | false =>
      have huse : use ∈ (plan.wrapperModule.map fun owner => (⟨"super::" ++ owner, plan.wrapper⟩ : Use)).toList := by
        simpa [hdeclares] using h
      obtain ⟨owner, howner, rfl⟩ := Option.map_eq_some_iff.mp (Option.mem_toList.mp huse)
      exact .inr (.inr ⟨owner, howner, rfl⟩)

end Wrapper

namespace Generation

variable {run : Generation} {plans : List FilePlan} {owners after : WrapperOwners}

theorem structs_fileOf (hmode : run.mode = .api) {head : Chunk}
    (hhead : head = run.table ∨ head = .empty) (plan : FilePlan) :
    (run.fileOf head plan).structs =
      (plan.methods.filter (·.2.declaresWrapper)).map (·.2.wrapper) := by
  have hstructs : head.items.filterMap Rust.Item.struct? = [] := by
    rcases hhead with rfl | rfl
    · unfold table RouteTable.chunk
      split
      · rfl
      · rw [hmode]
        rfl
    · rfl
  have hmethods : ∀ methods : List MethodPlan,
      (methods.flatMap fun method => if method.declaresWrapper then [method.wrapper] else []) =
        (methods.filter (·.declaresWrapper)).map (·.wrapper) := by
    intro methods
    induction methods with
    | nil => rfl
    | cons method methods ih => cases hdeclares : method.declaresWrapper <;> simp [hdeclares, ih]
  rw [SourceFile.structs, fileOf, Chunk.append_items, List.filterMap_append, hstructs,
    List.nil_append, servicesChunk_eq, Chunk.concat_items, List.filterMap_flatMap]
  simp [parts, hmode, Mode.serviceHead, Mode.methodChunk, Mode.serviceTail, Chunk.empty,
    Wrapper.struct?_chunk, hmethods, FilePlan.methods, List.flatMap_assoc, List.filter_flatMap,
    List.map_flatMap, List.flatMap_map, List.filter_map, Function.comp_def]

/-- The structs declared in all files are the wrappers that methods declare, in order. -/
theorem structs_filesOf (hmode : run.mode = .api) (plans : List FilePlan) :
    (run.filesOf plans).flatMap SourceFile.structs =
      ((FilePlan.walk plans).filter (·.2.declaresWrapper)).map (·.2.wrapper) := by
  have hfiles : plans.map (fun plan => (plan.methods.filter (·.2.declaresWrapper)).map (·.2.wrapper)) =
      (run.filesOf plans).map SourceFile.structs := by
    refine map_eq_map_of_forall₂ ((run.filesOf_isOf plans).imp ?_)
    rintro plan _ ⟨head, hhead, rfl⟩
    exact (structs_fileOf hmode hhead plan).symm
  rw [List.flatMap_def, ← hfiles, ← List.flatMap_def, FilePlan.walk, List.filter_flatMap,
    List.map_flatMap]

theorem mem_structs_fileOf (hmode : run.mode = .api) {head : Chunk}
    (hhead : head = run.table ∨ head = .empty) {plan : FilePlan} {module : String}
    {method : MethodPlan} (hmethod : (module, method) ∈ plan.methods)
    (hdeclares : method.declaresWrapper = true) :
    method.wrapper ∈ (run.fileOf head plan).structs := by
  rw [structs_fileOf hmode hhead]
  exact List.mem_map_of_mem (List.mem_filter.mpr ⟨hmethod, hdeclares⟩)

/-- What a file uses is standing or used by a method of the file. -/
theorem use_of_mem_fileOf (hmode : run.mode = .api) {head : Chunk}
    (hhead : head = run.table ∨ head = .empty) {plan : FilePlan} {use : Rust.Use}
    (h : use ∈ (run.fileOf head plan).chunk.uses) :
    use ∈ Wrapper.standing run.paths ∨ ∃ method ∈ plan.methods, use ∈ (Wrapper.chunk run.paths method.2).uses := by
  rcases run.mem_uses_fileOf.mp h with hhere | ⟨part, hpart, huse⟩
  · refine .inl ?_
    rcases hhead with rfl | rfl
    · unfold table RouteTable.chunk at hhere
      split at hhere
      · cases hhere
      · refine run.paths.uses_subset (List.nil_subset _) ?_ hhere
        simp [hmode, Mode.dispatches]
    · cases hhere
  · obtain ⟨service, hservice, hkind⟩ := run.mem_parts.mp hpart
    rw [hmode] at hkind
    rcases hkind with rfl | ⟨method, hmethod, rfl⟩ | rfl
    · cases huse
    · exact .inr ⟨(plan.module, method),
        FilePlan.mem_methods.mpr ⟨rfl, service, hservice, hmethod⟩, huse⟩
    · cases huse

/-- The lines of a file that declare structs are those of its structs. -/
theorem structLines_eq (hmode : run.mode = .api) (h : run.OnOneLine) (hplan : run.plan owners = (.ok plans, after))
    (howners : owners.OnOneLine) {file : SourceFile} (hfile : file ∈ run.filesOf plans) :
    linesStarting "pub struct " file.text = file.structs.map fun name => (structLine name).toList := by
  rw [h.declarationLines_eq (by rw [hmode]; decide) hplan howners hfile (by decide)]
  simp only [Item.structHeading_eq, SourceFile.structs, List.filterMap_eq_flatMap_toList, List.map_flatMap]

/-- The line that declares a wrapper is in the file of one method, and in no other file. -/
theorem count_structLine (hmode : run.mode = .api) (h : run.OnOneLine) (hplan : run.plan owners = (.ok plans, after))
    (howners : owners.OnOneLine) (hstructs : ((run.filesOf plans).flatMap SourceFile.structs).Nodup)
    {module : String} {plan : MethodPlan} (hmem : (module, plan) ∈ FilePlan.walk plans)
    (hdeclares : plan.declaresWrapper = true) {file : SourceFile} (hfile : file ∈ run.filesOf plans) :
    (lines file.text).count (structLine plan.wrapper).toList = if file.module = module then 1 else 0 := by
  obtain ⟨filePlan, hmethod, head, hhead, howner⟩ := run.exists_fileOf hmem
  have hmodules : ((run.filesOf plans).map (·.module)).Nodup :=
    run.map_module_filesOf plans ▸ (plan_eq_ok hplan).nodup_modules
  have hmodule : filePlan.module = module := (FilePlan.mem_methods.mp hmethod).1
  have hinjective : Function.Injective fun name => (structLine name).toList := fun _ _ hsame =>
    structLine_injective (String.toList_inj.mp hsame)
  rw [← count_linesStarting (isPrefixOf_structLine _), structLines_eq hmode h hplan howners hfile,
    List.count_map_of_injective _ _ hinjective,
    SourceFile.count_structs hstructs hmodules hfile howner (mem_structs_fileOf hmode hhead hmethod hdeclares),
    ← hmodule]
  rfl

section

variable (hmode : run.mode = .api) (hplanned : Planned run.request .empty plans after)
include hmode hplanned

/-- The wrappers of a run are those of its input types, by first use. -/
theorem structs_eq : (run.filesOf plans).flatMap SourceFile.structs =
    (Route.distinct [] (run.request.gatewayMethods.map (·.2.2.inputType))).map wrapperName := by
  have hinputs : run.request.gatewayMethods.map (·.2.2.inputType) =
      (FilePlan.walk plans).map (·.2.inputType) :=
    map_eq_map_of_forall₂ (hplanned.walk_isOf.imp fun _ _ hof => hof.2.inputType.symm)
  rw [structs_filesOf hmode, hinputs, ← hplanned.claims.declared_eq (by simp), List.map_map]
  rfl

/-- The file of the first method that takes an input type declares its wrapper. -/
theorem exists_owner {type owner : String}
    (hfirst : firstTaker? (FilePlan.walk plans) type = some owner) :
    ∃ file ∈ run.filesOf plans, file.module = owner ∧ wrapperName type ∈ file.structs := by
  obtain ⟨plan, hmem, rfl, hdeclares⟩ := hplanned.claims.declares_firstTaker hfirst
  obtain ⟨filePlan, hmethod, head, hhead, hfile⟩ := run.exists_fileOf hmem
  exact ⟨_, hfile, (FilePlan.mem_methods.mp hmethod).1,
    mem_structs_fileOf hmode hhead hmethod hdeclares⟩

/-- The file of a method declares the wrapper that the method takes, or imports it from the file of
another module that declares it. -/
theorem declared_or_imported {module : String} {plan : MethodPlan}
    (hmem : (module, plan) ∈ FilePlan.walk plans) :
    ∃ file ∈ run.filesOf plans, file.module = module ∧
      Wrapper.requestAlias plan ∈ file.chunk.items ∧ Stands (block (Wrapper.aliasLines plan)) file.text ∧
      (plan.declaresWrapper = true → plan.wrapper ∈ file.structs ∧
        Stands (block (Wrapper.structLines run.paths plan)) file.text) ∧
      (plan.wrapper ∈ file.structs ∨ ∃ owner ∈ run.filesOf plans, plan.wrapper ∈ owner.structs ∧
        owner.module ≠ module ∧
        plan.wrapper ∈ file.chunk.imports.symbolsOf ("super::" ++ owner.module) ∧
        ∃ symbols, plan.wrapper ∈ symbols ∧
          Stands (Imports.statement ("super::" ++ owner.module) symbols ++ "\n") file.text) := by
  obtain ⟨filePlan, hmethod, head, hhead, hfile⟩ := run.exists_fileOf hmem
  obtain ⟨owner, hfirst, htold, hdeclares⟩ := hplanned.claims.wrapperModule_eq hmem
  obtain ⟨ownerFile, hownerFile, hownerModule, hwrapper⟩ := exists_owner hmode hplanned hfirst
  have hmodule : filePlan.module = module := (FilePlan.mem_methods.mp hmethod).1
  have hpart : Wrapper.chunk run.paths plan ∈ run.parts filePlan := by
    have hpart := run.methodChunk_mem_parts hmethod
    rwa [hmode] at hpart
  have hitem : ∀ item ∈ (Wrapper.chunk run.paths plan).items, item ∈ (run.fileOf head filePlan).chunk.items :=
    fun item hitem => run.mem_items_fileOf.mpr (.inr ⟨_, hpart, hitem⟩)
  have hname := hitem _ (Wrapper.requestAlias_mem_chunk run.paths plan)
  refine ⟨_, hfile, hmodule, hname, ?_, fun hhere => ⟨mem_structs_fileOf hmode hhead hmethod hhere, ?_⟩, ?_⟩
  · exact Wrapper.requestAlias_lines plan ▸ SourceFile.stands_lines hname
  · exact Wrapper.struct_lines run.paths plan ▸
      SourceFile.stands_lines (hitem _ (Wrapper.struct_mem_chunk run.paths hhere))
  · by_cases hown : owner = module
    · -- modules differ, so the file that declares the wrapper is this one
      have hmodules : ((run.filesOf plans).map (·.module)).Nodup :=
        run.map_module_filesOf plans ▸ hplanned.nodup_modules
      have hsame : ownerFile = run.fileOf head filePlan :=
        List.inj_on_of_nodup_map hmodules hownerFile hfile
          (hownerModule.trans (hown.trans hmodule.symm))
      exact .inl (hsame ▸ hwrapper)
    · have hlater : plan.declaresWrapper = false :=
        Bool.eq_false_iff.mpr fun h => hown (hdeclares h)
      have himported : plan.wrapper ∈ (run.fileOf head filePlan).chunk.imports.symbolsOf ("super::" ++ owner) := by
        rw [Chunk.mem_symbolsOf_imports]
        refine run.mem_uses_fileOf.mpr (.inr ⟨_, hpart, ?_⟩)
        simp [Wrapper.chunk, hlater, htold, hown]
      subst hownerModule
      exact .inr ⟨ownerFile, hownerFile, hwrapper, hown, himported, SourceFile.stands_import himported⟩

/-- What else a file uses is declared in another file of the run, and used from there. -/
theorem use_cases {file : SourceFile} (hfile : file ∈ run.filesOf plans) {use : Use} (h : use ∈ file.chunk.uses) :
    use ∈ Wrapper.standing run.paths ∨ use.path = "serde" ∨ ∃ other ∈ run.filesOf plans,
      other.module ≠ file.module ∧ use.path = "super::" ++ other.module ∧ use.symbol ∈ other.structs := by
  obtain ⟨filePlan, hfilePlan, head, hhead, rfl⟩ := run.exists_plan hfile
  rcases use_of_mem_fileOf hmode hhead h with hstanding | ⟨⟨module, plan⟩, hmethod, huse⟩
  · exact .inl hstanding
  · rcases Wrapper.use_of_mem_chunk huse with hstanding | hserde | ⟨owner, htold, rfl⟩
    · exact .inl hstanding
    · exact .inr (.inl hserde)
    · have hmem : (module, plan) ∈ FilePlan.walk plans := List.mem_flatMap.mpr ⟨_, hfilePlan, hmethod⟩
      obtain ⟨first, hfirst, hmodule, -⟩ := hplanned.claims.wrapperModule_eq hmem
      obtain ⟨hother, rfl⟩ : first ≠ module ∧ first = owner := by
        dsimp only at htold
        rw [hmodule] at htold
        split at htold <;> simp_all
      have hown : filePlan.module = module := (FilePlan.mem_methods.mp hmethod).1
      obtain ⟨other, hmem, rfl, hstruct⟩ := exists_owner hmode hplanned hfirst
      exact .inr (.inr ⟨other, hmem, fun h => hother (h.trans hown), rfl, hstruct⟩)

/-- The lines of a file that begin like imports name symbols that it uses. -/
theorem exists_statement (h : run.OnOneLine) (hplan : run.plan .empty = (.ok plans, after)) {file : SourceFile}
    (hfile : file ∈ run.filesOf plans) {line : List Char} (hline : line ∈ linesStarting "use " file.text) :
    ∃ path symbols, line = (Imports.statement path symbols).toList ∧ ∀ symbol ∈ symbols,
      ⟨path, symbol⟩ ∈ Wrapper.standing run.paths ∨ path = "serde" ∨ ∃ other ∈ run.filesOf plans,
        other.module ≠ file.module ∧ path = "super::" ++ other.module ∧ symbol ∈ other.structs := by
  rw [h.useLines_eq (by rw [hmode]; decide) hplan (List.forall_mem_nil _) hfile] at hline
  obtain ⟨⟨path, symbols⟩, hentry, rfl⟩ := List.mem_map.mp hline
  refine ⟨path, symbols, rfl, fun symbol hsymbol => ?_⟩
  have huse : ⟨path, symbol⟩ ∈ file.chunk.imports.uses :=
    List.mem_flatMap.mpr ⟨_, hentry, List.mem_map_of_mem hsymbol⟩
  exact use_cases hmode hplanned hfile (Imports.mem_uses_recordAll.mp huse)

/-- What else a file imports from a module next to it is declared there, in another file of the run. -/
theorem imported_owner {file : SourceFile} (hfile : file ∈ run.filesOf plans) {owner symbol : String}
    (himported : symbol ∈ file.chunk.imports.symbolsOf ("super::" ++ owner))
    (hstanding : ⟨"super::" ++ owner, symbol⟩ ∉ Wrapper.standing run.paths) :
    owner ≠ file.module ∧
      ∃ other ∈ run.filesOf plans, other.module = owner ∧ symbol ∈ other.structs := by
  rw [Chunk.mem_symbolsOf_imports] at himported
  rcases use_cases hmode hplanned hfile himported with hstands | hserde | ⟨other, hother, hmodule, hpath, hstruct⟩
  · exact absurd hstands hstanding
  · have hstart := congrArg (fun path : String => path.toList.take 2) hserde
    simp at hstart
  · obtain rfl : owner = other.module := by simpa using hpath
    exact ⟨hmodule, other, hother, rfl, hstruct⟩

end

/-- The wrappers of a run: which method declares one, what the files declare, and what they import. -/
structure WrappersInScope (run : Generation) (plans : List FilePlan) (files : List SourceFile) :
    Prop where
  /-- The plans are those of the gateway methods of the generated files, in file, service and method
  order. -/
  walk : List.Forall₂
    (fun declared planned => planned.1 = declared.1.moduleName ∧
      planned.2.IsOf declared.2.1.name declared.2.2)
    run.request.gatewayMethods (FilePlan.walk plans)
  /-- A method is to declare the wrapper of its input if no method before it takes the same. -/
  first : ∀ before module plan rest, FilePlan.walk plans = before ++ (module, plan) :: rest →
    (plan.declaresWrapper = true ↔ ∀ earlier ∈ before, earlier.2.inputType ≠ plan.inputType)
  /-- The structs of all files are the wrappers of the input types, -/
  declared : files.flatMap SourceFile.structs =
    (Route.distinct [] (run.request.gatewayMethods.map (·.2.2.inputType))).map wrapperName
  /-- each of them once. -/
  nodup : (files.flatMap SourceFile.structs).Nodup
  modules : (files.map (·.module)).Nodup
  /-- The file of a method declares the wrapper that the method takes if the method is to do so; else it
  declares it for another method, or imports it from the file of another module that declares it. The lines
  of the declaration and of the import stand in its text. -/
  inScope : ∀ module plan, (module, plan) ∈ FilePlan.walk plans →
    ∃ file ∈ files, file.module = module ∧
      Wrapper.requestAlias plan ∈ file.chunk.items ∧ Stands (block (Wrapper.aliasLines plan)) file.text ∧
      (plan.declaresWrapper = true → plan.wrapper ∈ file.structs ∧
        Stands (block (Wrapper.structLines run.paths plan)) file.text) ∧
      (plan.wrapper ∈ file.structs ∨ ∃ owner ∈ files, plan.wrapper ∈ owner.structs ∧
        owner.module ≠ module ∧
        plan.wrapper ∈ file.chunk.imports.symbolsOf ("super::" ++ owner.module) ∧
        ∃ symbols, plan.wrapper ∈ symbols ∧
          Stands (Imports.statement ("super::" ++ owner.module) symbols ++ "\n") file.text)
  /-- Whatever a file imports from a module next to it is configured, or a struct that another file of
  the run declares. -/
  imported : ∀ file ∈ files, ∀ owner symbol,
    symbol ∈ file.chunk.imports.symbolsOf ("super::" ++ owner) →
    ⟨"super::" ++ owner, symbol⟩ ∉ Wrapper.standing run.paths →
    owner ≠ file.module ∧ ∃ other ∈ files, other.module = owner ∧ symbol ∈ other.structs
  /-- The line that declares a struct stands in the text of its file. -/
  written : ∀ file ∈ files, ∀ name ∈ file.structs, Stands (structLine name ++ "\n") file.text
  /-- If nothing in the request has a line break, no other line of a file declares a struct, -/
  onlyStructs : run.OnOneLine → ∀ file ∈ files,
    linesStarting "pub struct " file.text = file.structs.map fun name => (structLine name).toList
  /-- so the line that declares a wrapper is in one file, once, -/
  declaredOnce : run.OnOneLine → ∀ module plan, (module, plan) ∈ FilePlan.walk plans →
    plan.declaresWrapper = true → ∀ file ∈ files,
    (lines file.text).count (structLine plan.wrapper).toList = if file.module = module then 1 else 0
  /-- and no other line imports than those of the configured symbols, the derived traits and the wrappers
  that other files of the run declare. -/
  onlyImports : run.OnOneLine → ∀ file ∈ files, ∀ line ∈ linesStarting "use " file.text,
    ∃ path symbols, line = (Imports.statement path symbols).toList ∧ ∀ symbol ∈ symbols,
      ⟨path, symbol⟩ ∈ Wrapper.standing run.paths ∨ path = "serde" ∨ ∃ other ∈ files,
        other.module ≠ file.module ∧ path = "super::" ++ other.module ∧ symbol ∈ other.structs

/-- **Wrappers are declared once and in scope.** A run over any request that generates wrappers, with no
type claimed before, declares the wrapper of each input type once, in the file of the first method that
takes it; every file that has a method with this input declares the wrapper or imports it from there,
and no file imports a wrapper from itself or from a file that is not generated. The text of the files says the
same, line by line. -/
theorem wrappers_in_scope (hmode : run.mode = .api) {files : List SourceFile}
    (h : run.files .empty = (.ok files, after)) :
    ∃ plans, run.plan .empty = (.ok plans, after) ∧ files = run.filesOf plans ∧
      WrappersInScope run plans files := by
  obtain ⟨plans, hplan, rfl⟩ := files_eq_ok h
  have hplanned := plan_eq_ok hplan
  have hnodup : ((run.filesOf plans).flatMap SourceFile.structs).Nodup := by
    rw [structs_eq hmode hplanned]
    exact (Route.nodup_distinct _ _).map wrapperName_injective
  have howners : WrapperOwners.empty.OnOneLine := List.forall_mem_nil _
  refine ⟨plans, hplan, rfl, ?_⟩
  exact {
    walk := hplanned.walk_isOf
    first := fun before module plan rest hwalk => Claims.declaresWrapper_iff (hwalk ▸ hplanned.claims)
    declared := structs_eq hmode hplanned
    nodup := hnodup
    modules := run.map_module_filesOf plans ▸ hplanned.nodup_modules
    inScope := fun module plan hmem => declared_or_imported hmode hplanned hmem
    imported := fun file hfile owner symbol => imported_owner hmode hplanned hfile
    written := fun file _ name hname => SourceFile.stands_structLine hname
    onlyStructs := fun hplain file hfile => structLines_eq hmode hplain hplan howners hfile
    declaredOnce := fun hplain module plan hmem hdeclares file hfile =>
      count_structLine hmode hplain hplan howners hnodup hmem hdeclares hfile
    onlyImports := fun hplain file hfile line hline =>
      exists_statement hmode hplanned hplain hplan hfile hline }

/-- The run that declares the wrappers of the widget services. -/
def widgetWrappers : Generation :=
  .ofRequest Widgets.request ⟨true, false, false, false⟩ .standard

theorem structs_widgetWrappers :
    ((widgetWrappers.files .empty).1.toOption.map fun files => files.map SourceFile.structs) =
      some [["RegionWidget"], ["RegionSettings"]] := by
  decide +kernel

theorem wrappers_in_scope_widgets : ∃ files after plans, widgetWrappers.mode = .api ∧
    widgetWrappers.files .empty = (.ok files, after) ∧
    files.map SourceFile.structs = [["RegionWidget"], ["RegionSettings"]] ∧
    widgetWrappers.plan .empty = (.ok plans, after) ∧ files = widgetWrappers.filesOf plans ∧
    widgetWrappers.OnOneLine ∧ WrappersInScope widgetWrappers plans files := by
  have hmode : widgetWrappers.mode = .api := by decide +kernel
  have hstructs := structs_widgetWrappers
  cases hrun : widgetWrappers.files .empty with
  | mk result after =>
      cases result with
      | error error => rw [hrun] at hstructs; cases hstructs
      | ok files =>
          rw [hrun] at hstructs
          obtain ⟨plans, hplan, hfiles, hscope⟩ := wrappers_in_scope hmode hrun
          exact ⟨files, after, plans, hmode, rfl, Option.some.inj hstructs, hplan, hfiles,
            onOneLine_widgets _, hscope⟩

end Generation

end RegionGateway
