import RegionGateway.Proofs.Output.Planning
import RegionGateway.Proofs.Rust.Imports
import RegionGateway.Proofs.Rust.Occurrences

/-!
# What generated files consist of

The declarations and imports of a file are those of its methods and services, one after the other,
below the route table in the first file (`filesOf_isOf`). There is one file for each generated interface
file with gateway methods, in order (`origins_eq`).
-/

namespace RegionGateway

namespace Chunk

/-- The functions among declarations. -/
def functions (chunk : Chunk) : List Rust.Function := chunk.items.filterMap Rust.Item.function?

theorem mem_functions {chunk : Chunk} {f : Rust.Function} :
    f ∈ chunk.functions ↔ .function f ∈ chunk.items := by
  refine List.mem_filterMap.trans ⟨?_, fun h => ⟨_, h, rfl⟩⟩
  rintro ⟨item, hitem, hfunction⟩
  cases item <;> cases hfunction
  exact hitem

@[simp] theorem append_items (a b : Chunk) : (a.append b).items = a.items ++ b.items := rfl

@[simp] theorem append_uses (a b : Chunk) : (a.append b).uses = a.uses ++ b.uses := rfl

@[simp] theorem concat_items (chunks : List Chunk) :
    (concat chunks).items = chunks.flatMap (·.items) := by
  induction chunks with
  | nil => rfl
  | cons first rest ih => exact congrArg (first.items ++ ·) ih

@[simp] theorem concat_uses (chunks : List Chunk) : (concat chunks).uses = chunks.flatMap (·.uses) := by
  induction chunks with
  | nil => rfl
  | cons first rest ih => exact congrArg (first.uses ++ ·) ih

theorem ext {a b : Chunk} (huses : a.uses = b.uses) (hitems : a.items = b.items) : a = b := by
  cases a
  cases b
  cases huses
  cases hitems
  rfl

/-- What is imported is what the declarations use. -/
theorem mem_symbolsOf_imports {chunk : Chunk} {path symbol : String} :
    symbol ∈ chunk.imports.symbolsOf path ↔ ⟨path, symbol⟩ ∈ chunk.uses :=
  Rust.Imports.mem_symbolsOf_recordAll

end Chunk

/-- More modules and symbols are more imports. -/
theorem ModulePaths.uses_subset (paths : ModulePaths) {modules modules' symbols symbols' : List String}
    (hmodules : modules ⊆ modules') (hsymbols : symbols ⊆ symbols') :
    paths.uses modules symbols ⊆ paths.uses modules' symbols' := by
  refine List.append_subset.mpr ⟨?_, ?_⟩
  · exact List.Subset.trans (List.filterMap_subset _ hmodules) (List.subset_append_left _ _)
  · exact List.Subset.trans (List.map_subset _ hsymbols) (List.subset_append_right _ _)

namespace Generation

variable (run : Generation)

/-- What the first file begins with. -/
def table : Chunk := RouteTable.chunk run.mode run.paths run.request run.routes

/-- The parts of a file below what it begins with, one after the other. -/
def parts (plan : FilePlan) : List Chunk :=
  plan.services.flatMap fun service =>
    run.mode.serviceHead run.paths service :: service.methods.map (run.mode.methodChunk run.paths) ++
      [run.mode.serviceTail run.request (InputIndex.ofRequest run.request) run.paths service]

theorem servicesChunk_eq (plan : FilePlan) : run.servicesChunk plan = .concat (run.parts plan) := by
  refine Chunk.ext ?_ ?_ <;>
    simp [servicesChunk, Mode.serviceChunk, parts, List.flatMap_map, List.flatMap_assoc]

theorem mem_parts {plan : FilePlan} {part : Chunk} : part ∈ run.parts plan ↔
    ∃ service ∈ plan.services, part = run.mode.serviceHead run.paths service ∨
      (∃ method ∈ service.methods, part = run.mode.methodChunk run.paths method) ∨
      part = run.mode.serviceTail run.request (InputIndex.ofRequest run.request) run.paths service := by
  simp [parts, eq_comm]

/-- What is generated for a method is part of its file. -/
theorem methodChunk_mem_parts {plan : FilePlan} {module : String} {method : MethodPlan}
    (h : (module, method) ∈ plan.methods) :
    run.mode.methodChunk run.paths method ∈ run.parts plan := by
  obtain ⟨-, service, hservice, hmethod⟩ := FilePlan.mem_methods.mp h
  exact run.mem_parts.mpr ⟨service, hservice, .inr (.inl ⟨method, hmethod, rfl⟩)⟩

/-- The file of a plan, given what it begins with. -/
def fileOf (head : Chunk) (plan : FilePlan) : SourceFile :=
  ⟨plan.module, plan.source, head.append (run.servicesChunk plan)⟩

theorem mem_items_fileOf {head : Chunk} {plan : FilePlan} {item : Rust.Item} :
    item ∈ (run.fileOf head plan).chunk.items ↔
      item ∈ head.items ∨ ∃ part ∈ run.parts plan, item ∈ part.items := by
  simp [fileOf, servicesChunk_eq]

theorem mem_uses_fileOf {head : Chunk} {plan : FilePlan} {use : Rust.Use} :
    use ∈ (run.fileOf head plan).chunk.uses ↔
      use ∈ head.uses ∨ ∃ part ∈ run.parts plan, use ∈ part.uses := by
  simp [fileOf, servicesChunk_eq]

theorem filesOf_cons (first : FilePlan) (rest : List FilePlan) :
    run.filesOf (first :: rest) = run.fileOf run.table first :: rest.map (run.fileOf .empty) := rfl

/-- Every file is that of its plan; what it begins with is the route table or nothing. -/
theorem filesOf_isOf (plans : List FilePlan) : List.Forall₂
    (fun plan file => ∃ head, (head = run.table ∨ head = .empty) ∧ file = run.fileOf head plan)
    plans (run.filesOf plans) := by
  cases plans with
  | nil => exact .nil
  | cons first rest =>
      rw [filesOf_cons]
      refine .cons ⟨run.table, .inl rfl, rfl⟩ ?_
      rw [List.forall₂_map_right_iff, List.forall₂_same]
      exact fun plan _ => ⟨.empty, .inr rfl, rfl⟩

/-- Every planned method has a file. -/
theorem exists_fileOf {plans : List FilePlan} {module : String} {method : MethodPlan}
    (h : (module, method) ∈ FilePlan.walk plans) :
    ∃ plan, (module, method) ∈ plan.methods ∧
      ∃ head, (head = run.table ∨ head = .empty) ∧ run.fileOf head plan ∈ run.filesOf plans := by
  obtain ⟨plan, hplan, hmethod⟩ := List.mem_flatMap.mp h
  obtain ⟨file, hfile, head, hhead, rfl⟩ := exists_of_forall₂ (run.filesOf_isOf plans) hplan
  exact ⟨plan, hmethod, head, hhead, hfile⟩

/-- Every file has a plan. -/
theorem exists_plan {plans : List FilePlan} {file : SourceFile} (h : file ∈ run.filesOf plans) :
    ∃ plan ∈ plans, ∃ head, (head = run.table ∨ head = .empty) ∧ file = run.fileOf head plan :=
  exists_of_forall₂ (run.filesOf_isOf plans).flip h

theorem map_module_filesOf (plans : List FilePlan) :
    (run.filesOf plans).map (·.module) = plans.map (·.module) := by
  refine (map_eq_map_of_forall₂ ((run.filesOf_isOf plans).imp ?_)).symm
  rintro plan _ ⟨head, -, rfl⟩
  rfl

section

variable {owners after : WrapperOwners} {files : List SourceFile} (h : run.files owners = (.ok files, after))
include h

/-- There is one file for each generated interface file with gateway methods, in order. -/
theorem origins_eq : files.map (fun file => (file.module, file.source)) =
    run.request.gatewayFiles.map fun file => (file.moduleName, file.name) := by
  obtain ⟨plans, hplan, rfl⟩ := files_eq_ok h
  have hplans : (run.filesOf plans).map (fun file => (file.module, file.source)) =
      plans.map fun plan => (plan.module, plan.source) := by
    refine (map_eq_map_of_forall₂ ((run.filesOf_isOf plans).imp ?_)).symm
    rintro plan _ ⟨head, -, rfl⟩
    rfl
  rw [hplans]
  refine (map_eq_map_of_forall₂ ((plan_eq_ok hplan).files.imp fun file plan hof => ?_)).symm
  rw [hof.module, hof.source]

theorem names_eq : files.map (·.name) = run.request.gatewayFiles.map (·.moduleName ++ ".rs") := by
  have hmodules := congrArg (List.map fun origin : String × String => origin.1 ++ ".rs") (run.origins_eq h)
  simp only [List.map_map, Function.comp_def] at hmodules
  simp only [SourceFile.name, hmodules]

end

end Generation

end RegionGateway
