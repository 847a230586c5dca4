import RegionGateway.Proofs.Output.Failures
import RegionGateway.Proofs.Output.Wrappers

/-!
# What a failed run leaves claimed

A wrapper is claimed before its method is planned. A request that is refused is refused before any
claim is made, but a run that fails at a method with a type that has no name has claimed the wrappers
of all methods up to that one, and of that one too (`halts_plan`). Nothing takes the claims back, so a
later run with the same owners leaves those wrappers out (`mem_structs_iff`).
-/

namespace RegionGateway

/-! ## Claims of declared methods -/

/-- A method as it is declared, with its file and its service. -/
abbrev Declared : Type := FileDecl × ServiceDecl × MethodDecl

/-- The module of the first of these methods that takes an input type. -/
def takerOf? (methods : List Declared) (type : String) : Option String :=
  (methods.find? fun declared => declared.2.2.inputType == type).map fun declared =>
    declared.1.moduleName

theorem takerOf?_append (methods more : List Declared) (type : String) :
    takerOf? (methods ++ more) type = (takerOf? methods type).or (takerOf? more type) := by
  rw [takerOf?, List.find?_append, Option.map_or]
  rfl

theorem takerOf?_eq_none {methods : List Declared} {type : String} :
    takerOf? methods type = none ↔ ∀ declared ∈ methods, declared.2.2.inputType ≠ type := by
  simp [takerOf?]

/-- The owners after the wrappers of methods are claimed: the first method that takes a type claims it,
unless it was claimed before. -/
def Claimed (start : WrapperOwners) (methods : List Declared) (after : WrapperOwners) : Prop :=
  ∀ type, after.owner? type = (start.owner? type).or (takerOf? methods type)

namespace Claimed

variable {start after : WrapperOwners} {methods : List Declared}

theorem traced : Attempt.Traced Claimed where
  nil _ _ := Option.or_none.symm
  append h h' type := by rw [h' type, h type, Option.or_assoc, takerOf?_append]

/-- No owner has changed exactly if every type that is taken was claimed before. -/
theorem unchanged_iff (h : Claimed start methods after) :
    (∀ type, after.owner? type = start.owner? type) ↔
      ∀ declared ∈ methods, start.owner? declared.2.2.inputType ≠ none := by
  constructor
  · intro hsame declared hdeclared hnone
    have htaken := h declared.2.2.inputType
    rw [hsame, hnone, Option.none_or] at htaken
    exact takerOf?_eq_none.mp htaken.symm declared hdeclared rfl
  · intro hclaimed type
    rw [h type]
    cases hstart : start.owner? type with
    | some owner => rfl
    | none =>
        refine (Option.none_or).trans (takerOf?_eq_none.mpr fun declared hdeclared htype => ?_)
        exact hclaimed declared hdeclared (htype ▸ hstart)

end Claimed

namespace WrapperOwners

theorem mem_entries_iff (owners : WrapperOwners) (type : String) :
    type ∈ owners.entries.map (·.1) ↔ owners.owner? type ≠ none := by
  simp only [owner?, ne_eq, List.lookup_eq_none_iff, List.mem_map, bne_iff_ne]
  grind

end WrapperOwners

namespace Generation

variable {run : Generation} {request : Request} {start after : WrapperOwners}

/-! ## Up to where a run claims -/

/-- A method of a request that is not refused is classified. -/
theorem classify_of_valid {count : Nat} (hvalid : request.validate = .ok count) {declared : Declared}
    (hdeclared : declared ∈ request.gatewayMethods) :
    ∃ classified, classify declared.2.2 (request.message? declared.2.2.inputType) = .ok classified := by
  have hsound := faultOf_eq_none.mpr ⟨count, hvalid⟩
  rw [Request.faultOf_validate, Option.or_eq_none_iff, List.findSome?_eq_none_iff] at hsound
  exact faultOf_eq_none.mp (hsound.2 declared hdeclared)

/-- A method that is classified claims its wrapper, whether it is planned or not. -/
theorem planMethod_snd {module service : String} {method : MethodDecl} {classified : ClassifiedMethod}
    (h : classify method (request.message? method.inputType) = .ok classified) (owners : WrapperOwners) :
    (planMethod request module service method owners).2 = (owners.claim method.inputType module).2 := by
  have hclassified : (Attempt.ofExcept ((classify method (request.message? method.inputType)).mapError
      .refused) : Attempt WrapperOwners GenerationError ClassifiedMethod) owners =
        (.ok classified, owners) := by
    rw [h]
    rfl
  have hclaimed : (Attempt.change (WrapperOwners.claim method.inputType module) :
      Attempt WrapperOwners GenerationError Bool) owners =
        (.ok (owners.claim method.inputType module).1, (owners.claim method.inputType module).2) := rfl
  unfold planMethod
  rw [Attempt.bind_ok _ hclassified, Attempt.bind_ok _ hclaimed]
  generalize owners.claim method.inputType module = claimed
  cases hmade : MethodPlan.ofMethod request service classified claimed.1 with
  | error error => rfl
  | ok plan => cases claimed.1 <;> rfl

theorem halts_planMethod {count : Nat} (hvalid : request.validate = .ok count) {declared : Declared}
    (hdeclared : declared ∈ request.gatewayMethods) :
    (planMethod request declared.1.moduleName declared.2.1.name declared.2.2).Halts Claimed
      (fun other => other.2.2.IsTyped) [declared] := by
  obtain ⟨file, service, method⟩ := declared
  obtain ⟨classified, hclassified⟩ := classify_of_valid hvalid hdeclared
  have hfault : ∀ s, faultOf (planMethod request file.moduleName service.name method s).1 =
      method.renderFault? := fun s => by
    rw [fails_planMethod, planFault?_eq hvalid hdeclared]
  have hclaimed : ∀ s, Claimed s [(file, service, method)]
      (planMethod request file.moduleName service.name method s).2 := fun s type => by
    rw [planMethod_snd hclassified, WrapperOwners.owner?_claim, takerOf?, List.find?_singleton]
    by_cases htype : method.inputType = type <;> simp [htype]
  constructor
  · intro s plan after h
    have htyped : method.renderFault? = none := by rw [← hfault s, h]; rfl
    have hafter := hclaimed s
    rw [h] at hafter
    exact ⟨hafter, by simpa using MethodDecl.renderFault?_eq_none.mp htyped⟩
  · intro s error after h
    have huntyped : method.renderFault? = some error := by rw [← hfault s, h]; rfl
    have hafter := hclaimed s
    rw [h] at hafter
    exact ⟨[], _, [], rfl, by simp, (MethodDecl.renderFault?_eq_some.mp huntyped).1, hafter⟩

theorem halts_planFile {count : Nat} (hvalid : request.validate = .ok count) {file : FileDecl}
    (hfile : file ∈ request.gatewayFiles) :
    (planFile request file).Halts Claimed (fun other => other.2.2.IsTyped)
      (file.gatewayServices.flatMap fun service =>
        service.gatewayMethods.map fun method => (file, service, method)) := by
  refine Attempt.halts_map Claimed.traced (FilePlan.mk file.moduleName file.name) ?_
  refine Attempt.halts_mapM Claimed.traced _ fun service hservice => ?_
  refine Attempt.halts_map Claimed.traced (ServicePlan.mk service.name) ?_
  rw [List.map_eq_flatMap]
  refine Attempt.halts_mapM Claimed.traced _ fun method hmethod => ?_
  have hdeclared : (file, service, method) ∈ request.gatewayMethods := by
    rw [Request.gatewayMethods_eq]
    refine List.mem_flatMap.mpr ⟨file, hfile, List.mem_flatMap.mpr ⟨service, hservice, ?_⟩⟩
    exact List.mem_map_of_mem hmethod
  exact halts_planMethod hvalid hdeclared

/-- A run over a request that is not refused claims the wrappers of its methods up to the first one that
cannot be rendered, and of that one. -/
theorem halts_plan {count : Nat} (hvalid : run.request.validate = .ok count) :
    run.plan.Halts Claimed (fun other => other.2.2.IsTyped) run.request.gatewayMethods := by
  have hchecked : (Attempt.ofExcept (run.request.validate.mapError GenerationError.refused) :
      Attempt WrapperOwners GenerationError Nat) = pure count := by
    rw [hvalid]
    rfl
  unfold plan
  rw [hchecked, pure_bind, Request.gatewayMethods_eq]
  exact Attempt.halts_mapM Claimed.traced _ fun file hfile => halts_planFile hvalid hfile

/-- A run over a request that is refused claims nothing. -/
theorem plan_of_refused {refusal : InterfaceError} (h : run.request.validate = .error refusal)
    (start : WrapperOwners) : run.plan start = (.error (.refused refusal), start) := by
  unfold plan
  rw [h]
  rfl

/-! ## What a later run leaves out -/

/-- A run declares the wrappers of the input types that were not claimed before it. -/
theorem mem_structs_iff (hmode : run.mode = .api) {files : List SourceFile}
    (h : run.files start = (.ok files, after)) {declared : Declared}
    (hdeclared : declared ∈ run.request.gatewayMethods) :
    wrapperName declared.2.2.inputType ∈ files.flatMap SourceFile.structs ↔
      start.owner? declared.2.2.inputType = none := by
  obtain ⟨plans, hplan, rfl⟩ := files_eq_ok h
  have hplanned := plan_eq_ok hplan
  have hinputs : run.request.gatewayMethods.map (·.2.2.inputType) =
      (FilePlan.walk plans).map (·.2.inputType) :=
    map_eq_map_of_forall₂ (hplanned.walk_isOf.imp fun _ _ hof => hof.2.inputType.symm)
  have hstructs : (run.filesOf plans).flatMap SourceFile.structs =
      (Route.distinct (start.entries.map (·.1))
        (run.request.gatewayMethods.map (·.2.2.inputType))).map wrapperName := by
    rw [structs_filesOf hmode, hinputs,
      ← hplanned.claims.declared_eq fun type => start.mem_entries_iff type, List.map_map]
    rfl
  rw [hstructs, List.mem_map_of_injective wrapperName_injective, Route.mem_distinct,
    start.mem_entries_iff, not_not]
  exact and_iff_right (List.mem_map_of_mem hdeclared)

/-- The methods that a failed run has reached: none of a request that is refused, else those up to the
first one with a type that has no name, and that one. -/
inductive Reached (run : Generation) : GenerationError → List Declared → Prop
  | refused (refusal : InterfaceError) (h : run.request.validate = .error refusal) :
      Reached run (.refused refusal) []
  | unrenderable (count : Nat) (before : List Declared) (declared : Declared) (rest : List Declared)
      (valid : run.request.validate = .ok count)
      (methods : run.request.gatewayMethods = before ++ declared :: rest)
      (typed : ∀ earlier ∈ before, earlier.2.2.IsTyped) (untyped : ¬ declared.2.2.IsTyped) :
      Reached run (.unrenderable (.unnamedType declared.2.2.name)) (before ++ [declared])

/-- What a run that has reached these methods leaves behind. -/
structure LeavesClaimed (start : WrapperOwners) (reached : List Declared) (after : WrapperOwners) :
    Prop where
  /-- The wrappers of the methods are claimed. -/
  owners : ∀ type, after.owner? type = (start.owner? type).or (takerOf? reached type)
  /-- So every owner is as before exactly if the input types of all these methods were claimed. -/
  unchanged : (∀ type, after.owner? type = start.owner? type) ↔
    ∀ declared ∈ reached, start.owner? declared.2.2.inputType ≠ none
  /-- A later run that takes an input type declares its wrapper if that was not claimed before and none
  of these methods has claimed it. -/
  declared : ∀ (later : Generation) files last, later.mode = .api →
    later.files after = (.ok files, last) → ∀ declared ∈ later.request.gatewayMethods,
    (wrapperName declared.2.2.inputType ∈ files.flatMap SourceFile.structs ↔
      start.owner? declared.2.2.inputType = none ∧
        ∀ taker ∈ reached, taker.2.2.inputType ≠ declared.2.2.inputType)

/-- **What a failed run has claimed stays claimed.** A run over any request, in any mode and with any
owners, that fails for a request that is refused has claimed nothing. If it fails at a method with a type
that has no name, the input types of all methods up to that one, and its own, belong to the modules that
took them first, as if the run had declared their wrappers: a later run with these owners declares none
of them. -/
theorem failed_run_leaves_claims {error : GenerationError} (h : run.files start = (.error error, after)) :
    ∃ reached, run.Reached error reached ∧ LeavesClaimed start reached after := by
  have hleaves : ∀ {reached}, Claimed start reached after → LeavesClaimed start reached after := by
    intro reached hclaimed
    refine ⟨hclaimed, hclaimed.unchanged_iff, ?_⟩
    intro later files last hmode hlater declared hdeclared
    rw [mem_structs_iff hmode hlater hdeclared, hclaimed, Option.or_eq_none_iff, takerOf?_eq_none]
  cases hvalid : run.request.validate with
  | error refusal =>
      rw [files, map_eq_pure_bind, Attempt.bind_error _ (plan_of_refused hvalid start)] at h
      obtain ⟨herror, rfl⟩ := Prod.mk.inj h
      obtain rfl := Except.error.inj herror
      exact ⟨[], .refused refusal hvalid, hleaves (Claimed.traced.nil start)⟩
  | ok count =>
      have hhalts : run.files.Halts Claimed (fun other => other.2.2.IsTyped) run.request.gatewayMethods :=
        Attempt.halts_map Claimed.traced run.filesOf (halts_plan hvalid)
      obtain ⟨before, declared, rest, hmethods, htyped, huntyped, hclaimed⟩ := hhalts.error h
      obtain rfl : error = .unrenderable (.unnamedType declared.2.2.name) := by
        have herror := files_eq_error.mp (congrArg Prod.fst h)
        have hfirst := (fault?_eq_some_of_valid hvalid).mpr
          ⟨before, declared, rest, hmethods, htyped, huntyped, rfl⟩
        exact Option.some.inj (herror.symm.trans hfirst)
      exact ⟨_, .unrenderable count before declared rest hvalid hmethods htyped huntyped, hleaves hclaimed⟩

/-- A service whose second method has no output type. -/
def untypedService : ServiceDecl where
  name := "StateApi"
  methods := [
    Widgets.guardedMethod "ShowState" "State" "State" "state,ActionView," false,
    Widgets.guardedMethod "DropState" "State" "" "state,ActionManage," false]

/-- The service as it is corrected. -/
def typedService : ServiceDecl where
  name := "StateApi"
  methods := [
    Widgets.guardedMethod "ShowState" "State" "State" "state,ActionView," false,
    Widgets.guardedMethod "DropState" "State" "Result" "state,ActionManage," false]

/-- The run that declares the wrappers of a service. -/
def wrappersOf (service : ServiceDecl) : Generation :=
  .ofRequest ⟨[⟨"state.proto", [service], []⟩], [], none⟩ ⟨true, false, false, false⟩ .standard

theorem failed_run_leaves_claims_untyped :
    ((wrappersOf untypedService).files .empty).1 = .error (.unrenderable (.unnamedType "DropState")) ∧
      ((wrappersOf untypedService).files .empty).2.owner? "State" = some "state" ∧
      ∃ reached, (wrappersOf untypedService).Reached (.unrenderable (.unnamedType "DropState")) reached ∧
        LeavesClaimed .empty reached ((wrappersOf untypedService).files .empty).2 := by
  have hfails : ((wrappersOf untypedService).files .empty).1 =
      .error (.unrenderable (.unnamedType "DropState")) := faultOf_eq_some.mp (by decide +kernel)
  exact ⟨hfails, by decide +kernel, failed_run_leaves_claims (Prod.ext hfails rfl)⟩

/-- After the run has failed, the corrected one declares nothing, where it would have declared one
wrapper. -/
theorem corrected_run_without_wrapper :
    faultOf ((wrappersOf untypedService).files .empty).1 ≠ none ∧
      ((wrappersOf untypedService).files .empty).2.owner? "State" ≠ WrapperOwners.empty.owner? "State" ∧
      (((wrappersOf typedService).files .empty).1.toOption.map fun files =>
        files.flatMap SourceFile.structs) = some ["RegionState"] ∧
      (((wrappersOf typedService).files ((wrappersOf untypedService).files .empty).2).1.toOption.map
        fun files => files.flatMap SourceFile.structs) = some [] := by
  decide +kernel

end Generation

end RegionGateway
