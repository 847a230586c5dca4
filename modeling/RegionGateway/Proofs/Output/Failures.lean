import RegionGateway.Proofs.Interface.Refusals
import RegionGateway.Proofs.Output.Files

/-!
# When nothing is generated

A run fails with the error of a request that is refused. Over any other request it fails at the first
gateway method whose input or output type has no name, and at nothing else (`fails_plan`): neither the
mode nor the wrappers claimed before decide anything. So the names of the files are the same in every mode
(`map_name_files`).
-/

namespace RegionGateway

/-- Operations one after the other for the elements of lists fail as a list of all elements does. -/
theorem findSome?_flatMap {α β γ : Type} (f : α → List β) (fault : β → Option γ) (as : List α) :
    (as.flatMap f).findSome? fault = as.findSome? fun a => (f a).findSome? fault := by
  induction as with
  | nil => rfl
  | cons a as ih =>
      rw [List.flatMap_cons, List.findSome?_append, ih, List.findSome?_cons]
      cases (f a).findSome? fault <;> rfl

/-- The input and the output type of a method have names. -/
def MethodDecl.IsTyped (method : MethodDecl) : Prop := method.inputType ≠ "" ∧ method.outputType ≠ ""

/-- What keeps a method from being rendered. -/
def MethodDecl.renderFault? (method : MethodDecl) : Option GenerationError :=
  if method.inputType = "" ∨ method.outputType = "" then
    some (.unrenderable (.unnamedType method.name))
  else none

theorem MethodDecl.renderFault?_eq_none {method : MethodDecl} :
    method.renderFault? = none ↔ method.IsTyped := by
  simp [renderFault?, IsTyped]

theorem MethodDecl.renderFault?_eq_some {method : MethodDecl} {error : GenerationError} :
    method.renderFault? = some error ↔
      ¬ method.IsTyped ∧ error = .unrenderable (.unnamedType method.name) := by
  rw [← renderFault?_eq_none]
  unfold renderFault?
  split <;> simp [eq_comm]

theorem MethodPlan.faultOf_ofMethod (request : Request) (service : String)
    (classified : ClassifiedMethod) (first : Bool) :
    (faultOf (ofMethod request service classified first)).map GenerationError.unrenderable =
      classified.method.renderFault? := by
  unfold ofMethod MethodDecl.renderFault?
  dsimp only
  split <;> rfl

namespace Generation

variable {request : Request}

/-- What keeps a gateway method from being planned. -/
def planFault? (request : Request) (method : MethodDecl) : Option GenerationError :=
  ((faultOf (classify method (request.message? method.inputType))).map .refused).or
    method.renderFault?

theorem fails_planMethod (module service : String) (method : MethodDecl) :
    (planMethod request module service method).Fails (planFault? request method) := by
  rw [planFault?, ← faultOf_mapError]
  refine Attempt.fails_bind (Attempt.fails_ofExcept _) fun _ classified _ hclassified => ?_
  have hmethod : classified.method = method :=
    classify_eq_ok (mapError_eq_ok (Attempt.ofExcept_eq_ok hclassified).1)
  rw [← Option.none_or (o := method.renderFault?)]
  refine Attempt.fails_bind (Attempt.fails_change _) fun _ first _ _ => ?_
  rw [← Option.or_none (o := method.renderFault?), ← hmethod,
    ← MethodPlan.faultOf_ofMethod request service classified first, ← faultOf_mapError]
  refine Attempt.fails_bind (Attempt.fails_ofExcept _) fun _ plan _ _ => ?_
  -- what is told about the wrapper cannot fail
  intro s
  cases first <;> rfl

theorem fails_planService (module : String) (service : ServiceDecl) :
    (planService request module service).Fails
      (service.gatewayMethods.findSome? (planFault? request)) := by
  rw [← Option.or_none (o := service.gatewayMethods.findSome? _)]
  refine Attempt.fails_bind (Attempt.fails_mapM fun method _ => ?_) fun _ methods _ _ _ => rfl
  exact fails_planMethod module service.name method

theorem fails_planFile (file : FileDecl) : (planFile request file).Fails
    (file.gatewayServices.findSome? fun service =>
      service.gatewayMethods.findSome? (planFault? request)) := by
  rw [← Option.or_none (o := file.gatewayServices.findSome? _)]
  refine Attempt.fails_bind (Attempt.fails_mapM fun service _ => ?_) fun _ services _ _ _ => rfl
  exact fails_planService file.moduleName service

/-- What keeps a run from planning its files. -/
def fault? (request : Request) : Option GenerationError :=
  ((faultOf request.validate).map .refused).or
    (request.gatewayMethods.findSome? fun declared => planFault? request declared.2.2)

theorem fails_plan (run : Generation) : run.plan.Fails (fault? run.request) := by
  have hmethods : (run.request.gatewayMethods.findSome? fun declared =>
      planFault? run.request declared.2.2) = run.request.gatewayFiles.findSome? fun file =>
        file.gatewayServices.findSome? fun service =>
          service.gatewayMethods.findSome? (planFault? run.request) := by
    rw [Request.gatewayMethods_eq, findSome?_flatMap]
    simp only [findSome?_flatMap, List.findSome?_map, Function.comp_def]
  rw [fault?, hmethods, ← faultOf_mapError]
  refine Attempt.fails_bind (Attempt.fails_ofExcept _) fun _ _ _ _ => ?_
  exact Attempt.fails_mapM fun file _ => fails_planFile file

theorem fails_files (run : Generation) : run.files.Fails (fault? run.request) :=
  Attempt.fails_map run.filesOf run.fails_plan

theorem files_eq_error {run : Generation} {start : WrapperOwners} {error : GenerationError} :
    (run.files start).1 = .error error ↔ fault? run.request = some error := by
  rw [← faultOf_eq_some, run.fails_files start]

/-- A gateway method of a request that is not refused is planned unless it cannot be rendered. -/
theorem planFault?_eq {count : Nat} (h : request.validate = .ok count)
    {declared : FileDecl × ServiceDecl × MethodDecl} (hdeclared : declared ∈ request.gatewayMethods) :
    planFault? request declared.2.2 = declared.2.2.renderFault? := by
  have hvalid := faultOf_eq_none.mpr ⟨count, h⟩
  rw [Request.faultOf_validate, Option.or_eq_none_iff, List.findSome?_eq_none_iff] at hvalid
  rw [planFault?, hvalid.2 declared hdeclared, Option.map_none, Option.none_or]

theorem fault?_eq_some_of_valid {count : Nat} (h : request.validate = .ok count)
    {error : GenerationError} : fault? request = some error ↔
      ∃ before declared rest, request.gatewayMethods = before ++ declared :: rest ∧
        (∀ earlier ∈ before, earlier.2.2.IsTyped) ∧ ¬ declared.2.2.IsTyped ∧
        error = .unrenderable (.unnamedType declared.2.2.name) := by
  rw [fault?, faultOf_eq_none.mpr ⟨count, h⟩, Option.map_none, Option.none_or,
    List.findSome?_eq_some_iff]
  refine exists_congr fun before => exists_congr fun declared => exists_congr fun rest =>
    and_congr_right fun hsplit => ?_
  have hplan : ∀ other ∈ before ++ declared :: rest,
      planFault? request other.2.2 = other.2.2.renderFault? := fun other hother =>
    planFault?_eq h (hsplit ▸ hother)
  have hbefore : (∀ earlier ∈ before, planFault? request earlier.2.2 = none) ↔
      ∀ earlier ∈ before, earlier.2.2.IsTyped := by
    refine forall₂_congr fun earlier hearlier => ?_
    rw [hplan earlier (List.mem_append_left _ hearlier), MethodDecl.renderFault?_eq_none]
  rw [hbefore, hplan declared (by simp), MethodDecl.renderFault?_eq_some]
  exact and_comm

theorem fault?_eq_some_of_refused {refusal : InterfaceError} (h : request.validate = .error refusal)
    {error : GenerationError} : fault? request = some error ↔ error = .refused refusal := by
  rw [fault?, faultOf_eq_some.mpr h, Option.map_some, Option.some_or, Option.some.injEq, eq_comm]

/-- The names of the files of a run, as far as it is not kept from planning them. -/
theorem map_name_files (run : Generation) (start : WrapperOwners) :
    ((run.files start).1.map fun files => files.map (·.name)) =
      match fault? run.request with
      | some error => .error error
      | none => .ok (run.request.gatewayFiles.map (·.moduleName ++ ".rs")) := by
  cases hrun : run.files start with
  | mk result after =>
      cases result with
      | error error =>
          rw [files_eq_error.mp (congrArg Prod.fst hrun)]
          rfl
      | ok files =>
          have hsound : fault? run.request = none := by
            rw [← run.fails_files start]
            exact faultOf_eq_none.mpr ⟨files, congrArg Prod.fst hrun⟩
          rw [hsound]
          exact congrArg Except.ok (run.names_eq hrun)

/-- How a run ends. -/
structure Ends (run : Generation) (start : WrapperOwners) : Prop where
  /-- It fails with the error of its request if that is refused, and fails with no such error else. -/
  refused : ∀ error, (run.files start).1 = .error (.refused error) ↔ run.request.validate = .error error
  /-- A request is refused for a module that two files generate, else for its first faulty method. -/
  refusal : ∀ error, run.request.validate = .error error ↔ run.request.Refusal error
  /-- Over any other request it fails at the first gateway method with a type that has no name. -/
  unrenderable : ∀ error, (run.files start).1 = .error (.unrenderable error) ↔
    (∃ count, run.request.validate = .ok count) ∧ ∃ before declared rest,
      run.request.gatewayMethods = before ++ declared :: rest ∧
      (∀ earlier ∈ before, earlier.2.2.IsTyped) ∧ ¬ declared.2.2.IsTyped ∧
      error = .unnamedType declared.2.2.name
  /-- If there is none, there is one file for each generated file with gateway methods. -/
  generated : (∃ count, run.request.validate = .ok count) →
    (∀ declared ∈ run.request.gatewayMethods, declared.2.2.IsTyped) →
    ∃ files, (run.files start).1 = .ok files ∧
      files.map (·.name) = run.request.gatewayFiles.map (·.moduleName ++ ".rs")
  /-- A run over the same request ends alike in every mode, with any paths: with the same error, or with
  files of the same names. -/
  alike : ∀ mode paths start', ((Generation.files ⟨run.request, mode, paths⟩ start').1.map
      fun files => files.map (·.name)) = (run.files start).1.map fun files => files.map (·.name)

/-- **Runs fail for what the request says, and alike in every mode.** A run over any request, in any mode
and with any wrappers claimed before, fails with the error of the request if that is refused, for a module
that two files generate or else for the first faulty method; otherwise at the first gateway method whose
input or output type has no name. In all other cases it generates the same files in every mode. -/
theorem ends_alike_in_every_mode (run : Generation) (start : WrapperOwners) : run.Ends start := by
  refine ⟨fun error => ?_, fun error => Request.validate_eq_error, fun error => ?_, ?_, ?_⟩
  · rw [files_eq_error]
    cases hvalid : run.request.validate with
    | error refusal =>
        rw [fault?_eq_some_of_refused hvalid, GenerationError.refused.injEq, Except.error.injEq,
          eq_comm]
    | ok count => simp [fault?_eq_some_of_valid hvalid]
  · rw [files_eq_error]
    cases hvalid : run.request.validate with
    | error refusal => simp [fault?_eq_some_of_refused hvalid]
    | ok count => simp [fault?_eq_some_of_valid hvalid]
  · rintro ⟨count, hvalid⟩ htyped
    have hsound : fault? run.request = none := by
      refine Option.eq_none_iff_forall_ne_some.mpr fun error herror => ?_
      obtain ⟨before, declared, rest, hsplit, -, huntyped, -⟩ :=
        (fault?_eq_some_of_valid hvalid).mp herror
      exact huntyped (htyped declared (by rw [hsplit]; simp))
    have hnames := run.map_name_files start
    rw [hsound] at hnames
    cases hrun : (run.files start).1 with
    | error error => rw [hrun] at hnames; cases hnames
    | ok files =>
        rw [hrun] at hnames
        exact ⟨files, rfl, Except.ok.inj hnames⟩
  · intro mode paths start'
    rw [map_name_files, map_name_files]

end Generation

end RegionGateway
