import RegionGateway.Proofs.Output.Files

/-!
# Methods outside the gateway

A method without a directive, and one that takes a stream of requests, leaves no trace in what is
generated: a run over a request does what it does over the request without such methods
(`other_methods_invisible`). A run reads a request in two ways. It looks messages up, and what it finds
depends on the declared messages alone (the lemmas that end in `_congr`); and it goes through files and
services in search of gateway methods, which stay where they are when the other methods are removed (the
lemmas that end in `_prune`).
-/

namespace RegionGateway

/-! ## Requests without the other methods -/

/-- A method that is not part of the gateway: its directive is absent or empty, or it takes a stream of
requests. -/
def MethodDecl.isOther (method : MethodDecl) : Bool :=
  method.authorization == none || method.authorization == some "" || method.clientStreaming

theorem MethodDecl.isGateway_eq (method : MethodDecl) : method.isGateway = !method.isOther := by
  unfold isGateway directive? isOther
  cases method.authorization with
  | none => rfl
  | some text => by_cases h : text = "" <;> simp [h, Option.filter]

/-- A service without the other methods. -/
def ServiceDecl.prune (service : ServiceDecl) : ServiceDecl :=
  { service with methods := service.methods.filter fun method => !method.isOther }

def FileDecl.prune (file : FileDecl) : FileDecl :=
  { file with services := file.services.map (·.prune) }

def Request.prune (request : Request) : Request :=
  { request with files := request.files.map (·.prune) }

namespace ServiceDecl

theorem gatewayMethods_prune (service : ServiceDecl) :
    service.prune.gatewayMethods = service.gatewayMethods := by
  show (service.methods.filter fun method => !method.isOther).filter (·.isGateway) =
    service.methods.filter (·.isGateway)
  simp only [MethodDecl.isGateway_eq, List.filter_filter, Bool.and_self]

theorem hasGatewayMethods_prune (service : ServiceDecl) :
    service.prune.hasGatewayMethods = service.hasGatewayMethods := by
  show (service.methods.filter fun method => !method.isOther).any (·.isGateway) =
    service.methods.any (·.isGateway)
  simp only [MethodDecl.isGateway_eq, List.any_filter, Bool.and_self]

end ServiceDecl

namespace FileDecl

theorem moduleName_prune (file : FileDecl) : file.prune.moduleName = file.moduleName := by
  have hname : file.prune.name = file.name := rfl
  rw [moduleName, moduleName, hname]

theorem hasGatewayMethods_prune (file : FileDecl) :
    file.prune.hasGatewayMethods = file.hasGatewayMethods := by
  show (file.services.map (·.prune)).any (·.hasGatewayMethods) = file.services.any (·.hasGatewayMethods)
  simp only [List.any_map, Function.comp_def, ServiceDecl.hasGatewayMethods_prune]

theorem gatewayServices_prune (file : FileDecl) :
    file.prune.gatewayServices = file.gatewayServices.map (·.prune) := by
  show (file.services.map (·.prune)).filter (·.hasGatewayMethods) = _
  rw [List.filter_map, gatewayServices]
  simp only [Function.comp_def, ServiceDecl.hasGatewayMethods_prune]

end FileDecl

namespace Request

theorem messages_prune (request : Request) : request.prune.messages = request.messages := by
  show (request.files.map (·.prune)).flatMap (·.messages) = _
  rw [List.flatMap_map]
  rfl

theorem gatewayFiles_prune (request : Request) :
    request.prune.gatewayFiles = request.gatewayFiles.map (·.prune) := by
  have hgenerated : request.prune.generatedFiles = request.generatedFiles.map (·.prune) := by
    show (request.files.map (·.prune)).filter (fun file => request.shouldGenerate file.name) = _
    rw [List.filter_map]
    rfl
  rw [gatewayFiles, hgenerated, List.filter_map, gatewayFiles]
  simp only [Function.comp_def, FileDecl.hasGatewayMethods_prune]

/-- The gateway methods stay, in their places. -/
theorem gatewayMethods_prune (request : Request) : request.prune.gatewayMethods =
    request.gatewayMethods.map fun (file, service, method) => (file.prune, service.prune, method) := by
  simp only [gatewayMethods_eq, gatewayFiles_prune, FileDecl.gatewayServices_prune, List.flatMap_map,
    List.map_flatMap, List.map_map, ServiceDecl.gatewayMethods_prune, Function.comp_def]

theorem checkModules_prune (claimed : List (String × String)) (files : List FileDecl) :
    checkModules claimed (files.map (·.prune)) = checkModules claimed files := by
  induction files generalizing claimed with
  | nil => rfl
  | cons file files ih =>
      rw [List.map_cons, checkModules, checkModules, FileDecl.moduleName_prune]
      cases claimed.lookup file.moduleName with
      | some first => rfl
      | none => exact ih _

end Request

/-! ## Messages decide what is found -/

section

variable {request other : Request} (h : request.messages = other.messages)
include h

theorem Request.message?_congr : request.message? = other.message? := by
  funext name
  rw [message?, message?, h]

theorem Request.fieldMessage?_congr : request.fieldMessage? = other.fieldMessage? := by
  funext field
  rw [fieldMessage?, fieldMessage?, message?_congr h]

theorem FieldPath.below_congr (depth : Nat) : below request depth = below other depth := by
  induction depth with
  | zero => rfl
  | succ depth ih =>
      funext seen parent message
      rw [below, below, ih, Request.fieldMessage?_congr h]

theorem FieldPath.all_congr : all request = all other := by
  funext message
  rw [all, all, h, below_congr h]

theorem FieldPath.numbers?_congr (message : Option MessageDecl) (segments : List String) :
    numbers? request message segments = numbers? other message segments := by
  induction segments generalizing message with
  | nil => rfl
  | cons segment rest ih => simp only [numbers?, ih, Request.fieldMessage?_congr h]

theorem FieldPath.id?_congr : id? request = id? other := by
  funext message path
  rw [id?, id?, numbers?_congr h]

theorem MethodPlan.ofMethod_congr : ofMethod request = ofMethod other := by
  funext service classified first
  simp only [ofMethod, Request.message?_congr h, FieldPath.all_congr h, FieldPath.id?_congr h]

theorem Generation.planMethod_congr : planMethod request = planMethod other := by
  funext module service method
  rw [planMethod, planMethod, Request.message?_congr h, MethodPlan.ofMethod_congr h]

theorem RouteTable.table_congr : table request = table other := by
  funext routes
  simp only [table, Route.documentation, Route.updateLines, Request.message?_congr h,
    FieldPath.all_congr h]

theorem RouteTable.chunk_congr (mode : Mode) (paths : ModulePaths) :
    chunk mode paths request = chunk mode paths other := by
  funext routes
  rw [chunk, chunk, table_congr h]

theorem MessageTests.wanted_congr : wanted request = wanted other := by
  funext inputs plan
  rw [wanted, wanted, Request.message?_congr h]

theorem Mode.serviceTail_congr : serviceTail request = serviceTail other := by
  funext inputs mode paths service
  unfold serviceTail MessageTests.ofService
  rw [MessageTests.wanted_congr h]

theorem Mode.serviceChunk_congr : serviceChunk request = serviceChunk other := by
  funext inputs mode paths service
  rw [serviceChunk, serviceChunk, serviceTail_congr h]

end

/-! ## Runs without the other methods -/

theorem Route.ofRequest_prune (request : Request) : ofRequest request.prune = ofRequest request := by
  rw [ofRequest, Request.gatewayMethods_prune, List.map_map]
  simp only [Function.comp_def, FileDecl.moduleName_prune]
  rfl

theorem InputIndex.ofRequest_prune (request : Request) : ofRequest request.prune = ofRequest request := by
  rw [ofRequest, Request.gatewayMethods_prune, List.map_map]
  rfl

theorem Request.validate_prune (request : Request) : request.prune.validate = request.validate := by
  have hmodules := checkModules_prune [] request.gatewayFiles
  rw [← gatewayFiles_prune] at hmodules
  have hclassify : (request.prune.gatewayMethods.mapM fun (_, _, method) =>
      classify method (request.prune.message? method.inputType)) =
      request.gatewayMethods.mapM fun (_, _, method) =>
        classify method (request.message? method.inputType) := by
    rw [gatewayMethods_prune, List.mapM_map, message?_congr request.messages_prune]
    rfl
  show (checkModules [] request.prune.gatewayFiles >>= fun _ => _) =
    (checkModules [] request.gatewayFiles >>= fun _ => _)
  rw [hmodules, hclassify]

namespace Generation

theorem planService_prune (request : Request) (module : String) (service : ServiceDecl) :
    planService request.prune module service.prune = planService request module service := by
  rw [planService, planService, ServiceDecl.gatewayMethods_prune,
    planMethod_congr request.messages_prune]
  rfl

theorem planFile_prune (request : Request) (file : FileDecl) :
    planFile request.prune file.prune = planFile request file := by
  have hservices := file.gatewayServices_prune
  unfold FileDecl.gatewayServices at hservices
  simp only [planFile, hservices, List.mapM_map, FileDecl.moduleName_prune, Function.comp_def,
    planService_prune]
  rfl

/-- The run over the request without the other methods. -/
def prune (run : Generation) : Generation := { run with request := run.request.prune }

theorem plan_prune (run : Generation) : run.prune.plan = run.plan := by
  have hfiles : run.prune.request.gatewayFiles.mapM (planFile run.prune.request) =
      run.request.gatewayFiles.mapM (planFile run.request) := by
    show run.request.prune.gatewayFiles.mapM (planFile run.request.prune) = _
    rw [Request.gatewayFiles_prune, List.mapM_map]
    simp only [Function.comp_def, planFile_prune]
  have hvalidate : run.prune.request.validate = run.request.validate := Request.validate_prune run.request
  unfold plan
  rw [hvalidate]
  exact congrArg _ (funext fun _ => hfiles)

theorem filesOf_prune (run : Generation) (plans : List FilePlan) :
    run.prune.filesOf plans = run.filesOf plans := by
  have hmessages := run.request.messages_prune
  have hservices : run.prune.servicesChunk = run.servicesChunk := by
    funext plan
    show Chunk.concat (plan.services.map (run.mode.serviceChunk run.request.prune
      (InputIndex.ofRequest run.request.prune) run.paths)) = _
    rw [InputIndex.ofRequest_prune, Mode.serviceChunk_congr hmessages]
    rfl
  have htable : run.prune.table = run.table := by
    show RouteTable.chunk run.mode run.paths run.request.prune (Route.ofRequest run.request.prune) = _
    rw [Route.ofRequest_prune, RouteTable.chunk_congr hmessages]
    rfl
  cases plans with
  | nil => rfl
  | cons first rest =>
      simp only [filesOf_cons, htable]
      unfold fileOf
      rw [hservices]

/-- **Methods outside the gateway are invisible.** Over any request, in any mode, with any modules and
whatever wrappers are claimed before: without the methods whose directive is absent or empty and those
that take a stream of requests, a run generates the same files, with the same names and texts in the same
order, or fails with the same error; and it claims the same wrappers. -/
theorem other_methods_invisible (run : Generation) (start : WrapperOwners) :
    run.prune.files start = run.files start := by
  have hfiles : run.prune.filesOf = run.filesOf := funext run.filesOf_prune
  rw [files, files, plan_prune, hfiles]

end Generation

end RegionGateway
