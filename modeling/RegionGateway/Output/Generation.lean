import RegionGateway.Attempt
import RegionGateway.Interface.WrapperOwners
import RegionGateway.Output.PermissionTest
import RegionGateway.Output.RouteTable
import RegionGateway.Output.TestHelper
import RegionGateway.Output.Wrapper

/-!
# Generated files

One file for each interface file that declares gateway methods. The request is checked first; then
every method is planned, in file, service and method order, and the wrappers of the input types are
claimed on the way. The first file begins with the route table.
-/

namespace RegionGateway

/-- Why nothing is generated. -/
inductive GenerationError where
  /-- The request is refused. -/
  | refused (error : InterfaceError)
  /-- A method cannot be rendered. -/
  | unrenderable (error : RenderError)
  deriving DecidableEq

/-- The wording of a failure to generate. -/
def GenerationError.message : GenerationError → String
  | .refused error => error.message
  | .unrenderable error => error.message

namespace Mode

/-- What stands before the methods of a service. -/
def serviceHead : Mode → ModulePaths → ServicePlan → Chunk
  | .server, paths, service => Handler.backendTrait paths service
  | _, _, _ => .empty

/-- What is generated for a method. -/
def methodChunk : Mode → ModulePaths → MethodPlan → Chunk
  | .server => Handler.chunk
  | .api => Wrapper.chunk
  | .client => Binding.chunk
  | .test => PermissionTest.chunk
  | .testHelper => TestHelper.chunk

/-- What stands after the methods of a service. -/
def serviceTail (request : Request) (inputs : InputIndex) :
    Mode → ModulePaths → ServicePlan → Chunk
  | .test, paths, service =>
    .concat ((MessageTests.ofService request inputs service).map (PermissionTest.messageChunk paths))
  | _, _, _ => .empty

/-- What is generated for a service. -/
def serviceChunk (request : Request) (inputs : InputIndex) (mode : Mode) (paths : ModulePaths)
    (service : ServicePlan) : Chunk :=
  .concat (mode.serviceHead paths service :: service.methods.map (mode.methodChunk paths) ++
    [mode.serviceTail request inputs paths service])

end Mode

/-- What is generated for one interface file. -/
structure FilePlan where
  module : String
  source : String
  services : List ServicePlan
  deriving DecidableEq

/-- A run over a request. -/
structure Generation where
  request : Request
  mode : Mode
  paths : ModulePaths

namespace Generation

/-- The run for a request; the parameters of the request add to the flags given. -/
def ofRequest (request : Request) (flags : ModeFlags) (paths : ModulePaths) : Generation :=
  ⟨request, .select (flags.union (.ofParameters request.parameters)), paths⟩

/-- Plans a method of a module. The first method with its input type declares the wrapper; the others
are told which other module does. -/
def planMethod (request : Request) (module service : String) (method : MethodDecl) :
    Attempt WrapperOwners GenerationError MethodPlan := do
  let input := request.message? method.inputType
  let classified ← Attempt.ofExcept ((classify method input).mapError .refused)
  let first ← Attempt.change (WrapperOwners.claim method.inputType module)
  let plan ← Attempt.ofExcept
    ((MethodPlan.ofMethod request service classified first).mapError .unrenderable)
  if first then return plan
  let owners ← get
  return { plan with wrapperModule := (owners.owner? method.inputType).filter (· != module) }

/-- Plans the gateway methods of a service. -/
def planService (request : Request) (module : String) (service : ServiceDecl) :
    Attempt WrapperOwners GenerationError ServicePlan := do
  return ⟨service.name, ← service.gatewayMethods.mapM (planMethod request module service.name)⟩

/-- Plans the services of a file that have gateway methods. -/
def planFile (request : Request) (file : FileDecl) :
    Attempt WrapperOwners GenerationError FilePlan := do
  let services := file.services.filter (·.hasGatewayMethods)
  return ⟨file.moduleName, file.name, ← services.mapM (planService request file.moduleName)⟩

/-- Checks the request and plans every generated file that has gateway methods. -/
def plan (run : Generation) : Attempt WrapperOwners GenerationError (List FilePlan) := do
  let _ ← Attempt.ofExcept (run.request.validate.mapError .refused)
  (run.request.generatedFiles.filter (·.hasGatewayMethods)).mapM (planFile run.request)

/-- The routes of the run. -/
def routes (run : Generation) : List Route := Route.ofRequest run.request

/-- The services of a file. -/
def servicesChunk (run : Generation) (plan : FilePlan) : Chunk :=
  let inputs := InputIndex.ofRequest run.request
  .concat (plan.services.map (run.mode.serviceChunk run.request inputs run.paths))

/-- The files of the run, given their plans; the first holds the route table. -/
def filesOf (run : Generation) : List FilePlan → List SourceFile
  | [] => []
  | first :: rest =>
    let table := RouteTable.chunk run.mode run.paths run.request run.routes
    ⟨first.module, first.source, table.append (run.servicesChunk first)⟩ ::
      rest.map fun plan => ⟨plan.module, plan.source, run.servicesChunk plan⟩

/-- The files of the run. -/
def files (run : Generation) : Attempt WrapperOwners GenerationError (List SourceFile) :=
  run.filesOf <$> run.plan

/-- The text of `mod.rs`, which declares the modules of files and exports what is in them. A file
named `mod` is left out. -/
def moduleIndex (names : List String) : String :=
  let declare := fun (name : String) =>
    let module := (Text.dropEnd? ".rs" name).getD name
    if module = "mod" then "" else "pub mod " ++ module ++ ";\npub use " ++ module ++ "::*;\n"
  generatedHeader ++ "\n\n" ++ Text.join "" (names.map declare)

end Generation

end RegionGateway
