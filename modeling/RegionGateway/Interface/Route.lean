import RegionGateway.Gateway.Envelope
import RegionGateway.Interface.Request

/-!
# Views of a whole request

Every gateway method of a run as a route, in file, service and method order, and the index of the
messages that gateway methods take as input.
-/

namespace RegionGateway

/-- A gateway method as a route. -/
structure Route where
  /-- The module of the file that declares the method. -/
  module : String
  service : String
  method : String
  inputType : String
  /-- Whether the response is streamed. -/
  streaming : Bool
  summary : Option String
  deriving DecidableEq

namespace Route

/-- The path under which the method is served. -/
def path (route : Route) : String := routePrefix ++ route.method

/-- The routes of a request. -/
def ofRequest (request : Request) : List Route :=
  request.gatewayMethods.map fun (file, service, method) =>
    ⟨file.moduleName, service.name, method.name, method.inputType, method.serverStreaming,
      method.summary⟩

/-- The elements of a list without those that occurred before. -/
def distinct [DecidableEq α] : List α → List α → List α
  | _, [] => []
  | seen, a :: as => if a ∈ seen then distinct seen as else a :: distinct (a :: seen) as

/-- The distinct pairs of module and service among routes, by first appearance. -/
def services (routes : List Route) : List (String × String) :=
  distinct [] (routes.map fun route => (route.module, route.service))

end Route

/-- Which services take a message as input: one pair for each gateway method. -/
structure InputIndex where
  uses : List (String × String)

namespace InputIndex

/-- The index of the generated files of a request. -/
def ofRequest (request : Request) : InputIndex :=
  ⟨request.gatewayMethods.map fun (_, service, method) => (method.inputType, service.name)⟩

/-- The services that take a message as input. -/
def servicesOf (index : InputIndex) (message : String) : List String :=
  (index.uses.filter fun use => use.1 == message).map (·.2)

/-- Whether a message is the input of a gateway method. -/
def isInput (index : InputIndex) (message : String) : Bool := !(index.servicesOf message).isEmpty

/-- Whether more than one service takes a message as input. -/
def isShared (index : InputIndex) (message : String) : Bool :=
  match index.servicesOf message with
  | [] => false
  | first :: rest => rest.any (· != first)

end InputIndex

end RegionGateway
