import RegionGateway.Gateway.Authorization
import RegionGateway.Gateway.MessageType
import RegionGateway.Gateway.Response
import RegionGateway.Gateway.UpdateMask
import RegionGateway.Output.MethodPlan

/-!
# Serving planned methods

What the handler generated from a plan does with a request: it decodes the wrapper, takes the region
from it, derives the list of updated fields where the plan says so, asks the enforcer where
`MethodPlan.check` says so, calls the backend and replies. The enforcer, the backend and the sink work
on one state, in this order and no other. `dispatch` picks the handler by the path of a request.
-/

namespace RegionGateway

namespace MethodPlan

/-- The organization that an object belongs to; empty if the method declares no organization field. -/
def orgOf (plan : MethodPlan) (type : MessageType α) (object : α) : String :=
  plan.orgPath.elim "" fun path => type.textAt path object

/-- Reads the region and the object of a request body. -/
def accept (plan : MethodPlan) (type : MessageType α) (body : Bytes) :
    Except GatewayError (RegionObject α) := do
  let request ← decodeRequest type.wrapped body
  if plan.derivesMask then
    let (result, filled) := UpdateMask.fill type plan.fieldIds body request
    result
    return filled
  else return request

/-- Fails unless the organization that the object names exists. -/
def demandOrg (plan : MethodPlan) (type : MessageType α) (enforcer : Enforcer (StateM σ))
    (object : α) : Attempt σ GatewayError Unit :=
  match plan.requiredOrg with
  | none => return ()
  | some path =>
    let org := type.textAt path object
    Attempt.demand (enforcer.orgExists org) (.orgNotFound org)

/-- Whether the caller may act on an object, as the enforcer says. -/
def allows (plan : MethodPlan) (type : MessageType α) (enforcer : Enforcer (StateM σ))
    (context : RegionContext) (object : α) : StateM σ Bool :=
  enforcer.enforce context.username (plan.orgOf type object) plan.resource plan.action

/-- The check of the input. A trusted caller is not checked. -/
def authorize (plan : MethodPlan) (type : MessageType α) (enforcer : Enforcer (StateM σ))
    (context : RegionContext) (object : α) : Attempt σ GatewayError Unit := do
  if plan.check = .input ∧ context.skipAuthz = false then
    plan.demandOrg type enforcer object
    Attempt.demand (plan.allows type enforcer context object) .forbidden
  else return ()

/-- Whether a streamed item is sent to the caller. -/
def sends (plan : MethodPlan) (type : MessageType α) (enforcer : Enforcer (StateM σ))
    (context : RegionContext) (item : α) : StateM σ Bool := do
  if plan.check = .items ∧ context.skipAuthz = false then plan.allows type enforcer context item
  else return true

/-- What stands before the call of the backend: the context and the object that it is called with. -/
def enter (plan : MethodPlan) (type : MessageType α) (enforcer : Enforcer (StateM σ))
    (caller : RegionContext) (body : Bytes) : Attempt σ GatewayError (RegionContext × α) := do
  let request ← Attempt.ofExcept (plan.accept type body)
  let context : RegionContext := ⟨caller.username, request.region, caller.skipAuthz⟩
  plan.authorize type enforcer context request.object
  return (context, request.object)

/-- Serves a unary method. -/
def serveReply (plan : MethodPlan) (input : MessageType α) (output : MessageType β)
    (enforcer : Enforcer (StateM σ)) (backend : RegionContext → α → Attempt σ GatewayError β)
    (sink : Sink σ) (caller : RegionContext) (body : Bytes) : Attempt σ GatewayError Unit := do
  let (context, object) ← plan.enter input enforcer caller body
  let value ← backend context object
  sink.reply (.ok (output.codec.write value))

/-- Serves a streaming method. That the backend cannot open the stream is a failure of the stream
before its first item. -/
def serveItems (plan : MethodPlan) (input : MessageType α) (output : MessageType β)
    (enforcer : Enforcer (StateM σ))
    (backend : RegionContext → α → Attempt σ GatewayError (List (StreamItem β)))
    (sink : Sink σ) (caller : RegionContext) (body : Bytes) : Attempt σ GatewayError Unit := do
  let (context, object) ← plan.enter input enforcer caller body
  let opened ← ExceptT.lift (backend context object)
  serveStream sink (fun item => .ok (output.codec.write item))
    (plan.sends output enforcer context) opened

end MethodPlan

/-- A method as it is served. -/
structure RouteHandler (σ : Type) where
  method : String
  /-- Serves the request of a caller with a body. -/
  serve : RegionContext → Bytes → Attempt σ GatewayError Unit

/-- Serves a request with the handler of its path. -/
def dispatch (handlers : List (RouteHandler σ)) (path : String) (caller : RegionContext)
    (body : Bytes) : Attempt σ GatewayError Unit :=
  match handlers.find? fun handler => routePrefix ++ handler.method == path with
  | some handler => handler.serve caller body
  | none => throw (.notFound path)

/-- Serves a request and reports the failure, if there is one, to the caller too. -/
def respond (handlers : List (RouteHandler σ)) (sink : Sink σ) (path : String)
    (caller : RegionContext) (body : Bytes) : StateM σ (Option GatewayError) := do
  match ← (dispatch handlers path caller body).run with
  | .ok () => return none
  | .error error =>
    let _ ← (sink.writeError error).run
    return some error

end RegionGateway
