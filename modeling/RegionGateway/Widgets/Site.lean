import RegionGateway.Gateway.PermissionCheck
import RegionGateway.Widgets.Gateway

/-!
# A gateway in memory

A site serves the widget gateway at an address, with a policy for its enforcer and a backend without
a state of its own. Every request posted, question asked and call made is kept as an event, in order.
-/

namespace RegionGateway.Widgets

/-- What can be seen of a gateway at work. -/
inductive Event where
  /-- A request arrived. -/
  | posted (path token : String) (body : Bytes)
  /-- The enforcer was asked about a subject, an organization, a resource and an action. -/
  | asked (subject org resource action : String) (allowed : Bool)
  /-- The backend was called. -/
  | called (context : RegionContext) (call : Call)
  deriving DecidableEq

/-- A response under way and the events so far. -/
structure Exchange where
  response : RecordedResponse
  events : List Event
  deriving DecidableEq

namespace Exchange

/-- The response of an exchange as a sink. -/
def sink : Sink Exchange :=
  RecordedResponse.sink.within Exchange.response fun response exchange => ⟨response, exchange.events⟩

/-- Adds an event. -/
def note (event : Event) : StateM Exchange Unit :=
  modify fun exchange => ⟨exchange.response, exchange.events ++ [event]⟩

end Exchange

/-- A gateway at an address. -/
structure Site where
  address : String
  /-- Whether a subject may, within an organization, on a resource, perform an action. -/
  policy : String → String → String → String → Bool
  backend : RegionContext → (call : Call) → Except GatewayError call.Served
  /-- Whether a caller is trusted. -/
  isTrusted : String → Bool

namespace Site

/-- The enforcer of a site. -/
def enforcer (site : Site) : Enforcer (StateM Exchange) where
  enforce subject org resource action := do
    let allowed := site.policy subject org resource action
    Exchange.note (.asked subject org resource action allowed)
    return allowed
  orgExists _ := return true

/-- What stands around the handlers of a site. -/
def surroundings (site : Site) : Surroundings Exchange where
  enforcer := site.enforcer
  backend context call := do
    Exchange.note (.called context call)
    match site.backend context call with
    | .ok served => return served
    | .error error => throw error
  sink := Exchange.sink

/-- The context of a caller. -/
def caller (site : Site) (user : String) : RegionContext :=
  if site.isTrusted user then .ofInternal user else .ofUser user

/-- Serves a request: the response, and the error if it failed. -/
def serve (site : Site) (path user : String) (body : Bytes) :
    StateM (List Event) (RecordedResponse × Option GatewayError) := fun events =>
  let (error, exchange) :=
    respond (handlers site.surroundings) Exchange.sink path (site.caller user) body ⟨.empty, events⟩
  ((exchange.response, error), exchange.events)

/-- Posts a request to the site. A response that was never begun counts as a server error. -/
def post (site : Site) : Transport (StateM (List Event)) := fun url token body =>
  match Text.dropStart? site.address url with
  | none => return .error (.transport ("no route to " ++ url))
  | some path => do
    modify (· ++ [.posted path token body])
    let (response, _) ← site.serve path token body
    return .ok ⟨response.status.getD 500, response.body⟩

/-- The test request of a planned method, its widget changed by functions before it is sent. -/
def testCall? (plan : MethodPlan) (org : String) (modifiers : List (Widget → Widget)) :
    Option Call :=
  let widget := modifiers.foldl (fun widget change => change widget) (plan.testInput Widget.type org)
  (Call.all widget (plan.testInput Settings.type org)).find? (·.method == plan.method)

/-- Sends the test requests of permission tests to the site. -/
def testSender (site : Site) : TestSender (StateM (List Event)) := fun plan token region org =>
  match testCall? plan org [] with
  | none => return .error (.transport ("no call of " ++ plan.method))
  | some call => do
    return (← call.send site.post site.address token region).map call.receivedCount

/-- The permission tests of the services against a site, with the names of their functions. -/
def tests (site : Site) (case : TestCase) : List (String × TestRun (StateM (List Event))) :=
  plans.flatMap (PermissionCheck.ofMethod site.testSender case) ++
    messageTests.flatMap (PermissionCheck.ofMessage site.testSender case)

end Site

end RegionGateway.Widgets
