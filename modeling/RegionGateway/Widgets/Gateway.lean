import RegionGateway.Gateway.Serve
import RegionGateway.Widgets.Call
import RegionGateway.Widgets.Interface

/-!
# The gateway of the widget services

The handlers of the planned methods over any enforcer, backend and sink.
-/

namespace RegionGateway.Widgets

/-- Answers calls. -/
def Backend (σ : Type) : Type := RegionContext → (call : Call) → Attempt σ GatewayError call.Served

/-- The surroundings of the handlers. -/
structure Surroundings (σ : Type) where
  enforcer : Enforcer (StateM σ)
  backend : Backend σ
  sink : Sink σ

/-- How the requests of a planned method are served, if there is a call for the method. -/
def serve? (around : Surroundings σ) (plan : MethodPlan) :
    Option (RegionContext → Bytes → Attempt σ GatewayError Unit) :=
  let ⟨enforcer, backend, sink⟩ := around
  match plan.method with
  | "CreateWidget" => some (plan.serveReply Widget.type Reply.type enforcer
      (fun context widget => backend context (.createWidget widget)) sink)
  | "DeleteWidget" => some (plan.serveReply Widget.type Reply.type enforcer
      (fun context widget => backend context (.deleteWidget widget)) sink)
  | "UpdateWidget" => some (plan.serveReply Widget.type Reply.type enforcer
      (fun context widget => backend context (.updateWidget widget)) sink)
  | "ShowWidget" => some (plan.serveItems Widget.type Widget.type enforcer
      (fun context widget => backend context (.showWidget widget)) sink)
  | "InjectWidget" => some (plan.serveReply Widget.type Reply.type enforcer
      (fun context widget => backend context (.injectWidget widget)) sink)
  | "ShowSettings" => some (plan.serveItems Settings.type Settings.type enforcer
      (fun context settings => backend context (.showSettings settings)) sink)
  | "StreamSettings" => some (plan.serveItems Settings.type Settings.type enforcer
      (fun context settings => backend context (.streamSettings settings)) sink)
  | _ => none

/-- The handlers of the gateway, in route order. -/
def handlers (around : Surroundings σ) : List (RouteHandler σ) :=
  plans.filterMap fun plan => (serve? around plan).map (⟨plan.method, ·⟩)

/-- The routes of the gateway. -/
def routes : List Route := Route.ofRequest request

end RegionGateway.Widgets
