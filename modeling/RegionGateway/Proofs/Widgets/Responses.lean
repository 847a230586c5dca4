import RegionGateway.Proofs.Gateway.Reception
import RegionGateway.Proofs.Widgets.Authorization

/-!
# Responses of the widget gateway

The widget gateway over any enforcer and any backend, each with an effect on a world of its own,
serves requests into a `Reception`.

* `dispatch_settled`: a handler either writes nothing and fails, or writes a whole response;
* `one_response`: so every request is answered with one response, and a path without a route with
  status 404 before anyone is asked.
-/

namespace RegionGateway.Widgets

variable {τ : Type}

/-- The widget gateway seen through receptions. -/
def observed (enforcer : Enforcer (StateM τ)) (backend : Backend τ) : Surroundings (Reception τ) where
  enforcer := Reception.enforcer enforcer
  backend context call := Reception.act (backend context call)
  sink := Reception.sink

/-! ## Whole responses -/

/-- An envelope of a streamed reply in JSON: an item, or a failure with its message and code. -/
def IsEnvelope (form : Json) : Prop :=
  (∃ item, form = .obj [("data", item)]) ∨
  ∃ result, form = .obj [("result", StreamResult.codec.write result)]

/-- A whole response that reports success: one JSON document, or envelopes of which each is followed
by a newline. -/
inductive Successful : RecordedResponse → Prop
  | document (reply : Reply) :
    Successful ⟨some 200, some "application/json", (Reply.codec.write reply).bytes, 1⟩
  | envelopes {forms : List Json} (h : ∀ form ∈ forms, IsEnvelope form) (flushes : Nat) :
    Successful ⟨some 200, some "application/x-ndjson",
      forms.flatMap fun form => form.bytes ++ [0x0A], flushes⟩

/-- The whole response that reports a failure. -/
def failureResponse (error : GatewayError) : RecordedResponse :=
  ⟨some error.status, some "application/json", (Json.obj [("message", .str error.message)]).bytes, 1⟩

theorem successful_telling {α : Type} (write : α → Json) (items : List α)
    (failure : Option GatewayError) :
    Successful (RecordedResponse.telling write items failure) := by
  refine .envelopes ?_ _
  intro form hform
  rcases List.mem_append.mp hform with hform | hform
  · obtain ⟨item, -, rfl⟩ := List.mem_map.mp hform
    exact .inl ⟨item, rfl⟩
  · obtain ⟨error, -, rfl⟩ := List.mem_map.mp hform
    exact .inr ⟨_, rfl⟩

/-- How a handler ends that has begun with nothing written: it fails and has written nothing, or it
has written a whole response. -/
inductive Settled : Except GatewayError Unit × Reception τ → Prop
  | failed (error : GatewayError) (after : τ) : Settled (.error error, .fresh after)
  | answered {response : RecordedResponse} (h : Successful response) (after : τ) :
    Settled (.ok (), .of response after)

section

variable {enforcer : Enforcer (StateM τ)} {backend : Backend τ} {plan : MethodPlan}

/-- A planned method is served as a unary call with a widget, or as a stream. -/
theorem serve?_observed {serve : RegionContext → Bytes → Attempt (Reception τ) GatewayError Unit}
    (h : serve? (observed enforcer backend) plan = some serve) :
    (∃ call : RegionContext → Widget → Attempt τ GatewayError Reply,
      serve = plan.serveReply Widget.type Reply.type (Reception.enforcer enforcer)
        (fun context widget => Reception.act (call context widget)) Reception.sink) ∨
    ∃ (α β : Type) (input : MessageType α) (output : MessageType β)
      (call : RegionContext → α → Attempt τ GatewayError (List (StreamItem β))),
      serve = plan.serveItems input output (Reception.enforcer enforcer)
        (fun context object => Reception.act (call context object)) Reception.sink := by
  simp only [serve?] at h
  split at h
  · cases h
    exact .inl ⟨fun context widget => backend context (.createWidget widget), rfl⟩
  · cases h
    exact .inl ⟨fun context widget => backend context (.deleteWidget widget), rfl⟩
  · cases h
    exact .inl ⟨fun context widget => backend context (.updateWidget widget), rfl⟩
  · cases h
    exact .inr ⟨Widget, Widget, Widget.type, Widget.type,
      fun context widget => backend context (.showWidget widget), rfl⟩
  · cases h
    exact .inl ⟨fun context widget => backend context (.injectWidget widget), rfl⟩
  · cases h
    exact .inr ⟨Settings, Settings, Settings.type, Settings.type,
      fun context settings => backend context (.showSettings settings), rfl⟩
  · cases h
    exact .inr ⟨Settings, Settings, Settings.type, Settings.type,
      fun context settings => backend context (.streamSettings settings), rfl⟩
  · cases h

theorem settled_reply (call : RegionContext → Widget → Attempt τ GatewayError Reply)
    (caller : RegionContext) (body : Bytes) (world : τ) :
    Settled (plan.serveReply Widget.type Reply.type (Reception.enforcer enforcer)
      (fun context widget => Reception.act (call context widget)) Reception.sink caller body
      (.fresh world)) := by
  rw [serveReply_fresh]
  split
  · exact .failed _ _
  · exact .answered (.document _) _

theorem settled_told {β : Type} (write : β → Json) (left : τ)
    (disclosed : List β × Option GatewayError) : Settled (told write left disclosed) := by
  unfold told
  split
  · exact .failed _ _
  · exact .answered (successful_telling write _ _) _

theorem settled_items {α β : Type} (input : MessageType α) (output : MessageType β)
    (call : RegionContext → α → Attempt τ GatewayError (List (StreamItem β)))
    (caller : RegionContext) (body : Bytes) (world : τ) :
    Settled (plan.serveItems input output (Reception.enforcer enforcer)
      (fun context object => Reception.act (call context object)) Reception.sink caller body
      (.fresh world)) := by
  rw [serveItems_fresh]
  split
  · exact .failed _ _
  · obtain ⟨left, hserved⟩ := serveStream_disclosed output.codec.write _ _ _
    rw [hserved]
    exact settled_told _ _ _

/-- Whatever the request, nothing is written and the failure is handed back, or all is written. -/
theorem dispatch_settled (path : String) (caller : RegionContext) (body : Bytes) (world : τ) :
    Settled (dispatch (handlers (observed enforcer backend)) path caller body (.fresh world)) := by
  rcases dispatch_cases (observed enforcer backend) path caller body with
    h | ⟨plan, hplan, serve, hserve, -, h⟩
  · rw [h]
    exact .failed _ _
  · rw [h]
    rcases serve?_observed hserve with ⟨call, rfl⟩ | ⟨α, β, input, output, call, rfl⟩
    · exact settled_reply call caller body world
    · exact settled_items input output call caller body world

/-! ## One response -/

theorem route_paths : routes.map Route.path = ["/auth/ctrl/CreateWidget", "/auth/ctrl/DeleteWidget",
    "/auth/ctrl/UpdateWidget", "/auth/ctrl/ShowWidget", "/auth/ctrl/InjectWidget",
    "/auth/ctrl/ShowSettings", "/auth/ctrl/StreamSettings"] := by decide +kernel

/-- A path without a route is not found. -/
theorem dispatch_unrouted {path : String} (h : path ∉ routes.map Route.path)
    (caller : RegionContext) (body : Bytes) :
    dispatch (handlers (observed enforcer backend)) path caller body = throw (.notFound path) := by
  rcases dispatch_cases (observed enforcer backend) path caller body with
    hmissing | ⟨plan, hplan, serve, -, hpath, -⟩
  · exact hmissing
  · refine absurd ?_ h
    have hmethod : plan.method ∈ plans.map (·.method) := List.mem_map_of_mem hplan
    rw [hpath, route_paths]
    rw [planned_methods] at hmethod
    exact List.mem_map_of_mem (f := (routePrefix ++ ·)) hmethod

/-- What is made of the end of a handler: the failure that is reported, and the response. -/
def withReport : Except GatewayError Unit × Reception τ → Option GatewayError × Reception τ
  | (.ok (), reception) => (none, reception)
  | (.error error, reception) => (some error, .of (failureResponse error) reception.world)

theorem respond_settled {path : String} {caller : RegionContext} {body : Bytes} {world : τ}
    {ended : Except GatewayError Unit × Reception τ}
    (h : dispatch (handlers (observed enforcer backend)) path caller body (.fresh world) = ended) :
    respond (handlers (observed enforcer backend)) Reception.sink path caller body (.fresh world) =
      withReport ended := by
  have hsettled : Settled ended := h ▸ dispatch_settled path caller body world
  cases hsettled with
  | failed error after =>
      exact (stateM_bind _ h).trans
        (stateM_bind _ (Sink.writeError_empty Reception.sink_records error after))
  | answered hresponse after => exact stateM_bind _ h

end

/-- **One response for every request.** Whatever path and body arrive from whomever, and whatever
enforcer and backend do: in the end a header has been asked for once, and status and content type of
the response are those of this header. A handler that fails has written nothing until then, and the
response says why it failed. A path that is none of the routes is not found, and nobody is asked about
it. A handler that succeeds has written the whole response, one JSON document or one envelope on every
line. -/
theorem one_response (enforcer : Enforcer (StateM τ)) (backend : Backend τ) (path : String)
    (caller : RegionContext) (body : Bytes) (world : τ) :
    let gateway := handlers (observed enforcer backend)
    let handled := dispatch gateway path caller body (.fresh world)
    let reported := respond gateway Reception.sink path caller body (.fresh world)
    (∃ status contentType, reported.2.headers = [(status, contentType)] ∧
      reported.2.response.status = some status ∧
      reported.2.response.contentType = some contentType) ∧
    (∀ error, handled.1 = .error error →
      handled.2.response = .empty ∧ handled.2.headers = [] ∧
      reported.1 = some error ∧ reported.2.response = failureResponse error) ∧
    (path ∉ routes.map Route.path →
      handled = (.error (.notFound path), .fresh world) ∧
      reported.2.world = world ∧ reported.2.response.status = some 404) ∧
    (handled.1 = .ok () → reported = (none, handled.2) ∧ Successful handled.2.response) := by
  intro gateway handled reported
  have hunrouted : path ∉ routes.map Route.path →
      handled = (.error (.notFound path), .fresh world) := by
    intro h
    exact congrFun (dispatch_unrouted h caller body) (.fresh world)
  have hsettled : Settled handled := dispatch_settled path caller body world
  have hreported : reported = withReport handled := respond_settled rfl
  rw [hreported]
  clear_value handled
  cases hsettled with
  | failed error after =>
      refine ⟨⟨error.status, "application/json", rfl, rfl, rfl⟩, ?_, ?_, ?_⟩
      · rintro other ⟨⟩
        exact ⟨rfl, rfl, rfl, rfl⟩
      · intro h
        cases hunrouted h
        exact ⟨rfl, rfl, rfl⟩
      · rintro ⟨⟩
  | answered hresponse after =>
      refine ⟨?_, ?_, ?_, ?_⟩
      · cases hresponse with
        | document reply => exact ⟨200, "application/json", rfl, rfl, rfl⟩
        | envelopes h flushes => exact ⟨200, "application/x-ndjson", rfl, rfl, rfl⟩
      · rintro error ⟨⟩
      · intro h
        cases hunrouted h
      · exact fun _ => ⟨rfl, hresponse⟩

/-- A backend that counts its calls and fails them all. -/
def countingBackend : Backend Nat := fun _ _ => do
  modify (· + 1)
  throw (.ofBackend "down")

/-- Every route has its prefix, so the bare name of a method is none of them. -/
theorem one_response_unrouted :
    "CreateWidget" ∉ routes.map Route.path ∧
    (respond (handlers (observed .allowAll countingBackend)) Reception.sink "CreateWidget"
      (.ofUser "eve") [] (.fresh 0)).2.world = 0 := by
  have hunrouted : "CreateWidget" ∉ routes.map Route.path := by
    rw [route_paths]
    decide
  have hnobody := (one_response .allowAll countingBackend "CreateWidget" (.ofUser "eve") [] 0).2.2.1
  exact ⟨hunrouted, (hnobody hunrouted).2.1⟩

end RegionGateway.Widgets
