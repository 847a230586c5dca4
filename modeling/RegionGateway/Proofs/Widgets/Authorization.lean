import RegionGateway.Proofs.Gateway.Delivery
import RegionGateway.Proofs.Gateway.Frames
import RegionGateway.Proofs.Gateway.UpdateMask
import RegionGateway.Proofs.Widgets.Messages
import RegionGateway.Proofs.Widgets.Routes

/-!
# Authorization of the widget gateway

A site serves requests of callers. For a caller that is not trusted

* the backend is called to change a widget only if the enforcer allows that for this very widget
  (`dispatch_leads`);
* a request to change a widget that the enforcer does not allow ends before the backend, with nothing
  written (`dispatch_refused`);
* every widget that is shown is one that the enforcer allows the caller to view (`shown_widgets`).

What a trusted caller gets does not depend on the enforcer (`dispatch_trusted`).
-/

namespace RegionGateway.Widgets

variable {site : Site} {plan : MethodPlan} {caller : RegionContext}

/-! ## Before the backend is called -/

/-- Facts about the plan of a method that changes a widget. -/
def Manages (plan : MethodPlan) : Prop :=
  plan.check = .input ∧ plan.requiredOrg = none ∧ plan.orgPath = some "key.organization" ∧
    plan.resource = "widget" ∧ plan.action = "ActionManage"

/-- Whether the enforcer allows a caller to change a widget. -/
def mayManage (site : Site) (user : String) (widget : Widget) : Bool :=
  site.policy user widget.key.organization "widget" "ActionManage"

/-- The exchange after the enforcer has been asked about that. -/
def askedManage (site : Site) (user : String) (widget : Widget) (start : Exchange) : Exchange :=
  ⟨start.response, start.events ++
    [.asked user widget.key.organization "widget" "ActionManage" (mayManage site user widget)]⟩

theorem authorize_managed (hplan : Manages plan) {context : RegionContext}
    (hcontext : context.skipAuthz = false) (widget : Widget) (start : Exchange) :
    plan.authorize Widget.type site.enforcer context widget start =
      (if mayManage site context.username widget then .ok () else .error .forbidden,
        askedManage site context.username widget start) := by
  obtain ⟨hcheck, hrequired, horg, hresource, haction⟩ := hplan
  have hdemandOrg : plan.demandOrg Widget.type site.enforcer widget start = (.ok (), start) := by
    rw [MethodPlan.demandOrg, hrequired]
    rfl
  have hallows : plan.allows Widget.type site.enforcer context widget start =
      (mayManage site context.username widget,
        askedManage site context.username widget start) := by
    rw [MethodPlan.allows, MethodPlan.orgOf, horg, hresource, haction]
    rfl
  rw [MethodPlan.authorize, if_pos ⟨hcheck, hcontext⟩, Attempt.bind_ok _ hdemandOrg,
    Attempt.demand_apply, hallows]

/-- A request to change a widget goes on if the enforcer allows it. -/
theorem enter_asked (hplan : Manages plan) (hcaller : caller.skipAuthz = false) {body : Bytes}
    {request : RegionObject Widget} (h : plan.accept Widget.type body = .ok request)
    (start : Exchange) : plan.enter Widget.type site.enforcer caller body start =
      (if mayManage site caller.username request.object then
        .ok (⟨caller.username, request.region, caller.skipAuthz⟩, request.object)
        else .error .forbidden,
      askedManage site caller.username request.object start) := by
  have hasked : plan.authorize Widget.type site.enforcer
      ⟨caller.username, request.region, caller.skipAuthz⟩ request.object start =
      (if mayManage site caller.username request.object then .ok () else .error .forbidden,
        askedManage site caller.username request.object start) :=
    authorize_managed hplan hcaller request.object start
  rw [MethodPlan.enter_bound h]
  cases hallowed : mayManage site caller.username request.object with
  | true =>
      rw [hallowed] at hasked
      exact Attempt.bind_ok _ hasked
  | false =>
      rw [hallowed] at hasked
      exact Attempt.bind_error _ hasked

theorem enter_refused (hplan : Manages plan) (hcaller : caller.skipAuthz = false) {body : Bytes}
    {request : RegionObject Widget} (h : plan.accept Widget.type body = .ok request)
    (hallowed : mayManage site caller.username request.object = false) (start : Exchange) :
    plan.enter Widget.type site.enforcer caller body start =
      (.error .forbidden, askedManage site caller.username request.object start) := by
  rw [enter_asked hplan hcaller h, hallowed]
  rfl

/-! ## Calls that change a widget -/

/-- The exchange has new events, all of a kind. -/
def Adds (kind : Event → Prop) (before after : Exchange) : Prop :=
  ∃ new, after.events = before.events ++ new ∧ ∀ event ∈ new, kind event

/-- What adds no event adds only events of any kind. -/
theorem adds_none (kind : Event → Prop) {before after : Exchange}
    (h : after.events = before.events) : Adds kind before after :=
  ⟨[], by rw [h, List.append_nil], by simp⟩

theorem adds_one {kind : Event → Prop} {event : Event} (h : kind event) (start : Exchange)
    (response : RecordedResponse) : Adds kind start ⟨response, start.events ++ [event]⟩ :=
  ⟨[event], rfl, by simpa using h⟩

theorem adds_chain (kind : Event → Prop) : Attempt.Chain (Adds kind) where
  refl s := adds_none kind rfl
  trans a b c := by
    rintro ⟨first, hfirst, hkind⟩ ⟨second, hsecond, hkind'⟩
    refine ⟨first ++ second, by rw [hsecond, hfirst, List.append_assoc], ?_⟩
    intro event hevent
    rcases List.mem_append.mp hevent with hevent | hevent
    · exact hkind event hevent
    · exact hkind' event hevent

/-- Writing the response adds no event. -/
theorem sink_leads (kind : Event → Prop) : Exchange.sink.Leads (Adds kind) where
  writeHeader _ _ _ := ⟨adds_none kind rfl, fun _ _ => trivial⟩
  writeBody _ _ := ⟨adds_none kind rfl, fun _ _ => trivial⟩
  flush _ := ⟨adds_none kind rfl, fun _ _ => trivial⟩

/-- An event with which no widget is changed that the caller may not change. -/
def Permitted (site : Site) (user : String) (event : Event) : Prop :=
  ∀ context call widget, event = .called context call → call.changed? = some widget →
    mayManage site user widget = true

theorem permitted_asked (user subject org resource action : String) (allowed : Bool) :
    Permitted site user (.asked subject org resource action allowed) := by
  rintro context call widget ⟨⟩

theorem permitted_called {user : String} {context : RegionContext} {call : Call}
    (h : ∀ widget, call.changed? = some widget → mayManage site user widget = true) :
    Permitted site user (.called context call) := by
  rintro context' call' widget ⟨⟩ hwidget
  exact h widget hwidget

/-- What the input check gives is a widget that the caller may change. -/
theorem enter_leads (hplan : Manages plan) (hcaller : caller.skipAuthz = false) (body : Bytes) :
    (plan.enter Widget.type site.enforcer caller body).Leads
      (Adds (Permitted site caller.username))
      fun entered => mayManage site caller.username entered.2 = true := by
  intro start
  cases haccept : plan.accept Widget.type body with
  | error error =>
      rw [MethodPlan.enter_unbound haccept]
      refine ⟨(adds_chain _).refl start, ?_⟩
      rintro entered ⟨⟩
  | ok request =>
      rw [enter_asked hplan hcaller haccept]
      refine ⟨adds_one (permitted_asked _ _ _ _ _ _) start _, ?_⟩
      cases hallowed : mayManage site caller.username request.object with
      | true =>
          rintro entered ⟨⟩
          exact hallowed
      | false => rintro entered ⟨⟩

/-- Asking about an item adds that question at most. -/
theorem sends_adds {β : Type} (output : MessageType β) (context : RegionContext) (item : β)
    (start : Exchange) :
    Adds (Permitted site caller.username) start
      (plan.sends output site.enforcer context item start).2 := by
  unfold MethodPlan.sends
  split
  · exact adds_one (permitted_asked _ _ _ _ _ _) start start.response
  · exact (adds_chain _).refl start

theorem leads_of_serves (hplan : plan ∈ plans) (hcaller : caller.skipAuthz = false)
    {serve : RegionContext → Bytes → Attempt Exchange GatewayError Unit}
    (hserves : Serves site plan serve) (body : Bytes) :
    (serve caller body).Leads (Adds (Permitted site caller.username)) fun _ => True := by
  cases hserves with
  | @unary call backend hmethod hchanged hcalls =>
      -- the check comes first, and the call is about the very widget it was asked about
      have henter : (plan.enter Widget.type site.enforcer caller body).Leads
          (Adds (Permitted site caller.username))
          fun entered => mayManage site caller.username entered.2 = true :=
        enter_leads (managed_plans plan hplan hmethod) hcaller body
      refine Attempt.leads_bind (adds_chain _) henter ?_
      rintro ⟨context, widget⟩ hallowed
      have hcalled : (backend context widget).Leads (Adds (Permitted site caller.username))
          fun _ => True := by
        intro start
        refine ⟨?_, fun _ _ => trivial⟩
        rw [hcalls]
        refine adds_one (permitted_called fun changed hwidget => ?_) start start.response
        rw [hchanged] at hwidget
        cases hwidget
        exact hallowed
      refine Attempt.leads_bind (adds_chain _) hcalled fun value _ => ?_
      exact Sink.reply_leads (adds_chain _) (sink_leads _) _
  | @stream α β input output call backend hmethod hchanged hcalls =>
      -- here nothing is checked before the call, which changes no widget
      have hunchecked : plan.Unchecked caller := fun h => streamed_plans plan hplan hmethod h.1
      intro start
      rw [MethodPlan.serveItems_unchecked hunchecked]
      cases plan.accept input body with
      | error error => exact ⟨(adds_chain _).refl start, fun _ _ => trivial⟩
      | ok request =>
          let context : RegionContext := ⟨caller.username, request.region, caller.skipAuthz⟩
          have hcalled : Adds (Permitted site caller.username) start
              (backend context request.object start).2 := by
            rw [hcalls]
            refine adds_one (permitted_called fun changed hwidget => ?_) start start.response
            rw [hchanged] at hwidget
            cases hwidget
          have hasks : ∀ item s, Adds (Permitted site caller.username) s
              (plan.sends output site.enforcer context item s).2 := sends_adds output context
          have hserved := serveStream_leads (adds_chain (Permitted site caller.username))
            (sink_leads _) hasks (fun item => .ok (output.codec.write item))
            (backend context request.object start).1 (backend context request.object start).2
          exact ⟨(adds_chain _).trans _ _ _ hcalled hserved.1, hserved.2⟩

/-- Whatever the request, a widget is changed only if the caller may change it. -/
theorem dispatch_leads (hcaller : caller.skipAuthz = false) (path : String) (body : Bytes) :
    (dispatch (handlers site.surroundings) path caller body).Leads
      (Adds (Permitted site caller.username)) fun _ => True := by
  rcases dispatch_cases site.surroundings path caller body with
    h | ⟨plan, hplan, serve, hserve, -, h⟩
  · rw [h]
    exact Attempt.leads_throw (adds_chain _) _ _
  · rw [h]
    exact leads_of_serves hplan hcaller (serves_of_serve? hserve) body

/-! ## Requests that are refused -/

/-- What a request is about, once its body is bound: decoded and, for an update, with the list of
fields derived from it. -/
def bound (method : String) (body : Bytes) : Except GatewayError (RegionObject Widget) := do
  let request ← decodeRequest Widget.type.wrapped body
  if method = "UpdateWidget" then
    let fields ← UpdateMask.apply body "Widget" updatedFields request.object.fields
    return ⟨request.region, ⟨fields, request.object.key, request.object.size⟩⟩
  else return request

/-- Only updates look at the body twice. -/
theorem bound_of_ne {method : String} (h : method ≠ "UpdateWidget") (body : Bytes) :
    bound method body = decodeRequest Widget.type.wrapped body := by
  unfold bound
  cases decodeRequest Widget.type.wrapped body with
  | error error => rfl
  | ok request => exact if_neg h

theorem bound_update {body : Bytes} {request : RegionObject Widget}
    (h : decodeRequest Widget.type.wrapped body = .ok request) :
    bound "UpdateWidget" body =
      (fun fields => ⟨request.region, ⟨fields, request.object.key, request.object.size⟩⟩) <$>
        UpdateMask.apply body "Widget" updatedFields request.object.fields := by
  rw [bound, h]
  rfl

theorem accept_eq_bound (hplan : plan ∈ plans) (body : Bytes) :
    plan.accept Widget.type body = bound plan.method body := by
  -- both decode the body alike; what may differ is the derivation of the mask
  obtain ⟨hmask, hfields⟩ := masked_plans plan hplan
  refine congrArg (decodeRequest Widget.type.wrapped body >>= ·) (funext fun request => ?_)
  by_cases hmethod : plan.method = "UpdateWidget"
  · rw [hmask, hfields hmethod]
    simp only [hmethod, decide_true, if_true]
    exact UpdateMask.fill_eq_apply (fun _ => rfl) updatedFields body request
  · rw [hmask]
    simp only [hmethod, decide_false, Bool.false_eq_true, if_false]

/-- A request to change a widget that is not bound or not allowed. -/
theorem dispatch_refused {method : String} (hmethod : method ∈ managed)
    (hcaller : caller.skipAuthz = false) (body : Bytes) (start : Exchange) :
    (∀ error, bound method body = .error error →
      dispatch (handlers site.surroundings) (routePrefix ++ method) caller body start =
        (.error error, start)) ∧
    (∀ request, bound method body = .ok request →
      mayManage site caller.username request.object = false →
      dispatch (handlers site.surroundings) (routePrefix ++ method) caller body start =
        (.error .forbidden, askedManage site caller.username request.object start)) := by
  have hplanned : method ∈ plans.map (·.method) := by
    rw [planned_methods]
    simp only [managed, List.mem_cons, List.not_mem_nil, or_false] at hmethod ⊢
    tauto
  obtain ⟨plan, hplan, rfl, serve, hserve, hdispatch⟩ :=
    dispatch_method site.surroundings hplanned caller body
  rw [hdispatch]
  cases serves_of_serve? hserve with
  | stream hnot => exact absurd hmethod hnot
  | unary =>
      refine ⟨?_, ?_⟩
      · intro error herror
        rw [← accept_eq_bound hplan] at herror
        exact Attempt.bind_error _ (MethodPlan.enter_unbound herror start)
      · intro request hrequest hallowed
        rw [← accept_eq_bound hplan] at hrequest
        exact Attempt.bind_error _
          (enter_refused (managed_plans plan hplan hmethod) hcaller hrequest hallowed start)

/-! ## Widgets that are shown -/

/-- Whether the enforcer allows a caller to view a widget. -/
def mayView (site : Site) (user : String) (widget : Widget) : Bool :=
  site.policy user widget.key.organization "widget" "ActionView"

/-- The filter of the widgets that are shown, on the events alone. -/
def viewFilter (site : Site) (user : String) (widget : Widget) : StateM (List Event) Bool :=
  fun events => (mayView site user widget, events ++
    [.asked user widget.key.organization "widget" "ActionView" (mayView site user widget)])

theorem exchange_records : Exchange.sink.Records Exchange.mk where
  writeHeader _ _ _ _ _ := rfl
  writeBody _ _ _ := rfl
  flush _ _ := rfl
  headerWritten _ _ := rfl

theorem sends_beside (hplan : plan ∈ plans) (hmethod : plan.method = "ShowWidget")
    {context : RegionContext} (hcontext : context.skipAuthz = false) :
    Beside Exchange.mk (plan.sends Widget.type site.enforcer context)
      (viewFilter site context.username) := by
  obtain ⟨hcheck, horg, hresource, haction⟩ := viewed_plans plan hplan hmethod
  intro widget response events
  rw [MethodPlan.sends, if_pos ⟨hcheck, hcontext⟩, MethodPlan.allows, MethodPlan.orgOf, horg,
    hresource, haction]
  rfl

/-- A response of which every envelope with a widget has one of certain widgets. -/
def ShowsOnly (shown : Widget → Prop) (response : RecordedResponse) : Prop :=
  ∃ envelopes, Envelope.decodeAll Widget.codec response.body = .ok envelopes ∧
    ∀ envelope ∈ envelopes, ∀ widget, envelope.data = some widget → shown widget

theorem showsOnly_failed (shown : Widget → Prop) (error : GatewayError) :
    ShowsOnly shown (.failed error) := by
  refine ⟨[⟨none, none⟩], ?_, by simp⟩
  rw [RecordedResponse.failed, ApiResponse.decodeAll_errorBody]

theorem showsOnly_begun {shown : Widget → Prop} {widgets : List Widget}
    (h : ∀ widget ∈ widgets, shown widget) (failure : Option GatewayError) (flushes : Nat) :
    ShowsOnly shown (.begun
      (written (fun widget => .ok (Widget.codec.write widget)) failure widgets).2 flushes) := by
  refine ⟨_, decodeAll_begun Widget.write_object (Widget.readsBack (Json.maxDepth - 3)) widgets
    failure flushes, ?_⟩
  intro envelope henvelope widget hdata
  rcases List.mem_append.mp henvelope with henvelope | henvelope
  · obtain ⟨other, hother, rfl⟩ := List.mem_map.mp henvelope
    cases hdata
    exact h widget hother
  · obtain ⟨error, -, rfl⟩ := List.mem_map.mp henvelope
    cases hdata

/-- Serving a stream of widgets shows allowed items of that stream. -/
theorem showsOnly_stream {allow : Widget → StateM Exchange Bool}
    {filter : Widget → StateM (List Event) Bool} (hallow : Beside Exchange.mk allow filter)
    {shown : Widget → Prop} (stream : List (StreamItem Widget))
    (hshown : ∀ widget, .ok widget ∈ stream → (∃ events, (filter widget events).1 = true) →
      shown widget)
    (events : List Event) :
    ShowsOnly shown ((Exchange.sink.answer (serveStream Exchange.sink
      (fun widget => .ok (Widget.codec.write widget)) allow (.ok stream))
      ⟨.empty, events⟩).2).response := by
  obtain ⟨left, hserved⟩ := serveStream_empty hallow (fun widget => .ok (Widget.codec.write widget))
    exchange_records stream events
  have hsift : ∀ widget ∈ (sift filter stream events).1.1, shown widget := by
    intro widget hwidget
    obtain ⟨hstream, hfilter⟩ := mem_sift filter hwidget
    exact hshown widget hstream hfilter
  cases hsifted : (sift filter stream events).1 with
  | mk widgets failure =>
      rw [hsifted] at hserved hsift
      cases widgets with
      | nil =>
          cases failure with
          | none =>
              rw [Sink.answer_ok hserved]
              exact showsOnly_begun hsift none 1
          | some error =>
              rw [Sink.answer_error exchange_records hserved]
              exact showsOnly_failed shown error
      | cons widget rest =>
          rw [streamed, written_total] at hserved
          rw [Sink.answer_ok hserved]
          have hbegun := showsOnly_begun hsift failure
            (written (fun widget => .ok (Widget.codec.write widget)) failure (widget :: rest)).2.length
          rw [written_total] at hbegun
          exact hbegun

/-- A widget that may be shown for a request: an item of the stream that the backend opens for it, and
one that the enforcer allows the caller to view. -/
def Showable (site : Site) (caller : RegionContext) (body : Bytes) (widget : Widget) : Prop :=
  mayView site caller.username widget = true ∧
  ∃ request, ∃ stream : List (StreamItem Widget), bound "ShowWidget" body = .ok request ∧
    site.backend ⟨caller.username, request.region, caller.skipAuthz⟩ (.showWidget request.object) =
      .ok stream ∧ .ok widget ∈ stream

/-- The backend of `ShowWidget`. -/
def showWidgets (site : Site) (context : RegionContext) (widget : Widget) :
    Attempt Exchange GatewayError (List (StreamItem Widget)) :=
  site.surroundings.backend context (.showWidget widget)

theorem serve?_showWidget (hmethod : plan.method = "ShowWidget") :
    serve? site.surroundings plan = some (plan.serveItems Widget.type Widget.type site.enforcer
      (showWidgets site) Exchange.sink) := by
  simp only [serve?, hmethod]
  rfl

/-- Every widget in a reply to `ShowWidget` may be shown. -/
theorem shown_widgets (hcaller : caller.skipAuthz = false) (body : Bytes) (events : List Event) :
    ShowsOnly (Showable site caller body) (respond (handlers site.surroundings) Exchange.sink
      (routePrefix ++ "ShowWidget") caller body ⟨.empty, events⟩).2.response := by
  have hplanned : "ShowWidget" ∈ plans.map (·.method) := by
    rw [planned_methods]
    decide
  obtain ⟨plan, hplan, hmethod, serve, hserve, hdispatch⟩ :=
    dispatch_method site.surroundings hplanned caller body
  rw [serve?_showWidget hmethod] at hserve
  cases hserve
  have hunchecked : plan.Unchecked caller := by
    rintro ⟨hcheck, -⟩
    rw [(viewed_plans plan hplan hmethod).1] at hcheck
    cases hcheck
  rw [respond_answer, hdispatch]
  -- three ways to end: the body is not bound, the stream is not opened, or its items are filtered
  cases haccept : plan.accept Widget.type body with
  | error error =>
      have hserved : plan.serveItems Widget.type Widget.type site.enforcer (showWidgets site)
          Exchange.sink caller body ⟨.empty, events⟩ = (.error error, ⟨.empty, events⟩) := by
        rw [MethodPlan.serveItems_unchecked hunchecked, haccept]
      rw [Sink.answer_error exchange_records hserved]
      exact showsOnly_failed _ error
  | ok request =>
      have hbound : bound "ShowWidget" body = .ok request := by
        rw [← haccept, accept_eq_bound hplan, hmethod]
      let context : RegionContext := ⟨caller.username, request.region, caller.skipAuthz⟩
      let called : List Event := events ++ [.called context (.showWidget request.object)]
      obtain ⟨opened, hopened⟩ : ∃ opened : Except GatewayError (List (StreamItem Widget)),
          site.backend context (.showWidget request.object) = opened := ⟨_, rfl⟩
      have hserved : plan.serveItems Widget.type Widget.type site.enforcer (showWidgets site)
          Exchange.sink caller body ⟨.empty, events⟩ =
          serveStream Exchange.sink (fun widget => .ok (Widget.codec.write widget))
            (plan.sends Widget.type site.enforcer context) opened ⟨.empty, called⟩ := by
        rw [MethodPlan.serveItems_unchecked hunchecked, haccept, ← hopened]
        simp only [showWidgets, calls_backend]
        rfl
      rw [Sink.answer_congr hserved]
      cases opened with
      | error error =>
          rw [Sink.answer_error exchange_records (serveStream_unopened _ _ _ error _)]
          exact showsOnly_failed _ error
      | ok stream =>
          refine showsOnly_stream (sends_beside hplan hmethod hcaller) stream ?_ called
          rintro widget hwidget ⟨asked, hallowed⟩
          exact ⟨hallowed, request, stream, hbound, hopened, hwidget⟩

/-! ## Trusted callers -/

section

variable {σ : Type} (hcaller : caller.skipAuthz = true) (enforcer enforcer' : Enforcer (StateM σ))
  (backend : Backend σ) (sink : Sink σ) (body : Bytes)
include hcaller

theorem serve?_trusted (plan : MethodPlan) :
    (serve? ⟨enforcer, backend, sink⟩ plan).map (fun serve => serve caller body) =
      (serve? ⟨enforcer', backend, sink⟩ plan).map fun serve => serve caller body := by
  simp only [serve?]
  split
  all_goals first
    | exact congrArg some (MethodPlan.serveReply_trusted hcaller enforcer' _ sink body)
    | exact congrArg some (MethodPlan.serveItems_trusted hcaller enforcer' _ sink body)
    | rfl

/-- Who the enforcer is does not matter to a trusted caller. -/
theorem dispatch_trusted (path : String) :
    dispatch (handlers ⟨enforcer, backend, sink⟩) path caller body =
      dispatch (handlers ⟨enforcer', backend, sink⟩) path caller body :=
  dispatch_eq_of_serve_eq (serve?_trusted hcaller enforcer enforcer' backend sink body) path plans

end

/-! ## The gateway -/

/-- **Authorization.** For a caller that is not trusted, the backend changes only widgets that the
enforcer lets the caller manage; a request about another widget is forbidden before the backend is
called and with nothing written, and one that is not bound ends even before the enforcer is asked;
and a reply to `ShowWidget` holds only widgets of the backend's stream that the enforcer lets the
caller view. What a trusted caller gets is the same with every enforcer. -/
theorem widgets_authorized (site : Site) (caller : RegionContext) (body : Bytes) (start : Exchange) :
    (caller.skipAuthz = false →
      (∀ path, ∃ new, (dispatch (handlers site.surroundings) path caller body start).2.events =
          start.events ++ new ∧
        ∀ context call widget, .called context call ∈ new → call.changed? = some widget →
          site.policy caller.username widget.key.organization "widget" "ActionManage" = true) ∧
      (∀ method ∈ managed,
        (∀ error, bound method body = .error error →
          dispatch (handlers site.surroundings) (routePrefix ++ method) caller body start =
            (.error error, start)) ∧
        (∀ request, bound method body = .ok request →
          site.policy caller.username request.object.key.organization "widget" "ActionManage" =
            false →
          dispatch (handlers site.surroundings) (routePrefix ++ method) caller body start =
            (.error .forbidden, ⟨start.response, start.events ++ [.asked caller.username
              request.object.key.organization "widget" "ActionManage" false]⟩))) ∧
      (∀ events, ShowsOnly (Showable site caller body) (respond (handlers site.surroundings)
        Exchange.sink (routePrefix ++ "ShowWidget") caller body ⟨.empty, events⟩).2.response)) ∧
    (caller.skipAuthz = true → ∀ path (enforcer : Enforcer (StateM Exchange)),
      respond (handlers ⟨enforcer, site.surroundings.backend, Exchange.sink⟩) Exchange.sink path
          caller body start =
        respond (handlers site.surroundings) Exchange.sink path caller body start) := by
  refine ⟨fun hcaller => ⟨?_, ?_, ?_⟩, ?_⟩
  · intro path
    obtain ⟨new, hnew, hpermitted⟩ := (dispatch_leads hcaller path body start).1
    exact ⟨new, hnew, fun context call widget hcalled =>
      hpermitted _ hcalled context call widget rfl⟩
  · intro method hmethod
    obtain ⟨hunbound, hrefused⟩ := dispatch_refused hmethod hcaller body start
    refine ⟨hunbound, ?_⟩
    intro request hbound hpolicy
    rw [hrefused request hbound hpolicy, askedManage, mayManage, hpolicy]
  · exact shown_widgets hcaller body
  · intro hcaller path enforcer
    rw [respond, respond,
      dispatch_trusted hcaller enforcer site.enforcer site.surroundings.backend Exchange.sink body path]
    rfl

/-- Everyone manages the widgets of the organization with their name; every call succeeds. -/
def ownersSite : Site where
  address := "http://gateway"
  policy subject org _ _ := subject == org
  backend _ call :=
    match call with
    | .createWidget _ | .deleteWidget _ | .updateWidget _ | .injectWidget _ => .ok ⟨"done"⟩
    | .showWidget _ => .ok []
    | .showSettings _ | .streamSettings _ => .ok []
  isTrusted _ := false

/-- Only acme creates widgets of acme. -/
theorem widgets_authorized_foreigner :
    dispatch (handlers ownersSite.surroundings) "/auth/ctrl/CreateWidget" (.ofUser "eve")
        (Widget.type.wrapped.write ⟨"local", ⟨[], ⟨"w", "acme"⟩, 1⟩⟩).bytes ⟨.empty, []⟩ =
      (.error .forbidden, ⟨.empty, [.asked "eve" "acme" "widget" "ActionManage" false]⟩) := by
  have hbound : bound "CreateWidget"
      (Widget.type.wrapped.write ⟨"local", ⟨[], ⟨"w", "acme"⟩, 1⟩⟩).bytes =
      .ok ⟨"local", ⟨[], ⟨"w", "acme"⟩, 1⟩⟩ := by decide +kernel
  exact (((widgets_authorized ownersSite (.ofUser "eve") _ ⟨.empty, []⟩).1 rfl).2.1 "CreateWidget"
    (by decide)).2 _ hbound (by decide)

end RegionGateway.Widgets
