import RegionGateway.Proofs.Gateway.UpdateMask
import RegionGateway.Proofs.Widgets.Authorization

/-!
# Calls that change a widget

A client calls a site to change a widget: the call is encoded, posted to the route of its method, decoded,
checked and handed to the backend, and what the backend gives comes back the same way.

* `bound_written`: the handler gets the widget that the client sent, and an update without a list of
  fields gets the list of all of them;
* `dispatch_written`: the enforcer is asked unless the caller is trusted, the backend is called, and
  the reply is written;
* `change_arrives`: what the client gets is what the backend gave.
-/

namespace RegionGateway

theorem Text.dropStart?_append (start rest : String) :
    dropStart? start (start ++ rest) = some rest := by
  have hprefix : start.toList.isPrefixOf (start.toList ++ rest.toList) = true :=
    List.isPrefixOf_iff_prefix.mpr (List.prefix_append _ _)
  rw [dropStart?, String.toList_append, if_pos hprefix, List.drop_left, String.ofList_toList]

namespace Widgets

/-- The ways to change a widget. -/
inductive Change where
  | create
  | delete
  | update
  | inject
  deriving DecidableEq

namespace Change

/-- The call of a change. -/
def call : Change → Widget → Call
  | .create => .createWidget
  | .delete => .deleteWidget
  | .update => .updateWidget
  | .inject => .injectWidget

/-- The name of its method. -/
def method : Change → String
  | .create => "CreateWidget"
  | .delete => "DeleteWidget"
  | .update => "UpdateWidget"
  | .inject => "InjectWidget"

/-- The widget with which the backend is called. A client that updates a widget sends every field of
it, so without a list of fields all of them are updated. -/
def handed (change : Change) (widget : Widget) : Widget :=
  if change = .update ∧ widget.fields = [] then ⟨["2.1", "2.2", "3"], widget.key, widget.size⟩
  else widget

/-- What the backend of a site gives for a change. -/
def answer (site : Site) (context : RegionContext) : Change → Widget → Except GatewayError Reply
  | .create, widget => site.backend context (.createWidget widget)
  | .delete, widget => site.backend context (.deleteWidget widget)
  | .update, widget => site.backend context (.updateWidget widget)
  | .inject, widget => site.backend context (.injectWidget widget)

/-- Sends a change to a region of the gateway at an address. -/
def send {m : Type → Type} [Monad m] (post : Transport m) (uri token region : String) :
    Change → Widget → m (Except ClientError Reply)
  | .create, widget => Call.send post uri token region (.createWidget widget)
  | .delete, widget => Call.send post uri token region (.deleteWidget widget)
  | .update, widget => Call.send post uri token region (.updateWidget widget)
  | .inject, widget => Call.send post uri token region (.injectWidget widget)

theorem method_mem (change : Change) : change.method ∈ managed := by
  cases change <;> decide

theorem method_eq_update {change : Change} :
    change.method = "UpdateWidget" ↔ change = .update := by
  cases change <;> decide

theorem handed_key (change : Change) (widget : Widget) : (change.handed widget).key = widget.key := by
  unfold handed
  split <;> rfl

end Change

/-! ## The request -/

/-- The text of a request. -/
def requestBody (region : String) (widget : Widget) : Bytes :=
  (Widget.type.wrapped.write ⟨region, widget⟩).bytes

theorem decodeRequest_written (region : String) (widget : Widget) :
    decodeRequest Widget.type.wrapped (requestBody region widget) = .ok ⟨region, widget⟩ := by
  have hdecoded : Widget.type.wrapped.decode (requestBody region widget) = .ok ⟨region, widget⟩ :=
    (wrapped_readsBack 124 ⟨region, widget⟩).decode
  rw [decodeRequest, hdecoded]

/-- The names of a widget's fields are in the form in which names are compared. -/
theorem fold_names : ["fields", "key", "name", "organization", "size"].map UpdateMask.fold =
    ["fields", "key", "name", "organization", "size"] := by decide +kernel

/-- The leaves of a widget in JSON, apart from its list of fields. -/
theorem memberPaths_widget (widget : Widget) :
    UpdateMask.memberPaths "" widget.members = ["key.name", "key.organization", "size"] := by
  have hfolds := fold_names
  simp only [List.map_cons, List.map_nil, List.cons.injEq, and_true] at hfolds
  obtain ⟨hfields, hkey, hname, horganization, hsize⟩ := hfolds
  simp [Widget.members, UpdateMask.memberPaths, UpdateMask.valuePaths, hfields, hkey, hname,
    horganization, hsize]

/-- A client sends every field of a widget. -/
theorem apply_written (region : String) (widget : Widget) :
    UpdateMask.apply (requestBody region widget) "Widget" updatedFields [] =
      .ok ["2.1", "2.2", "3"] := by
  have hparsed : Json.parse (requestBody region widget) =
      .ok (.obj [("Region", .str region), ("Widget", .obj widget.members)]) :=
    (Json.any_reads (wrapped_plain 124 ⟨region, widget⟩)).decode
  have hlookup : Json.get? "Widget" (.obj [("Region", .str region), ("Widget", .obj widget.members)]) =
      some (.obj widget.members) := rfl
  have hselect : UpdateMask.select updatedFields ["key.name", "key.organization", "size"] =
      ["2.1", "2.2", "3"] := by decide +kernel
  have hsent : UpdateMask.sent? "Widget" updatedFields
      (.obj [("Region", .str region), ("Widget", .obj widget.members)]) =
      some ["2.1", "2.2", "3"] := by
    rw [UpdateMask.sent?, hlookup]
    simp only [memberPaths_widget, hselect]
  rw [UpdateMask.apply_ok hparsed, hsent, Option.getD_some]

/-- The handler of a change gets the region and the widget that were sent. -/
theorem bound_written (change : Change) (region : String) (widget : Widget) :
    bound change.method (requestBody region widget) = .ok ⟨region, change.handed widget⟩ := by
  have hdecoded := decodeRequest_written region widget
  -- an update reads the body again, the other changes take what is decoded
  by_cases hupdate : change = .update
  · rw [hupdate, Change.method, bound_update hdecoded, Change.handed]
    by_cases hfields : widget.fields = []
    · rw [if_pos ⟨rfl, hfields⟩, hfields, apply_written]
      rfl
    · rw [if_neg fun h => hfields h.2, UpdateMask.apply_given hfields]
      rfl
  · have hmethod : change.method ≠ "UpdateWidget" := fun h => hupdate (Change.method_eq_update.mp h)
    rw [bound_of_ne hmethod, hdecoded, Change.handed, if_neg fun h => hupdate h.1]

/-! ## The handler -/

/-- The backend of the handler of a change. -/
def Change.backend (site : Site) (change : Change) (context : RegionContext) (widget : Widget) :
    Attempt Exchange GatewayError Reply :=
  match change with
  | .create => site.surroundings.backend context (.createWidget widget)
  | .delete => site.surroundings.backend context (.deleteWidget widget)
  | .update => site.surroundings.backend context (.updateWidget widget)
  | .inject => site.surroundings.backend context (.injectWidget widget)

theorem Change.backend_apply (site : Site) (change : Change) (context : RegionContext)
    (widget : Widget) (start : Exchange) : change.backend site context widget start =
      (change.answer site context widget,
        ⟨start.response, start.events ++ [.called context (change.call widget)]⟩) := by
  cases change <;> exact calls_backend site context _ start

theorem serve?_change {site : Site} {plan : MethodPlan} {change : Change}
    (hmethod : plan.method = change.method) :
    serve? site.surroundings plan = some (plan.serveReply Widget.type Reply.type site.enforcer
      (change.backend site) Exchange.sink) := by
  cases change <;> simp only [serve?, hmethod, Change.method] <;> rfl

/-- What the enforcer is asked about a change that it allows: a trusted caller is not asked about. -/
def questions (site : Site) (token : String) (widget : Widget) : List Event :=
  if site.isTrusted token then []
  else [.asked token widget.key.organization "widget" "ActionManage" true]

/-- The context in which the backend is called for a caller. -/
def contextOf (site : Site) (token region : String) : RegionContext :=
  ⟨token, region, site.isTrusted token⟩

theorem caller_eq (site : Site) (token : String) : site.caller token = contextOf site token "" := by
  unfold Site.caller contextOf
  cases site.isTrusted token <;> rfl

section

variable {site : Site} {token : String} {widget : Widget}
  (hallowed : site.isTrusted token = true ∨ mayManage site token widget = true)
include hallowed

/-- A change that is allowed reaches the backend. -/
theorem enter_allowed {plan : MethodPlan} (hplan : Manages plan) {region : String} {body : Bytes}
    (haccept : plan.accept Widget.type body = .ok ⟨region, widget⟩) (start : Exchange) :
    plan.enter Widget.type site.enforcer (contextOf site token "") body start =
      (.ok (contextOf site token region, widget),
        ⟨start.response, start.events ++ questions site token widget⟩) := by
  cases htrusted : site.isTrusted token with
  | true =>
      have hunchecked : plan.Unchecked (contextOf site token "") :=
        MethodPlan.unchecked_of_trusted htrusted plan
      rw [MethodPlan.enter_unchecked hunchecked haccept, questions, if_pos htrusted, List.append_nil]
      rfl
  | false =>
      have hmanage : mayManage site token widget = true := by
        rcases hallowed with h | h
        · rw [htrusted] at h
          cases h
        · exact h
      have hentered : plan.enter Widget.type site.enforcer (contextOf site token "") body start =
          (if mayManage site token widget then .ok (contextOf site token region, widget)
            else .error .forbidden, askedManage site token widget start) :=
        enter_asked hplan htrusted haccept start
      rw [hentered, if_pos hmanage, questions, htrusted, askedManage, hmanage]
      rfl

/-- The exchange after an allowed change: the enforcer has been asked, then the backend called. -/
def exchanged (site : Site) (token region : String) (change : Change) (widget : Widget)
    (response : RecordedResponse) (events : List Event) : Exchange :=
  ⟨response, events ++ questions site token widget ++
    [.called (contextOf site token region) (change.call widget)]⟩

theorem dispatch_allowed (change : Change) {region : String} {body : Bytes}
    (hbound : bound change.method body = .ok ⟨region, widget⟩) (events : List Event) :
    dispatch (handlers site.surroundings) (routePrefix ++ change.method) (contextOf site token "") body
        ⟨.empty, events⟩ =
      match change.answer site (contextOf site token region) widget with
      | .ok reply => (.ok (), exchanged site token region change widget
          ⟨some 200, some jsonContentType, (Reply.codec.write reply).bytes, 1⟩ events)
      | .error error => (.error error, exchanged site token region change widget .empty events) := by
  have hplanned : change.method ∈ plans.map (·.method) := by
    rw [planned_methods]
    cases change <;> decide
  obtain ⟨plan, hplan, hmethod, serve, hserve, hdispatch⟩ :=
    dispatch_method site.surroundings hplanned (contextOf site token "") body
  rw [serve?_change hmethod] at hserve
  cases hserve
  have hmanages : Manages plan := managed_plans plan hplan (hmethod ▸ change.method_mem)
  have haccept : plan.accept Widget.type body = .ok ⟨region, widget⟩ := by
    rw [accept_eq_bound hplan, hmethod, hbound]
  have hentered := enter_allowed hallowed hmanages haccept ⟨.empty, events⟩
  have hcalled := change.backend_apply site (contextOf site token region) widget
    ⟨.empty, events ++ questions site token widget⟩
  -- the handler binds and asks, calls the backend and replies, in this order
  rw [hdispatch]
  refine (Attempt.bind_ok _ hentered).trans ?_
  cases hanswer : change.answer site (contextOf site token region) widget with
  | ok reply =>
      rw [hanswer] at hcalled
      exact (Attempt.bind_ok _ hcalled).trans (Sink.reply_empty exchange_records _ _)
  | error error =>
      rw [hanswer] at hcalled
      exact Attempt.bind_error _ hcalled

/-- The response to what a backend gives. -/
def answered : Except GatewayError Reply → RecordedResponse
  | .ok reply => ⟨some 200, some jsonContentType, (Reply.codec.write reply).bytes, 1⟩
  | .error error => .failed error

theorem respond_allowed (change : Change) {region : String} {body : Bytes}
    (hbound : bound change.method body = .ok ⟨region, widget⟩) (events : List Event) :
    (respond (handlers site.surroundings) Exchange.sink (routePrefix ++ change.method)
        (site.caller token) body ⟨.empty, events⟩).2 =
      exchanged site token region change widget
        (answered (change.answer site (contextOf site token region) widget)) events := by
  have hdispatched := dispatch_allowed hallowed change hbound events
  rw [respond_answer, caller_eq]
  cases hanswer : change.answer site (contextOf site token region) widget with
  | ok reply =>
      rw [hanswer] at hdispatched
      rw [Sink.answer_ok hdispatched]
      rfl
  | error error =>
      rw [hanswer] at hdispatched
      rw [Sink.answer_error exchange_records hdispatched]
      rfl

end

/-! ## The client -/

theorem Change.send_eq {m : Type → Type} [Monad m] (post : Transport m) (uri token region : String)
    (change : Change) (widget : Widget) : change.send post uri token region widget =
      callUnary Reply.codec post uri token change.method (Widget.type.wrapped.write ⟨region, widget⟩) := by
  cases change <;> rfl

/-- What a client gets for what a backend gives. -/
def Delivered (given : Except GatewayError Reply) (got : Except ClientError Reply) : Prop :=
  (∀ reply, given = .ok reply → got = .ok reply) ∧
  ∀ error, given = .error error → error.status ≠ 200 → got = .error (.status error.status error.message)

theorem delivered_answered (given : Except GatewayError Reply) :
    Delivered given ((answered given).arrived.decodeUnary Reply.codec) := by
  refine ⟨?_, ?_⟩
  · rintro reply rfl
    have hdecoded : Reply.codec.decode (Reply.codec.write reply).bytes = .ok reply :=
      (Reply.readsBack 126 reply).decode
    have hsuccess : ¬((200 : UInt16) != 200) = true := by decide
    simp only [answered, RecordedResponse.arrived, Option.getD_some]
    rw [ApiResponse.decodeUnary, if_neg hsuccess, hdecoded]
  · rintro error rfl hstatus
    exact decodeUnary_failed Reply.codec hstatus

theorem post_apply {site : Site} {uri : String}
    (haddress : Text.dropEndWhile (· == '/') uri.toList = site.address.toList)
    (token method : String) (body : Bytes) (events : List Event) :
    site.post (routeUrl uri method) token body events =
      let exchange := (respond (handlers site.surroundings) Exchange.sink (routePrefix ++ method)
        (site.caller token) body
        ⟨.empty, events ++ [.posted (routePrefix ++ method) token body]⟩).2
      (.ok exchange.response.arrived, exchange.events) := by
  have hurl : routeUrl uri method = site.address ++ (routePrefix ++ method) := by
    rw [routeUrl, haddress, String.ofList_toList, String.append_assoc]
  rw [Site.post, hurl, Text.dropStart?_append]
  rfl

/-- **Changes arrive.** A change that the enforcer allows, or that a trusted caller makes, is one call of
the backend, of the method of the change, in the region that the client named and with the widget that
the client sent; an update without a list of fields is handed over with the list of all of them. The
client gets the reply of the backend, or its failure if that has another status than 200. -/
theorem change_arrives (site : Site) (change : Change) (uri token region : String) (widget : Widget)
    (events : List Event)
    (haddress : Text.dropEndWhile (· == '/') uri.toList = site.address.toList)
    (hallowed : site.isTrusted token = true ∨ mayManage site token widget = true) :
    (change.send site.post uri token region widget events).2 =
      events ++ [.posted (routePrefix ++ change.method) token (requestBody region widget)] ++
        questions site token widget ++
        [.called (contextOf site token region) (change.call (change.handed widget))] ∧
    Delivered (change.answer site (contextOf site token region) (change.handed widget))
      (change.send site.post uri token region widget events).1 := by
  have hmanage : site.isTrusted token = true ∨ mayManage site token (change.handed widget) = true := by
    rw [mayManage, change.handed_key]
    exact hallowed
  have hquestions : questions site token (change.handed widget) = questions site token widget := by
    rw [questions, change.handed_key, questions]
  have hresponded := respond_allowed hmanage change (bound_written change region widget)
    (events ++ [.posted (routePrefix ++ change.method) token (requestBody region widget)])
  have hposted := post_apply haddress token change.method (requestBody region widget) events
  rw [hresponded] at hposted
  have hsent : change.send site.post uri token region widget events =
      ((answered (change.answer site (contextOf site token region)
        (change.handed widget))).arrived.decodeUnary Reply.codec,
      events ++ [.posted (routePrefix ++ change.method) token (requestBody region widget)] ++
        questions site token widget ++
        [.called (contextOf site token region) (change.call (change.handed widget))]) := by
    rw [change.send_eq, ← hquestions]
    exact stateM_bind _ hposted
  rw [hsent]
  exact ⟨rfl, delivered_answered _⟩

/-- An owner updates a widget, at an address that ends in a slash. -/
theorem change_arrives_update :
    Change.update.send ownersSite.post "http://gateway/" "acme" "local" ⟨[], ⟨"w", "acme"⟩, 1⟩ [] =
      (.ok ⟨"done"⟩, [.posted "/auth/ctrl/UpdateWidget" "acme"
          (requestBody "local" ⟨[], ⟨"w", "acme"⟩, 1⟩),
        .asked "acme" "acme" "widget" "ActionManage" true,
        .called ⟨"acme", "local", false⟩
          (.updateWidget ⟨["2.1", "2.2", "3"], ⟨"w", "acme"⟩, 1⟩)]) := by
  have harrives := change_arrives ownersSite .update "http://gateway/" "acme" "local"
    ⟨[], ⟨"w", "acme"⟩, 1⟩ [] (by decide) (.inr (by decide))
  exact Prod.ext (harrives.2.1 ⟨"done"⟩ rfl) harrives.1

end Widgets

end RegionGateway
