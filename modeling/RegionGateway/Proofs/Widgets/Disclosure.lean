import RegionGateway.Proofs.Widgets.Responses

/-!
# What a caller learns about widgets

A request to show widgets is answered with the widgets of the backend's stream that the enforcer lets
the caller view, in order, up to the stream's first failure (`dispatch_showWidget`). So two streams of
which the same is visible give the same response, whatever else is in them
(`denied_items_leave_no_trace`). For an enforcer that decides by a fixed policy, what is visible of a
stream is what is visible of it after the denied widgets are deleted (`visible_permitted`).
-/

namespace RegionGateway.Widgets

variable {τ : Type}

/-- The question whether a user may view a widget. -/
def viewQuestion (enforcer : Enforcer (StateM τ)) (user : String) (widget : Widget) : StateM τ Bool :=
  enforcer.enforce user widget.key.organization "widget" "ActionView"

/-- The stream that a backend opens for a request to show widgets. -/
def shownStream (backend : Backend τ) (context : RegionContext) (widget : Widget) :
    Attempt τ GatewayError (List (StreamItem Widget)) :=
  backend context (.showWidget widget)

/-- What a user may see of a stream of widgets, or of the failure to open it, in a world: the widgets
before the first failure that the enforcer lets the user view, and that failure. -/
def visible (enforcer : Enforcer (StateM τ)) (user : String)
    (opened : Except GatewayError (List (StreamItem Widget)) × τ) : List Widget × Option GatewayError :=
  (disclosed (viewQuestion enforcer user) opened.1 opened.2).1

/-! ## Fixed policies -/

/-- A stream without the widgets that a user may not view. -/
def permitted (policy : String → String → String → String → Bool) (user : String) :
    List (StreamItem Widget) → List (StreamItem Widget) :=
  List.filter fun
    | .ok widget => policy user widget.key.organization "widget" "ActionView"
    | .error _ => true

/-- Deleting what is denied changes nothing about what is visible. -/
theorem visible_permitted (policy : String → String → String → String → Bool) (user : String)
    (stream : List (StreamItem Widget)) (world : τ) :
    visible (.ofPolicy policy) user (.ok (permitted policy user stream), world) =
      visible (.ofPolicy policy) user (.ok stream, world) := by
  let filter : Widget → StateM τ Bool := viewQuestion (.ofPolicy policy) user
  show (sift filter (permitted policy user stream) world).1 = (sift filter stream world).1
  induction stream with
  | nil => rfl
  | cons first rest ih =>
      cases first with
      | error error => rfl
      | ok widget =>
          cases hallowed : policy user widget.key.organization "widget" "ActionView" with
          | false =>
              have hdeleted : permitted policy user (.ok widget :: rest) = permitted policy user rest :=
                List.filter_cons_of_neg (by simp [hallowed])
              rw [hdeleted, ih]
              exact (sift_filtered filter hallowed rest).symm
          | true =>
              have hkept : permitted policy user (.ok widget :: rest) =
                  .ok widget :: permitted policy user rest := List.filter_cons_of_pos hallowed
              rw [hkept, sift_allowed filter hallowed, sift_allowed filter hallowed]
              exact congrArg (fun sifted => (widget :: sifted.1, sifted.2)) ih

/-! ## Requests to show widgets -/

section

variable {enforcer : Enforcer (StateM τ)} {backend : Backend τ} {caller : RegionContext}

/-- What a caller may see of what comes of a request to show widgets: a request that is not bound fails
at once. -/
def visibleReply (enforcer : Enforcer (StateM τ)) (backend : Backend τ) (caller : RegionContext)
    (body : Bytes) (world : τ) : List Widget × Option GatewayError :=
  match decodeRequest Widget.type.wrapped body with
  | .error error => ([], some error)
  | .ok request => visible enforcer caller.username (shownStream backend
      ⟨caller.username, request.region, caller.skipAuthz⟩ request.object world)

/-- The handler of `ShowWidget` tells what is visible, and nothing else. -/
theorem dispatch_showWidget (hcaller : caller.skipAuthz = false) (body : Bytes) (world : τ) :
    ∃ left, dispatch (handlers (observed enforcer backend)) (routePrefix ++ "ShowWidget") caller body
        (.fresh world) =
      told Widget.codec.write left (visibleReply enforcer backend caller body world) := by
  have hplanned : "ShowWidget" ∈ plans.map (·.method) := by
    rw [planned_methods]
    decide
  obtain ⟨plan, hplan, hmethod, serve, hserve, hdispatch⟩ :=
    dispatch_method (observed enforcer backend) hplanned caller body
  have hshow : serve? (observed enforcer backend) plan = some (plan.serveItems Widget.type Widget.type
      (Reception.enforcer enforcer)
      (fun context widget => Reception.act (shownStream backend context widget)) Reception.sink) := by
    simp only [serve?, hmethod]
    rfl
  rw [hshow] at hserve
  cases hserve
  obtain ⟨hcheck, horg, hresource, haction⟩ := viewed_plans plan hplan hmethod
  have hunchecked : plan.Unchecked caller := by
    rintro ⟨hinput, -⟩
    rw [hcheck] at hinput
    cases hinput
  have haccept : plan.accept Widget.type body = decodeRequest Widget.type.wrapped body := by
    rw [accept_eq_bound hplan, hmethod, bound_of_ne (by decide)]
  rw [hdispatch, serveItems_fresh, visibleReply]
  cases hrequest : decodeRequest Widget.type.wrapped body with
  | error error =>
      rw [hrequest] at haccept
      rw [MethodPlan.enter_unbound haccept]
      exact ⟨world, rfl⟩
  | ok request =>
      rw [hrequest] at haccept
      have hsends : plan.sends Widget.type enforcer
          ⟨caller.username, request.region, caller.skipAuthz⟩ =
          viewQuestion enforcer caller.username := by
        funext widget
        rw [MethodPlan.sends, if_pos ⟨hcheck, hcaller⟩, MethodPlan.allows, MethodPlan.orgOf, horg,
          hresource, haction]
        rfl
      rw [MethodPlan.enter_unchecked hunchecked haccept]
      simp only [hsends]
      let opened := shownStream backend ⟨caller.username, request.region, caller.skipAuthz⟩
        request.object world
      obtain ⟨left, hserved⟩ := serveStream_disclosed Widget.codec.write
        (viewQuestion enforcer caller.username) opened.1 opened.2
      exact ⟨left, hserved⟩

/-- The world that is left does not show in the response. -/
theorem withReport_told (write : Widget → Json) (left left' : τ)
    (visible : List Widget × Option GatewayError) :
    (withReport (told write left visible)).2.response =
        (withReport (told write left' visible)).2.response ∧
      (withReport (told write left visible)).1 = (withReport (told write left' visible)).1 := by
  unfold told
  split <;> exact ⟨rfl, rfl⟩

end

/-- What is reported of a request to show widgets and what is answered. -/
def showReply (enforcer : Enforcer (StateM τ)) (backend : Backend τ) (caller : RegionContext)
    (body : Bytes) (world : τ) : Option GatewayError × Reception τ :=
  respond (handlers (observed enforcer backend)) Reception.sink (routePrefix ++ "ShowWidget") caller
    body (.fresh world)

/-- **Denied widgets leave no trace.** Two backends answer a request to show widgets of a caller that
is not trusted. If the same is visible of their streams to the caller, the same widgets before the same
failure or the end, then the responses are the same: status, content type, body and flushes. -/
theorem denied_items_leave_no_trace (enforcer : Enforcer (StateM τ)) (backend backend' : Backend τ)
    (caller : RegionContext) (hcaller : caller.skipAuthz = false) (body : Bytes) (world world' : τ)
    (hvisible : ∀ region widget,
      let context : RegionContext := ⟨caller.username, region, caller.skipAuthz⟩
      visible enforcer caller.username (shownStream backend context widget world) =
        visible enforcer caller.username (shownStream backend' context widget world')) :
    (showReply enforcer backend caller body world).2.response =
        (showReply enforcer backend' caller body world').2.response ∧
      (showReply enforcer backend caller body world).1 =
        (showReply enforcer backend' caller body world').1 := by
  obtain ⟨left, hdispatch⟩ := dispatch_showWidget hcaller body world
  obtain ⟨left', hdispatch'⟩ := dispatch_showWidget hcaller body world'
  have hsame : visibleReply enforcer backend caller body world =
      visibleReply enforcer backend' caller body world' := by
    unfold visibleReply
    split
    · rfl
    · exact hvisible _ _
  rw [hsame] at hdispatch
  have hanswer : showReply enforcer backend caller body world = _ := respond_settled hdispatch
  have hanswer' : showReply enforcer backend' caller body world' = _ := respond_settled hdispatch'
  rw [hanswer, hanswer']
  exact withReport_told _ _ _ _

/-- A backend that shows one stream to everyone and fails all other calls. -/
def showing (stream : List (StreamItem Widget)) : Backend Unit := fun _ call =>
  match call with
  | .showWidget _ => return stream
  | .createWidget _ | .deleteWidget _ | .updateWidget _ | .injectWidget _ | .showSettings _
  | .streamSettings _ => throw (.ofBackend "down")

theorem shownStream_showing (stream : List (StreamItem Widget)) (context : RegionContext)
    (widget : Widget) : shownStream (showing stream) context widget () = (.ok stream, ()) := rfl

/-- A stream with a widget of acme and one of eve, and then a failure. -/
def mixedStream : List (StreamItem Widget) :=
  [.ok ⟨[], ⟨"secret", "acme"⟩, 1⟩, .ok ⟨[], ⟨"w", "eve"⟩, 1⟩, .ok ⟨[], ⟨"secret", "acme"⟩, 2⟩,
    .error (.ofBackend "boom")]

/-- Where everyone may view only what is theirs, eve cannot tell the widgets of acme from none. -/
theorem denied_items_leave_no_trace_mixed :
    permitted ownersSite.policy "eve" mixedStream =
      [.ok ⟨[], ⟨"w", "eve"⟩, 1⟩, .error (.ofBackend "boom")] ∧
    (showReply (.ofPolicy ownersSite.policy) (showing mixedStream) (.ofUser "eve")
        (Widget.type.wrapped.write ⟨"local", ⟨[], ⟨"", ""⟩, 0⟩⟩).bytes ()).2.response =
      (showReply (.ofPolicy ownersSite.policy)
        (showing (permitted ownersSite.policy "eve" mixedStream)) (.ofUser "eve")
        (Widget.type.wrapped.write ⟨"local", ⟨[], ⟨"", ""⟩, 0⟩⟩).bytes ()).2.response := by
  refine ⟨by simp [permitted, mixedStream, ownersSite], ?_⟩
  refine (denied_items_leave_no_trace (.ofPolicy ownersSite.policy) (showing mixedStream)
    (showing (permitted ownersSite.policy "eve" mixedStream)) (.ofUser "eve") rfl _ () () ?_).1
  intro region widget context
  rw [shownStream_showing, shownStream_showing]
  exact (visible_permitted ownersSite.policy "eve" mixedStream ()).symm

end RegionGateway.Widgets
