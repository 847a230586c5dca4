import RegionGateway.Gateway.Serve
import RegionGateway.Proofs.Gateway.Serving

/-!
# What handlers do with a request

* `enter_unbound`: a request whose body is not bound goes no further;
* `serveReply_unchecked`, `serveItems_unchecked`: handlers that do not check the input call the
  backend with what is bound and never ask the enforcer about it;
* `respond_answer`: the response of a gateway is that of the handler, its error included.
-/

namespace RegionGateway

variable {α β σ : Type} {plan : MethodPlan} {caller : RegionContext} {input : MessageType α}
  {output : MessageType β} {enforcer : Enforcer (StateM σ)} {body : Bytes}

namespace MethodPlan

theorem enter_unbound {error : GatewayError} (h : plan.accept input body = .error error) (start : σ) :
    plan.enter input enforcer caller body start = (.error error, start) := by
  refine Attempt.bind_error _ ?_
  rw [h]
  rfl

theorem enter_bound {request : RegionObject α} (h : plan.accept input body = .ok request) (start : σ) :
    plan.enter input enforcer caller body start =
      (do
        plan.authorize input enforcer ⟨caller.username, request.region, caller.skipAuthz⟩ request.object
        return (⟨caller.username, request.region, caller.skipAuthz⟩, request.object) :
          Attempt σ GatewayError (RegionContext × α)) start := by
  refine Attempt.bind_ok _ ?_
  rw [h]
  rfl

/-- The input is not checked, or not for this caller. -/
def Unchecked (plan : MethodPlan) (caller : RegionContext) : Prop :=
  ¬(plan.check = .input ∧ caller.skipAuthz = false)

theorem enter_unchecked (hplan : plan.Unchecked caller) {request : RegionObject α}
    (h : plan.accept input body = .ok request) (start : σ) :
    plan.enter input enforcer caller body start =
      (.ok (⟨caller.username, request.region, caller.skipAuthz⟩, request.object), start) := by
  have hauthorize : plan.authorize input enforcer
      ⟨caller.username, request.region, caller.skipAuthz⟩ request.object start = (.ok (), start) := by
    rw [MethodPlan.authorize, if_neg hplan]
    rfl
  exact (enter_bound h start).trans (Attempt.bind_ok _ hauthorize)

/-- A unary handler that does not check the input. -/
theorem serveReply_unchecked (hplan : plan.Unchecked caller)
    (backend : RegionContext → α → Attempt σ GatewayError β) (sink : Sink σ) (start : σ) :
    plan.serveReply input output enforcer backend sink caller body start =
      match plan.accept input body with
      | .error error => (.error error, start)
      | .ok request =>
        (backend ⟨caller.username, request.region, caller.skipAuthz⟩ request.object >>= fun value =>
          sink.reply (.ok (output.codec.write value))) start := by
  cases haccept : plan.accept input body with
  | error error => exact Attempt.bind_error _ (enter_unbound haccept start)
  | ok request => exact Attempt.bind_ok _ (enter_unchecked hplan haccept start)

/-- A streaming handler that does not check the input. -/
theorem serveItems_unchecked (hplan : plan.Unchecked caller)
    (backend : RegionContext → α → Attempt σ GatewayError (List (StreamItem β))) (sink : Sink σ)
    (start : σ) :
    plan.serveItems input output enforcer backend sink caller body start =
      match plan.accept input body with
      | .error error => (.error error, start)
      | .ok request =>
        let context : RegionContext := ⟨caller.username, request.region, caller.skipAuthz⟩
        serveStream sink (fun item => .ok (output.codec.write item))
          (plan.sends output enforcer context) (backend context request.object start).1
          (backend context request.object start).2 := by
  cases haccept : plan.accept input body with
  | error error => exact Attempt.bind_error _ (enter_unbound haccept start)
  | ok request =>
      exact (Attempt.bind_ok _ (enter_unchecked hplan haccept start)).trans (Attempt.bind_ok _ rfl)

/-! ## Trusted callers -/

section

variable (hcaller : caller.skipAuthz = true)
include hcaller

theorem unchecked_of_trusted (plan : MethodPlan) : plan.Unchecked caller := by
  rintro ⟨-, hfalse⟩
  rw [hcaller] at hfalse
  cases hfalse

/-- Who the enforcer is does not matter to a trusted caller's unary call. -/
theorem serveReply_trusted (enforcer' : Enforcer (StateM σ))
    (backend : RegionContext → α → Attempt σ GatewayError β) (sink : Sink σ) (body : Bytes) :
    plan.serveReply input output enforcer backend sink caller body =
      plan.serveReply input output enforcer' backend sink caller body := by
  funext start
  rw [serveReply_unchecked (unchecked_of_trusted hcaller plan),
    serveReply_unchecked (unchecked_of_trusted hcaller plan)]

theorem serveItems_trusted (enforcer' : Enforcer (StateM σ))
    (backend : RegionContext → α → Attempt σ GatewayError (List (StreamItem β))) (sink : Sink σ)
    (body : Bytes) :
    plan.serveItems input output enforcer backend sink caller body =
      plan.serveItems input output enforcer' backend sink caller body := by
  funext start
  rw [serveItems_unchecked (unchecked_of_trusted hcaller plan),
    serveItems_unchecked (unchecked_of_trusted hcaller plan)]
  cases plan.accept input body with
  | error error => rfl
  | ok request =>
      let context : RegionContext := ⟨caller.username, request.region, caller.skipAuthz⟩
      -- past the input check only the filter of the items knows the enforcer
      have hsends : plan.sends output enforcer context = plan.sends output enforcer' context := by
        have hnot : ¬(plan.check = .items ∧ context.skipAuthz = false) := by
          rintro ⟨-, hfalse⟩
          rw [show context.skipAuthz = caller.skipAuthz from rfl, hcaller] at hfalse
          cases hfalse
        funext item
        rw [sends, sends, if_neg hnot, if_neg hnot]
      simp only
      rw [hsends]

end

end MethodPlan

/-! ## Requests -/

theorem dispatch_found {handlers : List (RouteHandler σ)} {path : String} {handler : RouteHandler σ}
    (h : handlers.find? (fun handler => routePrefix ++ handler.method == path) = some handler) :
    dispatch handlers path caller body = handler.serve caller body := by
  rw [dispatch, h]

theorem dispatch_missing {handlers : List (RouteHandler σ)} {path : String}
    (h : handlers.find? (fun handler => routePrefix ++ handler.method == path) = none) :
    dispatch handlers path caller body = throw (.notFound path) := by
  rw [dispatch, h]

theorem dispatch_cons (handler : RouteHandler σ) (handlers : List (RouteHandler σ)) (path : String)
    (caller : RegionContext) (body : Bytes) :
    dispatch (handler :: handlers) path caller body =
      if routePrefix ++ handler.method == path then handler.serve caller body
      else dispatch handlers path caller body := by
  cases hpath : routePrefix ++ handler.method == path with
  | true => exact dispatch_found (List.find?_cons_of_pos hpath)
  | false =>
      simp only [dispatch, List.find?_cons, hpath, Bool.false_eq_true, if_false]

/-- Gateways whose handlers do the same with a request do the same with it. -/
theorem dispatch_eq_of_serve_eq {serve serve' : MethodPlan →
      Option (RegionContext → Bytes → Attempt σ GatewayError Unit)}
    (h : ∀ plan, (serve plan).map (fun serve => serve caller body) =
      (serve' plan).map fun serve => serve caller body)
    (path : String) (plans : List MethodPlan) :
    dispatch (plans.filterMap fun plan => (serve plan).map (⟨plan.method, ·⟩)) path caller body =
      dispatch (plans.filterMap fun plan => (serve' plan).map (⟨plan.method, ·⟩)) path caller
        body := by
  induction plans with
  | nil => rfl
  | cons plan plans ih =>
      have hplan := h plan
      cases hserve : serve plan with
      | none =>
          rw [hserve, Option.map_none, eq_comm, Option.map_eq_none_iff] at hplan
          simp only [List.filterMap_cons, hserve, hplan, Option.map_none]
          exact ih
      | some first =>
          rw [hserve, Option.map_some, eq_comm, Option.map_eq_some_iff] at hplan
          obtain ⟨other, hother, hsame⟩ := hplan
          simp only [List.filterMap_cons, hserve, hother, Option.map_some]
          rw [dispatch_cons, dispatch_cons, ih]
          simp only [hsame]

/-- The response of a gateway is the handler's, or says why the handler failed. -/
theorem respond_answer (handlers : List (RouteHandler σ)) (sink : Sink σ) (path : String)
    (caller : RegionContext) (body : Bytes) (start : σ) :
    (respond handlers sink path caller body start).2 =
      (sink.answer (dispatch handlers path caller body) start).2 := by
  cases h : dispatch handlers path caller body start with
  | mk result after =>
      cases result with
      | ok =>
          rw [Sink.answer_ok h]
          exact congrArg Prod.snd (stateM_bind _ h)
      | error error =>
          -- both write the error and drop what comes of writing it
          have hwritten : (sink.writeError error).run after = sink.writeError error after := rfl
          cases hreported : sink.writeError error after with
          | mk reported left =>
              rw [hreported] at hwritten
              have hrespond : respond handlers sink path caller body start = (some error, left) :=
                (stateM_bind _ h).trans (stateM_bind _ hwritten)
              have hanswer : sink.answer (dispatch handlers path caller body) start = ((), left) :=
                (stateM_bind _ h).trans (stateM_bind _ hwritten)
              rw [hrespond, hanswer]

end RegionGateway
