import RegionGateway.Proofs.Gateway.Handlers

/-!
# Requests under observation

A `Reception` is a response under way, next to a list of every header that was asked for and to the
world in which enforcer and backend work. Neither of these knows of the response; so what they make of
a request can be told without it, and what a handler leaves of an empty response follows:

* `enter_aside`: what stands before the call of the backend happens in the world alone;
* `serveReply_fresh`: a unary handler writes the value of the backend in one piece, or nothing;
* `serveStream_disclosed`: what is written of a stream depends only on what the filter lets through
  (`disclosed`).

In every case a header is asked for once if anything is written, and never otherwise.
-/

namespace RegionGateway

variable {α β τ : Type}

/-- A response under way, the headers that were asked for so far, and the world around it. -/
structure Reception (τ : Type) where
  response : RecordedResponse
  headers : List (UInt16 × String)
  world : τ

/-- The header of a response, if it has one. -/
def RecordedResponse.header? (response : RecordedResponse) : Option (UInt16 × String) :=
  match response.status, response.contentType with
  | some status, some contentType => some (status, contentType)
  | _, _ => none

namespace Reception

/-- Writes to the response and keeps every header that is asked for, whether or not it is accepted. -/
def sink : Sink (Reception τ) where
  writeHeader status contentType := fun reception =>
    let (result, response) := RecordedResponse.sink.writeHeader status contentType reception.response
    (result, ⟨response, reception.headers ++ [(status, contentType)], reception.world⟩)
  writeBody chunk := (RecordedResponse.sink.writeBody chunk).within Reception.response
    fun response reception => ⟨response, reception.headers, reception.world⟩
  flush := RecordedResponse.sink.flush.within Reception.response
    fun response reception => ⟨response, reception.headers, reception.world⟩
  headerWritten reception := RecordedResponse.sink.headerWritten reception.response

/-- A question about the world. -/
def ask (question : StateM τ α) : StateM (Reception τ) α := fun reception =>
  let (answer, world) := question reception.world
  (answer, ⟨reception.response, reception.headers, world⟩)

/-- An operation on the world. -/
def act {ε : Type} (operation : Attempt τ ε α) : Attempt (Reception τ) ε α :=
  operation.within Reception.world fun world reception =>
    ⟨reception.response, reception.headers, world⟩

/-- An enforcer that works in the world. -/
def enforcer (enforcer : Enforcer (StateM τ)) : Enforcer (StateM (Reception τ)) where
  enforce subject org resource action := ask (enforcer.enforce subject org resource action)
  orgExists org := ask (enforcer.orgExists org)

/-- The reception of a response whose header, if it has one, is the only one that was asked for. -/
def of (response : RecordedResponse) (world : τ) : Reception τ :=
  ⟨response, response.header?.toList, world⟩

/-- Nothing has been written. -/
def fresh (world : τ) : Reception τ := of .empty world

/-- As long as a response has no header, none was asked for; so the next one is the only one. -/
theorem sink_records : (sink : Sink (Reception τ)).Records of where
  writeHeader status contentType response world h := by
    obtain ⟨_, contentType', body, flushes⟩ := response
    cases h
    rfl
  writeBody chunk response world := by
    obtain ⟨status, contentType, body, flushes⟩ := response
    cases status <;> rfl
  flush _ _ := rfl
  headerWritten _ _ := rfl

/-! ## The world alone -/

theorem act_apply {ε : Type} (operation : Attempt τ ε α) (response : RecordedResponse) (world : τ) :
    act operation (of response world) = ((operation world).1, of response (operation world).2) := rfl

theorem act_bind {ε : Type} (x : Attempt τ ε α) (f : α → Attempt τ ε β) :
    act (x >>= f) = act x >>= fun a => act (f a) := by
  funext reception
  cases h : x reception.world with
  | mk result world =>
      have hact : act x reception = (result, ⟨reception.response, reception.headers, world⟩) := by
        simp only [act, Attempt.within, h]
      cases result with
      | error error =>
          rw [Attempt.bind_error _ hact]
          simp only [act, Attempt.within, Attempt.bind_error f h]
      | ok a =>
          rw [Attempt.bind_ok _ hact]
          simp only [act, Attempt.within, Attempt.bind_ok f h]

theorem act_demand {ε : Type} (question : StateM τ Bool) (error : ε) :
    act (Attempt.demand question error) = Attempt.demand (ask question) error := by
  funext reception
  rw [Attempt.demand_apply]
  simp only [act, Attempt.within, Attempt.demand_apply]
  rfl

end Reception

namespace MethodPlan

variable (plan : MethodPlan) (enforcer : Enforcer (StateM τ))

theorem demandOrg_aside (type : MessageType α) (object : α) :
    plan.demandOrg type (Reception.enforcer enforcer) object =
      Reception.act (plan.demandOrg type enforcer object) := by
  unfold demandOrg
  cases plan.requiredOrg with
  | none => rfl
  | some path => exact (Reception.act_demand _ _).symm

theorem authorize_aside (type : MessageType α) (context : RegionContext) (object : α) :
    plan.authorize type (Reception.enforcer enforcer) context object =
      Reception.act (plan.authorize type enforcer context object) := by
  unfold authorize
  split
  · rw [demandOrg_aside, Reception.act_bind]
    exact congrArg _ (funext fun _ => (Reception.act_demand _ _).symm)
  · rfl

/-- What stands before the call of the backend happens in the world alone. -/
theorem enter_aside (type : MessageType α) (caller : RegionContext) (body : Bytes) :
    plan.enter type (Reception.enforcer enforcer) caller body =
      Reception.act (plan.enter type enforcer caller body) := by
  unfold enter
  rw [Reception.act_bind]
  refine congrArg _ (funext fun request => ?_)
  let context : RegionContext := ⟨caller.username, request.region, caller.skipAuthz⟩
  simp only [authorize_aside]
  exact (Reception.act_bind (plan.authorize type enforcer context request.object)
    fun _ => return (context, request.object)).symm

/-- Items are filtered in the world alone. -/
theorem sends_aside (type : MessageType α) (context : RegionContext) :
    plan.sends type (Reception.enforcer enforcer) context =
      fun item => Reception.ask (plan.sends type enforcer context item) := by
  funext item
  unfold sends
  split <;> rfl

end MethodPlan

/-! ## Replies -/

/-- What a filter lets through of what opening a stream gave: the items that it allows before the
first failure, and that failure. A stream that is not opened has failed before its first item. -/
def disclosed (filter : α → StateM τ Bool) :
    Except GatewayError (List (StreamItem α)) → StateM τ (List α × Option GatewayError)
  | .error error => return ([], some error)
  | .ok stream => sift filter stream

/-- The streamed response that says what was let through of a stream. Each line is flushed, and a
response without lines once. -/
def RecordedResponse.telling (write : α → Json) (items : List α) (failure : Option GatewayError) :
    RecordedResponse :=
  let forms := (items.map write).map Envelope.dataForm ++ failure.toList.map Envelope.resultForm
  .begun forms (max 1 forms.length)

/-- How a streaming handler ends that begins with nothing written, given what is let through and the
world that is left. A failure before the first item is handed back. -/
def told (write : α → Json) (left : τ) :
    List α × Option GatewayError → Except GatewayError Unit × Reception τ
  | ([], some error) => (.error error, .fresh left)
  | (items, failure) => (.ok (), .of (.telling write items failure) left)

/-- What serving a stream comes to is told by what is let through of it. -/
theorem serveStream_disclosed (write : α → Json) (filter : α → StateM τ Bool)
    (opened : Except GatewayError (List (StreamItem α))) (world : τ) : ∃ left,
    serveStream Reception.sink (fun item => .ok (write item)) (fun item => Reception.ask (filter item))
      opened (.fresh world) = told write left (disclosed filter opened world).1 := by
  cases opened with
  | error error => exact ⟨world, rfl⟩
  | ok stream =>
      have hbeside : Beside Reception.of (fun item => Reception.ask (filter item)) filter :=
        fun _ _ _ => rfl
      obtain ⟨left, hserved⟩ := serveStream_empty hbeside (fun item => .ok (write item))
        Reception.sink_records stream world
      refine ⟨left, ?_⟩
      have hsift : (disclosed filter (.ok stream) world).1 = (sift filter stream world).1 := rfl
      rw [Reception.fresh, hserved, hsift]
      cases (sift filter stream world).1 with
      | mk items failure =>
          cases items with
          | nil =>
              cases failure with
              | none => rfl
              | some error => rfl
          | cons item rest =>
              rw [streamed, written_total]
              rfl

section

variable {plan : MethodPlan} {enforcer : Enforcer (StateM τ)} {caller : RegionContext}
  (input : MessageType α) (output : MessageType β) (body : Bytes) (world : τ)

/-- What stands before the call of the backend writes nothing. -/
theorem enter_fresh : plan.enter input (Reception.enforcer enforcer) caller body (.fresh world) =
    ((plan.enter input enforcer caller body world).1, .fresh (plan.enter input enforcer caller body world).2) := by
  rw [MethodPlan.enter_aside, Reception.fresh, Reception.act_apply]
  rfl

/-- A unary handler writes the value of the backend, or nothing. -/
theorem serveReply_fresh (call : RegionContext → α → Attempt τ GatewayError β) :
    plan.serveReply input output (Reception.enforcer enforcer)
        (fun context object => Reception.act (call context object)) Reception.sink caller body
        (.fresh world) =
      match (plan.enter input enforcer caller body >>= fun entered => call entered.1 entered.2) world
        with
      | (.error error, after) => (.error error, .fresh after)
      | (.ok value, after) => (.ok (),
          .of ⟨some 200, some jsonContentType, (output.codec.write value).bytes, 1⟩ after) := by
  have henter : plan.enter input (Reception.enforcer enforcer) caller body (.fresh world) = _ :=
    enter_fresh input body world
  cases hentered : plan.enter input enforcer caller body world with
  | mk result entered =>
      rw [hentered] at henter
      cases result with
      | error error =>
          rw [Attempt.bind_error _ hentered]
          exact Attempt.bind_error _ henter
      | ok request =>
          rw [Attempt.bind_ok _ hentered]
          refine (Attempt.bind_ok _ henter).trans ?_
          have hact := Reception.act_apply (call request.1 request.2) .empty entered
          cases hcalled : call request.1 request.2 entered with
          | mk called after =>
              rw [hcalled] at hact
              cases called with
              | error error => exact Attempt.bind_error _ hact
              | ok value =>
                  exact (Attempt.bind_ok _ hact).trans
                    (Sink.reply_empty Reception.sink_records _ after)

/-- A streaming handler whose request is refused writes nothing; otherwise it tells what the filter
lets through of the backend's stream. -/
theorem serveItems_fresh
    (call : RegionContext → α → Attempt τ GatewayError (List (StreamItem β))) :
    plan.serveItems input output (Reception.enforcer enforcer)
        (fun context object => Reception.act (call context object)) Reception.sink caller body
        (.fresh world) =
      match plan.enter input enforcer caller body world with
      | (.error error, after) => (.error error, .fresh after)
      | (.ok (context, object), after) =>
        serveStream Reception.sink (fun item => .ok (output.codec.write item))
          (fun item => Reception.ask (plan.sends output enforcer context item))
          (call context object after).1 (.fresh (call context object after).2) := by
  have henter : plan.enter input (Reception.enforcer enforcer) caller body (.fresh world) = _ :=
    enter_fresh input body world
  cases hentered : plan.enter input enforcer caller body world with
  | mk result entered =>
      rw [hentered] at henter
      cases result with
      | error error => exact Attempt.bind_error _ henter
      | ok request =>
          refine (Attempt.bind_ok _ henter).trans ?_
          refine (Attempt.bind_ok _ (a := (call request.1 request.2 entered).1) rfl).trans ?_
          rw [MethodPlan.sends_aside]
          rfl

end

end RegionGateway
