import RegionGateway.Proofs.Output.Symbols

/-!
# What handlers and the route table refer to

A handler refers to what it imports, but for the messages, which it needs only if the response is streamed
(`Handler.bringsIn_chunk`); the trait of a service with methods refers to these (`Handler.refersTo_backendTrait`).
The route table and the dispatcher refer to what they import (`RouteTable.refersTo_chunk`).
-/

namespace RegionGateway

open Rust

variable {paths : ModulePaths} {p : Mention → Bool} {plan : MethodPlan}

namespace Handler

/-- Characters that name an error of the runtime by its type. -/
def areError (chars : List Char) : Bool :=
  match mentionsAfter [] chars with
  | mention :: rest =>
    mention == ("GatewayError", true) && rest.all fun other => other.1 ∉ runtimeSymbols && !other.2
  | [] => false

/-- A text that names an error of the runtime by its type. -/
abbrev IsError : String → Prop := Checks areError

section

variable (hw : Watches paths p)
include hw

theorem hits_error {text : String} (h : IsError text) : hits p text = p ("GatewayError", true) := by
  change areError text.toList = true at h
  unfold areError at h
  split at h
  · next mention rest hmentions =>
      obtain ⟨hfirst, hrest⟩ := Bool.and_eq_true_iff.mp h
      have hplain : rest.any p = false := by
        rw [List.any_eq_false]
        intro other hother hp
        have hfree := List.all_eq_true.mp hrest other hother
        simp only [Bool.and_eq_true, decide_eq_true_eq, Bool.not_eq_true'] at hfree
        rcases hw.watched other hp with hsymbol | ⟨hcolons, -⟩
        · exact hfree.1 hsymbol
        · simp [hfree.2] at hcolons
      rw [hits, mentions, hmentions, List.any_cons, hplain, Bool.or_false, eq_of_beq hfirst]
  · cases h

theorem any_outcome : outcome.leaves.any (hits p) = p ("GatewayError", true) := by
  have herror : hits p "GatewayError" = p ("GatewayError", true) := hits_symbol hw (by decide)
  simp (disch := (apply checks_of; with_reducible rfl; decide)) [outcome, Ty.unit, hits_fixed hw, herror]

theorem any_requestParameters : (Parameters.leaves requestParameters).any (hits p) = p ("ResponseSink", true) := by
  have hsink : hits p "ResponseSink" = p ("ResponseSink", true) := hits_symbol hw (by decide)
  simp (disch := (apply checks_of; with_reducible rfl; decide)) [requestParameters, hits_fixed hw, hsink]

/-- The constant with the fields of an update is no symbol of the runtime. -/
theorem hits_fieldIdsName (h : plan.Plain paths.watched) : hits p plan.fieldIdsName = false :=
  hits_suffixed hw (isWord_upper (isWord_withoutRawMark h.functionName.1)) (by decide) (by decide)

theorem any_fieldIdsTable (h : plan.Plain paths.watched) : (fieldIdsTable plan).leaves.any (hits p) = false := by
  have hname : IsName plan.fieldIdsName :=
    ⟨_, isWord_append (isWord_upper (isWord_withoutRawMark h.functionName.1)) (by decide), .inl rfl⟩
  have hlabel : hits p (plan.fieldIdsName ++ ":") = false := (hits_label hname).trans (hits_fieldIdsName hw h)
  have hrows : ∀ field ∈ plan.fieldIds, hits p field.1 = false ∧ hits p field.2 = false := fun field hfield =>
    ⟨hits_avoids hw (h.fieldIds field hfield).1, hits_avoids hw (h.fieldIds field hfield).2⟩
  simp (disch := (apply checks_of; with_reducible rfl; decide)) [fieldIdsTable, Item.leaves, any_str hw,
    hits_before hw, hits_behind hw, hits_between hw, hits_avoids hw h.method.avoids,
    hits_avoids hw h.inputType.avoids, hlabel]
  exact fun path id hfield => hrows (path, id) hfield

/-- The check of an input names errors of the runtime. -/
theorem any_inputCheck (h : plan.Plain paths.watched) : (Stmt.allLeaves (inputCheck plan)).any (hits p) =
    (plan.check == .input && p ("GatewayError", true)) := by
  have hresource := hits_avoids hw h.resource
  have haction := hits_avoids hw h.action
  unfold inputCheck
  cases plan.check with
  | off => rfl
  | items => rfl
  | input =>
    cases hrequired : plan.requiredOrg with
    | none =>
      simp (disch := (apply checks_of; with_reducible rfl; decide)) [question, refuse, hits_fixed hw, hresource,
        haction, hits_avoids hw h.inputOrg, hits_error hw]
    | some path =>
      have horg := hits_avoids hw (h.requiredOrg path hrequired)
      simp (disch := (apply checks_of; with_reducible rfl; decide)) [question, refuse, requireOrg,
        hits_fixed hw, hits_behind hw, hresource, haction, hits_avoids hw h.inputOrg, hits_error hw, horg]

/-- The filter of streamed items says nothing that is looked for. -/
theorem any_itemFilter (h : plan.Plain paths.watched) : (itemFilter plan).leaves.any (hits p) = false := by
  unfold itemFilter
  cases plan.check <;>
    simp (disch := (apply checks_of; with_reducible rfl; decide)) [question, hits_fixed hw,
      hits_avoids hw h.itemOrg, hits_avoids hw h.resource, hits_avoids hw h.action]

theorem any_backendCall (h : plan.Plain paths.watched) : (backendCall plan).leaves.any (hits p) = false := by
  simp (disch := (apply checks_of; with_reducible rfl; decide)) [backendCall, hits_fixed hw,
    hits_avoids hw h.functionName.2]

end

section

variable (hpaths : paths.Apart) (hw : Watches paths p)
include hpaths hw

/-- A streamed reply names the type of its items. -/
theorem any_serve (h : plan.Plain paths.watched) : (Stmt.allLeaves (serve paths plan)).any (hits p) =
    if plan.streams then p ("serve_stream", true) || p (localName paths.messages, true)
    else p ("reply_json", true) := by
  have hstream : hits p "serve_stream" = p ("serve_stream", true) := hits_symbol hw (by decide)
  have hreply : hits p "reply_json" = p ("reply_json", true) := hits_symbol hw (by decide)
  have hitem : hits p (itemName plan ++ ":") = false := by
    unfold itemName
    split <;> simp (disch := (apply checks_of; with_reducible rfl; decide)) [hits_fixed hw]
  cases hstreams : plan.streams <;>
    simp (disch := (apply checks_of; with_reducible rfl; decide)) [serve, hstreams, callOn,
      any_backendCall hw h, any_itemFilter hw h, any_messageType hpaths hw h.outputType.avoids, hits_fixed hw,
      hstream, hreply, hitem]

theorem any_body (h : plan.Plain paths.watched) : (Stmt.allLeaves (body paths plan)).any (hits p) =
    (p (localName paths.wrappers, true) || (p ("decode_request", true) ||
      (plan.derivesMask && p ("set_region_obj_fields", true) || ((plan.check == .input && p ("GatewayError", true)) ||
        if plan.streams then p ("serve_stream", true) || p (localName paths.messages, true)
        else p ("reply_json", true))))) := by
  have hdecode : hits p "decode_request" = p ("decode_request", true) := hits_symbol hw (by decide)
  have hderive : hits p "set_region_obj_fields" = p ("set_region_obj_fields", true) := hits_symbol hw (by decide)
  cases hmask : plan.derivesMask <;>
    simp (disch := (apply checks_of; with_reducible rfl; decide)) [body, hmask, callOn,
      hits_inModule hpaths paths.wrappers_mem, hits_avoids hw h.isFree_wrapper.avoids,
      hits_avoids hw h.wrapperField, hits_fieldIdsName hw h, any_inputCheck hw h, any_serve hpaths hw h,
      hits_fixed hw, hits_behind hw, hdecode, hderive]

/-- What the handler of a method refers to: messages only if the response is streamed. -/
theorem refersTo_chunk (h : plan.Plain paths.watched) : (chunk paths plan).refersTo p =
    (p ("GatewayError", true) || (p ("Enforcer", true) || (p ("RegionContext", true) || (p ("ResponseSink", true) ||
      (p (localName paths.wrappers, true) || (p ("decode_request", true) ||
        (plan.derivesMask && p ("set_region_obj_fields", true) ||
          if plan.streams then p ("serve_stream", true) || p (localName paths.messages, true)
          else p ("reply_json", true)))))))) := by
  have henforcer : hits p "Enforcer" = p ("Enforcer", true) := hits_symbol hw (by decide)
  have hcontext : hits p "RegionContext" = p ("RegionContext", true) := hits_symbol hw (by decide)
  have hlabel : hits p ((if plan.check = .off then "_enforcer" else "enforcer") ++ ":") = false := by
    split <;> simp (disch := (apply checks_of; with_reducible rfl; decide)) [hits_fixed hw]
  have htable : (if plan.derivesMask then [fieldIdsTable plan] else []).any (fun item => item.leaves.any (hits p)) =
      false := by
    split <;> simp [any_fieldIdsTable hw h]
  rw [Chunk.refersTo_eq _ hw.ignores, chunk, List.any_append, htable]
  simp (disch := (apply checks_of; with_reducible rfl; decide)) [function, Item.leaves, Function.leaves,
    any_requestParameters hw, any_outcome hw, any_body hpaths hw h, hits_fixed hw, hits_before hw,
    hits_behind hw, hits_avoids hw h.method.avoids, hits_avoids hw h.functionName.2,
    hits_avoids hw h.service.avoids, henforcer, hcontext, hlabel]
  grind

/-- A handler imports what it refers to, and messages. -/
theorem bringsIn_chunk (h : plan.Plain paths.watched) : (chunk paths plan).bringsIn p =
    ((chunk paths plan).refersTo p || p (localName paths.messages, true)) := by
  rw [refersTo_chunk hpaths hw h, Chunk.bringsIn, chunk, any_uses hw (by simp [ModulePaths.modules])]
  cases plan.streams <;> cases plan.derivesMask <;> simp <;> grind

theorem any_backendMethod (h : plan.Plain paths.watched) : (backendMethod paths plan).leaves.any (hits p) =
    (p ("RegionContext", true) || (p (localName paths.messages, true) || (p ("GatewayError", true) ||
      plan.streams && p ("BackendStream", true)))) := by
  have hcontext : hits p "RegionContext" = p ("RegionContext", true) := hits_symbol hw (by decide)
  have herror : hits p "GatewayError" = p ("GatewayError", true) := hits_symbol hw (by decide)
  have hstream : hits p "BackendStream" = p ("BackendStream", true) := hits_symbol hw (by decide)
  cases hstreams : plan.streams <;>
    simp (disch := (apply checks_of; with_reducible rfl; decide)) [backendMethod, backendResult, hstreams,
      Signature.leaves, any_messageType hpaths hw h.inputType.avoids,
      any_messageType hpaths hw h.outputType.avoids, hits_fixed hw, hits_before hw, hits_behind hw,
      hits_avoids hw h.method.avoids, hits_avoids hw h.functionName.2, hcontext, herror, hstream]
  grind

/-- The trait of a service with methods refers to what it imports. -/
theorem refersTo_backendTrait {service : ServicePlan} (hname : IsFree paths.watched service.name)
    (h : ∀ plan ∈ service.methods, plan.Plain paths.watched) (hmethods : service.methods ≠ []) :
    (backendTrait paths service).refersTo p = (backendTrait paths service).bringsIn p := by
  have hasync : hits p "async_trait" = p ("async_trait", true) := hits_symbol hw (by decide)
  have hlabel : hits p (service.name ++ ":") = false :=
    (hits_label ⟨_, hname.1, .inl rfl⟩).trans (hits_avoids hw hname.avoids)
  have hsignatures : (service.methods.any fun plan => (backendMethod paths plan).leaves.any (hits p)) =
      (p ("RegionContext", true) || (p (localName paths.messages, true) || (p ("GatewayError", true) ||
        service.methods.any (·.streams) && p ("BackendStream", true)))) := by
    obtain ⟨first, rest, hcons⟩ := List.exists_cons_of_ne_nil hmethods
    rw [hcons] at h ⊢
    clear hcons
    -- All signatures refer to the same, except for streams, so the induction begins with one method.
    induction rest generalizing first with
    | nil => simpa using any_backendMethod hpaths hw (h first List.mem_cons_self)
    | cons next rest ih =>
        obtain ⟨hfirst, hrest⟩ := List.forall_mem_cons.mp h
        rw [List.any_cons, ih next hrest, any_backendMethod hpaths hw hfirst, List.any_cons]
        grind
  rw [Chunk.refersTo_eq _ hw.ignores, Chunk.bringsIn, backendTrait, any_uses hw (by simp [ModulePaths.modules])]
  cases hstreams : service.methods.any (·.streams) <;>
    simp (disch := (apply checks_of; with_reducible rfl; decide)) [Item.leaves, List.any_flatMap, List.any_map,
      Function.comp_def, hsignatures, hstreams, hits_before hw, hits_behind hw, hits_avoids hw hname.avoids,
      hasync, hlabel] <;>
    grind

end

end Handler

/-! ## Route table and dispatcher -/

/-- The names of a route are words that are not taken, and neither its summary nor the fields of its input have
words that are. -/
structure Route.Plain (taken : List String) (request : Request) (route : Route) : Prop where
  module : IsFree taken route.module
  service : IsFree taken route.service
  method : IsFree taken route.method
  function : Avoids taken (ident route.method)
  inputType : IsFree taken route.inputType
  summary : ∀ summary ∈ route.summary, Avoids taken summary
  fields : ∀ message ∈ request.message? route.inputType, ∀ path ∈ FieldPath.all request message,
    Avoids taken path.listing

instance (taken : List String) (request : Request) (route : Route) : Decidable (route.Plain taken request) :=
  decidable_of_iff (IsFree taken route.module ∧ IsFree taken route.service ∧ IsFree taken route.method ∧
      Avoids taken (ident route.method) ∧ IsFree taken route.inputType ∧
      (∀ summary ∈ route.summary, Avoids taken summary) ∧
      ∀ message ∈ request.message? route.inputType, ∀ path ∈ FieldPath.all request message,
        Avoids taken path.listing)
    ⟨fun ⟨h₁, h₂, h₃, h₄, h₅, h₆, h₇⟩ => ⟨h₁, h₂, h₃, h₄, h₅, h₆, h₇⟩,
      fun ⟨h₁, h₂, h₃, h₄, h₅, h₆, h₇⟩ => ⟨h₁, h₂, h₃, h₄, h₅, h₆, h₇⟩⟩

namespace RouteTable

variable (hw : Watches paths p)
include hw

/-- A path below the module of a method. -/
theorem hits_below {module : String} (h : IsFree paths.watched module) (name : String) :
    hits p ("super::" ++ module ++ "::" ++ name) = hits p name := by
  have hparts : "super::" ++ module ++ "::" ++ name = "super" ++ "::" ++ (module ++ "::" ++ name) := by
    simp only [String.append_assoc]
    rw [← @String.append_assoc "super" "::"]
    rfl
  have hsuper : p ("super", true) = false := hw.kept (by decide)
  rw [hparts, hits, mentions_inModule (by decide), List.any_cons, hsuper, mentions_inModule h.1, List.any_cons,
    hw.free h.2]
  rfl

theorem hits_path {route : Route} (h : IsFree paths.watched route.method) : hits p route.path = false := by
  simp (disch := (apply checks_of; with_reducible rfl; decide)) [Route.path, routePrefix, hits_behind hw,
    hits_avoids hw h.avoids]

section

variable {request : Request} {route : Route} (h : route.Plain paths.watched request)
include h

theorem any_arm : hits p (arm route).1 = false ∧ (arm route).2.leaves.any (hits p) = false := by
  simp (disch := (apply checks_of; with_reducible rfl; decide)) [arm, callOn, hits_before hw, hits_behind hw,
    hits_fixed hw, hits_below hw h.module, hits_avoids hw h.function, hits_path hw h.method]

theorem any_entry : route.entry.leaves.any (hits p) = p ("ControllerRoute", true) := by
  have hsymbol : hits p "ControllerRoute" = p ("ControllerRoute", true) := hits_symbol hw (by decide)
  cases hstreams : route.streaming <;>
    simp (disch := (apply checks_of; with_reducible rfl; decide)) [Route.entry, hits_fixed hw,
      hits_avoids hw h.service.avoids, hits_avoids hw h.method.avoids, hits_avoids hw h.inputType.avoids,
      hits_path hw h.method, hsymbol, hstreams]

end

/-- The lines of a summary have its words. -/
theorem any_summaryLines {summary : String} (h : Avoids paths.watched summary) :
    (Route.summaryLines summary).any (hits p) = false := by
  have hblank : ∀ c : Char, (if c = '\r' ∨ c = '\n' then ' ' else c) = c ∨
      (isSeam c = true ∧ isSeam (if c = '\r' ∨ c = '\n' then ' ' else c) = true) := by
    intro c
    split
    · next hbreak => exact .inr ⟨by rcases hbreak with rfl | rfl <;> decide, by decide⟩
    · exact .inl rfl
  have htrim : ∀ text, hits p (Text.trim text) = hits p text := fun text => by rw [hits, mentions_trim, hits]
  unfold Route.summaryLines
  lift_lets
  intro blank text
  have htext : hits p text = false := by
    rw [htrim, hits, mentions_map hblank, ← hits, hits_avoids hw h]
  split
  · rfl
  · split
    · simp (disch := (apply checks_of; with_reducible rfl; decide)) [hits_before hw, htext]
    · next first rest hcut =>
        have hparts : (hits p first || hits p rest) = false := by
          rw [← htext, hits, hits, hits, mentions_cut (by decide) hcut, List.any_append]
        obtain ⟨hfirst, hrest⟩ := Bool.or_eq_false_iff.mp hparts
        split <;> simp (disch := (apply checks_of; with_reducible rfl; decide)) [hits_before hw, htrim, hfirst,
          hrest]

/-- The lines that list the fields of an update. -/
theorem any_updateLines {request : Request} {route : Route} (h : route.Plain paths.watched request) :
    (Route.updateLines request route).any (hits p) = false := by
  have hlisted : ((request.message? route.inputType).elim [] fun message =>
      (FieldPath.all request message).map (·.listing)).any (hits p) = false := by
    cases hmessage : request.message? route.inputType with
    | none => rfl
    | some message =>
        rw [Option.elim, List.any_map, List.any_eq_false]
        exact fun path hpath => Bool.eq_false_iff.mp (hits_avoids hw (h.fields message hmessage path hpath))
  simp (disch := (apply checks_of; with_reducible rfl; decide)) [Route.updateLines, hlisted, hits_before hw,
    hits_behind hw, hits_fixed hw, hits_avoids hw h.inputType.avoids]

theorem any_documentation {request : Request} {route : Route} (h : route.Plain paths.watched request) :
    (route.documentation request).any (hits p) = false := by
  have hsummary : (Route.summaryLines (route.summary.getD "")).any (hits p) = false := by
    cases hsome : route.summary with
    | none => rfl
    | some summary => exact any_summaryLines hw (h.summary summary hsome)
  have hresponses : Route.responseLines.any (hits p) = false := by
    simp (disch := (apply checks_of; with_reducible rfl; decide)) [Route.responseLines, hits_fixed hw]
  have hstart : hits p ("swagger:route POST " ++ route.path ++ " " ++ route.inputType ++ " " ++ route.method) =
      false := by
    simp (disch := (apply checks_of; with_reducible rfl; decide)) [hits_between hw, hits_behind hw,
      hits_path hw h.method, hits_avoids hw h.method.avoids, hits_avoids hw h.inputType.avoids]
  unfold Route.documentation
  split <;> simp [hstart, hsummary, any_updateLines hw h, hresponses]

theorem any_table {request : Request} {routes : List Route}
    (h : ∀ route ∈ routes, route.Plain paths.watched request) : (table request routes).leaves.any (hits p) = p ("ControllerRoute", true) := by
  have hsymbol : hits p "ControllerRoute" = p ("ControllerRoute", true) := hits_symbol hw (by decide)
  -- There may be no rows, so they are only shown to refer to nothing but what the type of the table does.
  have hrows : (routes.flatMap fun route => route.documentation request ++ route.entry.leaves).any (hits p) = true →
      p ("ControllerRoute", true) = true := by
    rw [List.any_flatMap, List.any_eq_true]
    rintro ⟨route, hroute, hrow⟩
    rwa [List.any_append, any_documentation hw (h route hroute), any_entry hw (h route hroute)] at hrow
  have hdoc : IsFixed "Every controller route served by the gateway." := checks_of rfl rfl
  have hname : hits p ("CONTROLLER_ROUTES" ++ ":") = false := by
    simp (disch := (apply checks_of; with_reducible rfl; decide)) [hits_fixed hw]
  rw [table, Item.leaves, List.any_cons, hits_fixed hw hdoc, List.any_cons, hname, List.any_append, Ty.leaves,
    List.any_cons, hsymbol, List.any_nil, List.flatMap_map, Bool.eq_iff_iff]
  simp only [Bool.false_or, Bool.or_false, Bool.or_eq_true]
  exact ⟨fun h => h.elim id hrows, .inl⟩

theorem any_dispatcher {request : Request} {routes : List Route}
    (h : ∀ route ∈ routes, route.Plain paths.watched request) :
    (Item.function (dispatcher routes)).leaves.any (hits p) = (p ("Enforcer", true) || (p ("RegionContext", true) ||
      (p ("ResponseSink", true) || p ("GatewayError", true)))) := by
  have henforcer : hits p "Enforcer" = p ("Enforcer", true) := hits_symbol hw (by decide)
  have hcontext : hits p "RegionContext" = p ("RegionContext", true) := hits_symbol hw (by decide)
  have hbounds : ((dispatcher routes).bounds.getD []).any (hits p) = false := by
    rw [dispatcher, Option.getD_some, List.any_map, List.any_eq_false]
    intro pair hpair
    obtain ⟨route, hroute, rfl⟩ := List.mem_map.mp (Route.mem_distinct.mp hpair).1
    have hplain := h route hroute
    simp [hits_below hw hplain.module, hits_avoids hw hplain.service.avoids]
  simp only [dispatcher, Option.getD_some] at hbounds
  have harms : ((routes.map arm).flatMap fun arm => arm.1 :: arm.2.leaves).any (hits p) = false := by
    rw [List.flatMap_map, List.any_flatMap, List.any_eq_false]
    intro route hroute
    obtain ⟨hpattern, hcall⟩ := any_arm hw (h route hroute)
    rw [List.any_cons, hpattern, hcall]
    decide
  simp (disch := (apply checks_of; with_reducible rfl; decide)) [dispatcher, Item.leaves, Function.leaves,
    Handler.any_requestParameters hw, Handler.any_outcome hw, any_str hw, Expr.armLeaves_eq, hits_fixed hw,
    Handler.hits_error hw, henforcer, hcontext, hbounds, harms]

theorem refersTo_chunk {mode : Mode} {request : Request} {routes : List Route}
    (h : ∀ route ∈ routes, route.Plain paths.watched request) :
    (chunk mode paths request routes).refersTo p = (chunk mode paths request routes).bringsIn p := by
  have hempty : Chunk.empty.refersTo p = Chunk.empty.bringsIn p := rfl
  unfold chunk
  split
  · exact hempty
  · rw [Chunk.refersTo_eq _ hw.ignores, Chunk.bringsIn, any_uses hw (by simp)]
    cases mode.dispatches <;> simp [any_table hw h, any_dispatcher hw h]
    grind

end RouteTable

end RegionGateway
