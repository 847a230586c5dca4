import RegionGateway.Proofs.Gateway.Handlers
import RegionGateway.Widgets.Site

/-!
# The routes of the widget gateway

Facts about the plans of the widget services, and which handler serves a path:

* `map_ruleOf_plans`: where the enforcer is asked and about what, in one table; `managed_plans` and
  `viewed_plans` are read off it;
* `serves_of_serve?`: a method is served as a unary call that changes a widget, or as a stream;
* `dispatch_cases`, `dispatch_method`: a path is served by the handler of its method.
-/

namespace RegionGateway

namespace Widgets

/-! ## Plans -/

/-- The methods that change a widget. -/
def managed : List String := ["CreateWidget", "DeleteWidget", "UpdateWidget", "InjectWidget"]

/-- The table of the fields that an update may set. -/
def updatedFields : List (String × String) :=
  [("key", "2"), ("key.name", "2.1"), ("key.organization", "2.2"), ("size", "3")]

/-- What a plan says about a method: where the enforcer is asked and about what, and the fields that
an update may set. -/
structure Rule where
  method : String
  check : Check
  requiredOrg : Option String
  orgPath : Option String
  resource : String
  action : String
  derivesMask : Bool
  fieldIds : List (String × String)
  deriving DecidableEq

/-- The rule of a plan. -/
def ruleOf (plan : MethodPlan) : Rule :=
  ⟨plan.method, plan.check, plan.requiredOrg, plan.orgPath, plan.resource, plan.action,
    plan.derivesMask, plan.fieldIds⟩

/-- A method that changes a widget asks about its input before the backend is called. -/
def managedRule (method : String) : Rule :=
  ⟨method, .input, none, some "key.organization", "widget", "ActionManage", false, []⟩

/-- The rules of the widget gateway. -/
def rules : List Rule :=
  [managedRule "CreateWidget", managedRule "DeleteWidget",
    { managedRule "UpdateWidget" with derivesMask := true, fieldIds := updatedFields },
    ⟨"ShowWidget", .items, none, some "key.organization", "widget", "ActionView", false, []⟩,
    managedRule "InjectWidget",
    ⟨"ShowSettings", .items, none, none, "config", "ActionView", false, []⟩,
    ⟨"StreamSettings", .off, none, none, "config", "ActionView", false, []⟩]

-- the plans are computed from the text of an interface, so they are evaluated here and nowhere else
theorem map_ruleOf_plans : plans.map ruleOf = rules := by decide +kernel

theorem ruleOf_mem {plan : MethodPlan} (h : plan ∈ plans) : ruleOf plan ∈ rules := by
  rw [← map_ruleOf_plans]
  exact List.mem_map_of_mem h

theorem planned_methods : plans.map (·.method) = ["CreateWidget", "DeleteWidget", "UpdateWidget",
    "ShowWidget", "InjectWidget", "ShowSettings", "StreamSettings"] := by
  have hmethod : (fun plan : MethodPlan => plan.method) = (·.method) ∘ ruleOf := rfl
  rw [hmethod, ← List.map_map, map_ruleOf_plans]
  rfl

/-- A method that changes a widget asks about its input before the backend is called. -/
theorem managed_plans : ∀ plan ∈ plans, plan.method ∈ managed →
    plan.check = .input ∧ plan.requiredOrg = none ∧ plan.orgPath = some "key.organization" ∧
      plan.resource = "widget" ∧ plan.action = "ActionManage" := by
  have hrules : ∀ rule ∈ rules, rule.method ∈ managed → rule.check = .input ∧
      rule.requiredOrg = none ∧ rule.orgPath = some "key.organization" ∧
      rule.resource = "widget" ∧ rule.action = "ActionManage" := by decide
  exact fun plan hplan => hrules (ruleOf plan) (ruleOf_mem hplan)

/-- Only updates derive the list of fields from the body. -/
theorem masked_plans : ∀ plan ∈ plans, plan.derivesMask = decide (plan.method = "UpdateWidget") ∧
    (plan.method = "UpdateWidget" → plan.fieldIds = updatedFields) := by
  have hrules : ∀ rule ∈ rules, rule.derivesMask = decide (rule.method = "UpdateWidget") ∧
      (rule.method = "UpdateWidget" → rule.fieldIds = updatedFields) := by decide
  exact fun plan hplan => hrules (ruleOf plan) (ruleOf_mem hplan)

/-- Streams are not asked about before the backend is called. -/
theorem streamed_plans : ∀ plan ∈ plans, plan.method ∉ managed → plan.check ≠ .input := by
  have hrules : ∀ rule ∈ rules, rule.method ∉ managed → rule.check ≠ .input := by decide
  exact fun plan hplan => hrules (ruleOf plan) (ruleOf_mem hplan)

/-- Widgets are shown if the caller may view them. -/
theorem viewed_plans : ∀ plan ∈ plans, plan.method = "ShowWidget" →
    plan.check = .items ∧ plan.orgPath = some "key.organization" ∧
      plan.resource = "widget" ∧ plan.action = "ActionView" := by
  have hrules : ∀ rule ∈ rules, rule.method = "ShowWidget" → rule.check = .items ∧
      rule.orgPath = some "key.organization" ∧ rule.resource = "widget" ∧
      rule.action = "ActionView" := by decide
  exact fun plan hplan => hrules (ruleOf plan) (ruleOf_mem hplan)

/-! ## Handlers -/

/-- The widget that a call changes. -/
def Call.changed? : Call → Option Widget
  | .createWidget widget | .deleteWidget widget | .updateWidget widget | .injectWidget widget =>
    some widget
  | .showWidget _ | .showSettings _ | .streamSettings _ => none

/-- A backend that is called with what it is given, and leaves the response alone. -/
def Calls {α β : Type} (call : α → Call) (backend : RegionContext → α → Attempt Exchange GatewayError β) :
    Prop :=
  ∀ context object start, (backend context object start).2 =
    ⟨start.response, start.events ++ [.called context (call object)]⟩

theorem calls_backend (site : Site) (context : RegionContext) (call : Call) (start : Exchange) :
    site.surroundings.backend context call start =
      (site.backend context call, ⟨start.response, start.events ++ [.called context call]⟩) := by
  refine (Attempt.bind_ok _ (a := ()) rfl).trans ?_
  cases site.backend context call with
  | ok served => rfl
  | error error => rfl

/-- How a site serves a method. -/
inductive Serves (site : Site) (plan : MethodPlan) :
    (RegionContext → Bytes → Attempt Exchange GatewayError Unit) → Prop
  /-- A call that changes a widget. -/
  | unary {call : Widget → Call} {backend} (hmethod : plan.method ∈ managed)
    (hchanged : ∀ widget, (call widget).changed? = some widget) (hcalls : Calls call backend) :
    Serves site plan (plan.serveReply Widget.type Reply.type site.enforcer backend Exchange.sink)
  /-- A stream. -/
  | stream {α β : Type} {input : MessageType α} {output : MessageType β} {call : α → Call} {backend}
    (hmethod : plan.method ∉ managed) (hchanged : ∀ object, (call object).changed? = none)
    (hcalls : Calls call backend) :
    Serves site plan (plan.serveItems input output site.enforcer backend Exchange.sink)

/-- A backend that leaves behind what the backend of the site leaves behind. -/
theorem calls_of {α β : Type} (site : Site) (call : α → Call)
    {backend : RegionContext → α → Attempt Exchange GatewayError β}
    (h : ∀ context object start, (backend context object start).2 =
      (site.surroundings.backend context (call object) start).2) : Calls call backend := by
  intro context object start
  rw [h, calls_backend]

theorem serves_of_serve? {site : Site} {plan : MethodPlan}
    {serve : RegionContext → Bytes → Attempt Exchange GatewayError Unit}
    (h : serve? site.surroundings plan = some serve) : Serves site plan serve := by
  simp only [serve?] at h
  split at h
  · next hmethod =>
      cases h
      refine .unary ?_ ?_ (calls_of site Call.createWidget fun _ _ _ => rfl)
      · rw [hmethod]
        decide
      · exact fun _ => rfl
  · next hmethod =>
      cases h
      refine .unary ?_ ?_ (calls_of site Call.deleteWidget fun _ _ _ => rfl)
      · rw [hmethod]
        decide
      · exact fun _ => rfl
  · next hmethod =>
      cases h
      refine .unary ?_ ?_ (calls_of site Call.updateWidget fun _ _ _ => rfl)
      · rw [hmethod]
        decide
      · exact fun _ => rfl
  · next hmethod =>
      cases h
      refine .stream ?_ ?_ (calls_of site Call.showWidget fun _ _ _ => rfl)
      · rw [hmethod]
        decide
      · exact fun _ => rfl
  · next hmethod =>
      cases h
      refine .unary ?_ ?_ (calls_of site Call.injectWidget fun _ _ _ => rfl)
      · rw [hmethod]
        decide
      · exact fun _ => rfl
  · next hmethod =>
      cases h
      refine .stream ?_ ?_ (calls_of site Call.showSettings fun _ _ _ => rfl)
      · rw [hmethod]
        decide
      · exact fun _ => rfl
  · next hmethod =>
      cases h
      refine .stream ?_ ?_ (calls_of site Call.streamSettings fun _ _ _ => rfl)
      · rw [hmethod]
        decide
      · exact fun _ => rfl
  · cases h

/-! ## Dispatch -/

section

variable {σ : Type} (around : Surroundings σ)

theorem mem_handlers {handler : RouteHandler σ} (h : handler ∈ handlers around) :
    ∃ plan ∈ plans, ∃ serve, serve? around plan = some serve ∧ handler = ⟨plan.method, serve⟩ := by
  obtain ⟨plan, hplan, hhandler⟩ := List.mem_filterMap.mp h
  obtain ⟨serve, hserve, rfl⟩ := Option.map_eq_some_iff.mp hhandler
  exact ⟨plan, hplan, serve, hserve, rfl⟩

/-- A path is not found, or it is served by the handler of a planned method. -/
theorem dispatch_cases (path : String) (caller : RegionContext) (body : Bytes) :
    dispatch (handlers around) path caller body = throw (.notFound path) ∨
    ∃ plan ∈ plans, ∃ serve, serve? around plan = some serve ∧
      path = routePrefix ++ plan.method ∧
      dispatch (handlers around) path caller body = serve caller body := by
  cases hfind : (handlers around).find? fun handler => routePrefix ++ handler.method == path with
  | none => exact .inl (dispatch_missing hfind)
  | some handler =>
      obtain ⟨plan, hplan, serve, hserve, rfl⟩ := mem_handlers around (List.mem_of_find?_eq_some hfind)
      have hpath := List.find?_some hfind
      rw [beq_iff_eq] at hpath
      exact .inr ⟨plan, hplan, serve, hserve, hpath.symm, dispatch_found hfind⟩

/-- Every planned method has a handler. -/
theorem serve?_isSome : ∀ method ∈ plans.map (·.method), ∀ plan : MethodPlan, plan.method = method →
    (serve? around plan).isSome = true := by
  rw [planned_methods]
  intro method hmethod plan hplan
  simp only [List.mem_cons, List.not_mem_nil, or_false] at hmethod
  rcases hmethod with rfl | rfl | rfl | rfl | rfl | rfl | rfl <;> simp [serve?, hplan]

/-- A planned method is served under its path. -/
theorem dispatch_method {method : String} (h : method ∈ plans.map (·.method))
    (caller : RegionContext) (body : Bytes) :
    ∃ plan ∈ plans, plan.method = method ∧ ∃ serve, serve? around plan = some serve ∧
      dispatch (handlers around) (routePrefix ++ method) caller body = serve caller body := by
  obtain ⟨plan, hplan, hmethod⟩ := List.mem_map.mp h
  obtain ⟨serve, hserve⟩ := Option.isSome_iff_exists.mp (serve?_isSome around method h plan hmethod)
  -- the handler that is found need not be that of `plan`, but its method has the same name
  have hhandler : (⟨plan.method, serve⟩ : RouteHandler σ) ∈ handlers around :=
    List.mem_filterMap.mpr ⟨plan, hplan, by rw [hserve]; rfl⟩
  have hfound : ((handlers around).find? fun handler =>
      routePrefix ++ handler.method == routePrefix ++ method).isSome = true := by
    rw [List.find?_isSome]
    exact ⟨_, hhandler, by rw [beq_iff_eq, hmethod]⟩
  obtain ⟨handler, hfind⟩ := Option.isSome_iff_exists.mp hfound
  obtain ⟨other, hother, serve', hserve', rfl⟩ := mem_handlers around (List.mem_of_find?_eq_some hfind)
  have hpath := List.find?_some hfind
  rw [beq_iff_eq] at hpath
  have hsame : other.method = method := (String.append_right_inj routePrefix).mp hpath
  exact ⟨other, hother, hsame, serve', hserve', dispatch_found hfind⟩

end

end Widgets

end RegionGateway
