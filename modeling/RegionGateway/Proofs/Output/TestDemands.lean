import RegionGateway.Proofs.Output.Agreement
import RegionGateway.Proofs.Output.HandlerText
import RegionGateway.Widgets.Interface

/-!
# What permission tests demand of handlers

A call of a guarded method for a foreign organization must be forbidden, and its views must be empty. So a
handler has to ask the enforcer about the input before it calls the backend (`Handler.EnforcesInput`), or
about every item (`Handler.FiltersItems`). The groups of tests are made without a look at the directive:

* `Handler.enforcesInput_iff`, `Handler.filtersItems_iff`: what a handler does is what its plan says;
* `MessageTests.demands_met_iff`: a demand is met exactly if the directive does not turn enforcement off.
-/

namespace RegionGateway

open Rust

namespace Rust

/-- The variable or place on which an expression calls a method. -/
def Expr.receiver : Expr → List String
  | .method (.place object) _ _ => [object]
  | _ => []

/-- The variables and places on which a statement calls methods. -/
def Stmt.receivers (s : Stmt) : List String := s.head.collect Expr.receiver

end Rust

namespace Handler

/-- Some statement, or one in it, calls the backend. -/
def CallsBackend (statements : List Stmt) : Prop := "backend" ∈ Stmt.collect Stmt.receivers statements

theorem callsBackend_append {a b : List Stmt} : CallsBackend (a ++ b) ↔ CallsBackend a ∨ CallsBackend b := by
  rw [CallsBackend, Stmt.collect_append, List.mem_append]
  rfl

variable (paths : ModulePaths) (plan : MethodPlan)

/-- The handler checks its input before it calls the backend: unless the caller is internal, it asks the
enforcer about the organization of the input, and gives back `Forbidden` if that does not agree. -/
def EnforcesInput : Prop :=
  ∃ before checks after,
    body paths plan = before ++ [.whenTrue (.negate (.place "rc.skip_authz")) checks []] ++ after ∧
    .whenTrue (.negate (question plan plan.inputOrg)) [refuse (.place "GatewayError::Forbidden")] [] ∈ checks ∧
    ¬CallsBackend before ∧ ¬CallsBackend checks ∧ CallsBackend after

/-- The handler serves a stream of the backend, of which it sends the items that the enforcer agrees to, and
all of them to an internal caller. -/
def FiltersItems : Prop :=
  ∃ before item,
    body paths plan = before ++ [.value (.awaitBelow (.call "serve_stream" [.place "sink", backendCall plan,
      .closure item (.borrowed false (paths.messageType plan.outputType))
        (.either (.place "rc.skip_authz") (question plan plan.itemOrg))]))] ∧
    ¬CallsBackend before

variable {paths plan}

/-! ## Calls of the backend -/

theorem not_callsBackend_opening : ¬CallsBackend (opening paths plan) := by
  have hreceivers : Stmt.collect Stmt.receivers (opening paths plan) = ["input.region"] := by
    unfold opening
    cases plan.derivesMask <;> rfl
  rw [CallsBackend, hreceivers]
  decide

theorem callsBackend_serve : CallsBackend (serve paths plan) := by
  unfold serve
  split
  · exact List.mem_append_left _ (List.mem_cons_self ..)
  · exact List.mem_cons_self ..

/-- A place in the input is not the backend. -/
theorem backend_ne_place (path : String) : "backend" ≠ "obj." ++ path := by
  intro h
  have hhead := congrArg (fun text : String => text.toList.head?) h
  simp [String.toList_append] at hhead

theorem not_callsBackend_requireOrg (path : String) : ¬CallsBackend [requireOrg path] := by
  have hreceivers : Stmt.collect Stmt.receivers [requireOrg path] = ["enforcer", "obj." ++ path] := rfl
  rw [CallsBackend, hreceivers, List.mem_cons, List.mem_singleton, not_or]
  exact ⟨by decide, backend_ne_place path⟩

/-! ## The body of a handler -/

/-- A handler whose plan says so checks its input. -/
theorem enforcesInput_of_check (h : plan.check = .input) : EnforcesInput paths plan := by
  have hchecks : inputCheck plan = [.whenTrue (.negate (.place "rc.skip_authz"))
      ((plan.requiredOrg.map requireOrg).toList ++
        [.whenTrue (.negate (question plan plan.inputOrg)) [refuse (.place "GatewayError::Forbidden")] []]) []] := by
    rw [inputCheck, h]
  refine ⟨opening paths plan, _, serve paths plan, hchecks ▸ body_eq paths plan,
    List.mem_append_right _ List.mem_cons_self, not_callsBackend_opening, ?_, callsBackend_serve⟩
  rw [callsBackend_append, not_or]
  constructor
  · cases plan.requiredOrg with
    | none => exact List.not_mem_nil
    | some path => exact not_callsBackend_requireOrg path
  · have hreceivers : Stmt.collect Stmt.receivers [.whenTrue (.negate (question plan plan.inputOrg))
        [refuse (.place "GatewayError::Forbidden")] []] = ["enforcer"] := rfl
    rw [CallsBackend, hreceivers]
    decide

/-- A handler checks its input exactly if its plan says so. -/
theorem enforcesInput_iff : EnforcesInput paths plan ↔ plan.check = .input := by
  refine ⟨fun ⟨before, checks, after, hbody, _⟩ => ?_, enforcesInput_of_check⟩
  by_contra hcheck
  -- without a check of the input, no statement of the body is a conditional
  have hnone : inputCheck plan = [] := by
    unfold inputCheck
    split
    · next h => exact absurd h hcheck
    · rfl
  have hplain : ∀ s ∈ body paths plan, ∀ condition checks otherwise,
      s ≠ Stmt.whenTrue condition checks otherwise := by
    rw [body_eq, hnone, opening, serve]
    cases plan.derivesMask <;> cases plan.streams <;> simp
  have hmem : .whenTrue (.negate (.place "rc.skip_authz")) checks [] ∈ body paths plan := by
    rw [hbody]
    exact List.mem_append_left _ (List.mem_append_right _ List.mem_cons_self)
  exact hplain _ hmem _ _ _ rfl

/-- A handler of a stream filters its items exactly if its plan says so. -/
theorem filtersItems_iff (hstreams : plan.streamsView = true → plan.streams = true) :
    FiltersItems paths plan ↔ plan.check = .items := by
  constructor
  · rintro ⟨before, item, hbody, -⟩
    by_contra hcheck
    have hfilter : itemFilter plan = .place "true" := by
      unfold itemFilter
      split
      · next h => exact absurd h hcheck
      · rfl
    -- the last statement replies, without a stream or with a filter that lets everything pass
    have hlast := congrArg List.getLast? hbody
    rw [List.getLast?_concat, body_eq, serve, hfilter] at hlast
    cases hstream : plan.streams <;> simp [hstream, callOn] at hlast
  · intro hcheck
    have hstream : plan.streams = true := hstreams (MethodPlan.streamsView_of_check hcheck)
    refine ⟨opening paths plan, itemName plan, ?_, not_callsBackend_opening⟩
    rw [body_eq, inputCheck, serve, itemFilter, hcheck, if_pos hstream]
    simp

end Handler

/-! ## Plans of services -/

namespace MethodPlan

theorem check_eq_input {plan : MethodPlan} :
    plan.check = .input ↔ plan.skipsEnforcement = false ∧ plan.streamsView = false := by
  unfold check
  cases plan.skipsEnforcement <;> cases plan.streamsView <;> decide

theorem check_eq_items {plan : MethodPlan} :
    plan.check = .items ↔ plan.skipsEnforcement = false ∧ plan.streamsView = true := by
  unfold check
  cases plan.skipsEnforcement <;> cases plan.streamsView <;> decide

end MethodPlan

variable {request : Request} {module : String} {service : ServiceDecl} {planned : ServicePlan}
  {owners after : WrapperOwners}

/-- What a plan says about the enforcer is what the directive of its method says. -/
theorem Generation.skips_of_planMethod {service : String} {declared : MethodDecl} {plan : MethodPlan}
    (h : planMethod request module service declared owners = (.ok plan, after)) :
    ∃ directive, Directive.parse declared.rawDirective = .ok directive ∧
      (plan.skipsEnforcement = false ↔ directive.orgField ≠ Directive.skipMarker) := by
  obtain ⟨classified, made, hclassify, hmade, -, rfl⟩ := planMethod_cases h
  refine ⟨classified.directive, (ClassifiedMethod.isOf_of_classify hclassify).directive, ?_⟩
  rw [(MethodPlan.follows_of_ofMethod hmade).skips, ← Bool.not_eq_true, Directive.skipsEnforcement_iff]

namespace MessageTests

/-- **Tests demand what is enforced, unless enforcement is turned off.** For every request and every service
whose methods are planned, all inputs and all modules: a guarded method of a group of tests, which must be
forbidden for a foreign organization, is a gateway method of the service, and its handler asks the enforcer
about the input before it calls the backend exactly if its directive does not turn enforcement off. A view of
a group, which must be empty for a foreign organization, is one too, and its handler asks the enforcer about
every item under the same condition. -/
theorem demands_met_iff (h : Generation.planService request module service owners = (.ok planned, after))
    (inputs : InputIndex) (paths : ModulePaths) :
    ∀ tests ∈ ofService request inputs planned,
      (∀ plan ∈ tests.guarded, ∃ declared ∈ service.gatewayMethods, ∃ directive,
        plan.IsOf service.name declared ∧ Directive.parse declared.rawDirective = .ok directive ∧
        (Handler.EnforcesInput paths plan ↔ directive.orgField ≠ Directive.skipMarker)) ∧
      ∀ plan ∈ tests.views, ∃ declared ∈ service.gatewayMethods, ∃ directive,
        plan.IsOf service.name declared ∧ Directive.parse declared.rawDirective = .ok directive ∧
        (Handler.FiltersItems paths plan ↔ directive.orgField ≠ Directive.skipMarker) := by
  intro tests htests
  obtain ⟨hguarded, hviews, -⟩ := mem_ofService htests
  constructor
  · intro plan hplan
    obtain ⟨hmethod, hview⟩ := hguarded plan hplan
    obtain ⟨declared, hdeclared, start, last, hplanned⟩ := Generation.exists_of_planService h hmethod
    obtain ⟨directive, hparse, hskips⟩ := Generation.skips_of_planMethod hplanned
    refine ⟨declared, hdeclared, directive, (Generation.planMethod_eq_ok hplanned).2, hparse, ?_⟩
    rw [Handler.enforcesInput_iff, MethodPlan.check_eq_input, ← hskips]
    exact and_iff_left hview
  · intro plan hplan
    obtain ⟨hmethod, hview⟩ := hviews plan hplan
    obtain ⟨declared, hdeclared, start, last, hplanned⟩ := Generation.exists_of_planService h hmethod
    obtain ⟨directive, hparse, hskips⟩ := Generation.skips_of_planMethod hplanned
    refine ⟨declared, hdeclared, directive, (Generation.planMethod_eq_ok hplanned).2, hparse, ?_⟩
    have hcoherent := MethodPlan.coherent_of_made ⟨_, _, _, _, hplanned⟩
    rw [Handler.filtersItems_iff hcoherent.streamsView, MethodPlan.check_eq_items, ← hskips]
    exact and_iff_left hview

/-- The names of the methods in the groups of a planned service, guarded ones and views, each with where its
handler asks the enforcer. -/
def checks (request : Request) (planned : ServicePlan) : List (List (String × Check) × List (String × Check)) :=
  (ofService request (InputIndex.ofRequest request) planned).map fun tests =>
    (tests.guarded.map fun plan => (plan.method, plan.check),
      tests.views.map fun plan => (plan.method, plan.check))

/-- All handlers of the widget service do what its tests demand. -/
theorem demands_met_iff_widgets : ∃ planned after,
    Generation.planService Widgets.request "widget" Widgets.widgetService .empty = (.ok planned, after) ∧
    ∃ tests ∈ ofService Widgets.request (InputIndex.ofRequest Widgets.request) planned,
      tests.guarded.map (·.method) = ["CreateWidget", "UpdateWidget", "DeleteWidget"] ∧
      tests.views.map (·.method) = ["ShowWidget"] ∧
      (∀ plan ∈ tests.guarded, Handler.EnforcesInput .standard plan) ∧
      ∀ plan ∈ tests.views, Handler.FiltersItems .standard plan := by
  have hchecks : (Generation.planService Widgets.request "widget" Widgets.widgetService .empty).1.toOption.map
      (checks Widgets.request) =
        some [([("CreateWidget", .input), ("UpdateWidget", .input), ("DeleteWidget", .input)],
          [("ShowWidget", .items)])] := by decide +kernel
  have horg : ∀ declared ∈ Widgets.widgetService.gatewayMethods,
      (Directive.parse declared.rawDirective).toOption.map (·.orgField) = some "Key.Organization" := by
    decide +kernel
  have hkept : ∀ declared ∈ Widgets.widgetService.gatewayMethods, ∀ directive,
      Directive.parse declared.rawDirective = .ok directive → directive.orgField ≠ Directive.skipMarker := by
    intro declared hdeclared directive hparse
    have hfield := horg declared hdeclared
    rw [hparse] at hfield
    have hname : directive.orgField = "Key.Organization" := Option.some.inj hfield
    rw [hname]
    decide
  obtain ⟨planned, after, hplanned, hgroups⟩ := Attempt.exists_of_toOption hchecks
  obtain ⟨tests, hofService, htests⟩ := List.map_eq_singleton_iff.mp hgroups
  have hmem : tests ∈ ofService Widgets.request (InputIndex.ofRequest Widgets.request) planned := by
    rw [hofService]
    exact List.mem_cons_self
  obtain ⟨hguarded, hviews⟩ :=
    demands_met_iff hplanned (InputIndex.ofRequest Widgets.request) .standard tests hmem
  refine ⟨planned, after, hplanned, tests, hmem, ?_, ?_, fun plan hplan => ?_, fun plan hplan => ?_⟩
  · simpa [Function.comp_def] using congrArg (fun group => group.1.map Prod.fst) htests
  · simpa [Function.comp_def] using congrArg (fun group => group.2.map Prod.fst) htests
  · obtain ⟨declared, hdeclared, directive, -, hparse, hiff⟩ := hguarded plan hplan
    exact hiff.mpr (hkept declared hdeclared directive hparse)
  · obtain ⟨declared, hdeclared, directive, -, hparse, hiff⟩ := hviews plan hplan
    exact hiff.mpr (hkept declared hdeclared directive hparse)

/-- Messages that want tests, although every caller may create and see them. -/
def states : ServiceDecl where
  name := "StateApi"
  methods := [
    ⟨"CreateState", "State", "Result", false, false, some "state,ActionManage,skipenforce", none, none⟩,
    ⟨"ShowState", "State", "State", true, false, some "state,ActionView,skipenforce", none, none⟩]

def stateRequest : Request :=
  ⟨[⟨"state.proto", [states], [⟨"State", [], true, false, none⟩]⟩], [], none⟩

/-- The tests of states demand that creating and showing them is checked, but neither is. -/
theorem demands_not_met : ∃ planned after,
    Generation.planService stateRequest "state" states .empty = (.ok planned, after) ∧
    ∃ tests ∈ ofService stateRequest (InputIndex.ofRequest stateRequest) planned,
      (∃ plan ∈ tests.guarded, plan.method = "CreateState" ∧ ¬Handler.EnforcesInput .standard plan) ∧
      ∃ plan ∈ tests.views, plan.method = "ShowState" ∧ ¬Handler.FiltersItems .standard plan := by
  have hchecks : (Generation.planService stateRequest "state" states .empty).1.toOption.map
      (checks stateRequest) = some [([("CreateState", .off)], [("ShowState", .off)])] := by decide +kernel
  obtain ⟨planned, after, hplanned, hgroups⟩ := Attempt.exists_of_toOption hchecks
  obtain ⟨tests, hofService, htests⟩ := List.map_eq_singleton_iff.mp hgroups
  obtain ⟨hguarded, hviews⟩ := Prod.mk.inj htests
  obtain ⟨creation, hcreation, hcreated⟩ := List.map_eq_singleton_iff.mp hguarded
  obtain ⟨view, hview, hviewed⟩ := List.map_eq_singleton_iff.mp hviews
  obtain ⟨hcreate, hcreateOff⟩ := Prod.mk.inj hcreated
  obtain ⟨hshow, hshowOff⟩ := Prod.mk.inj hviewed
  have hmem : tests ∈ ofService stateRequest (InputIndex.ofRequest stateRequest) planned := by
    rw [hofService]
    exact List.mem_cons_self
  refine ⟨planned, after, hplanned, tests, hmem,
    ⟨creation, hcreation ▸ List.mem_cons_self, hcreate, ?_⟩, view, hview ▸ List.mem_cons_self, hshow, ?_⟩
  · rw [Handler.enforcesInput_iff, hcreateOff]
    decide
  · have hmethod := ((mem_ofService hmem).2.1 view (hview ▸ List.mem_cons_self)).1
    have hcoherent := MethodPlan.coherent_of_made (Generation.made_of_planService hplanned view hmethod)
    rw [Handler.filtersItems_iff hcoherent.streamsView, hshowOff]
    decide

end MessageTests

end RegionGateway
