import RegionGateway.Proofs.Output.Files
import RegionGateway.Proofs.Rust.Names

/-!
# What generated functions refer to

For each kind of output, which wrappers its declarations name and what its functions call and bind. Server
code, client bindings and test helpers name the wrapper of their method only (`Handler.names_chunk`,
`Binding.names_chunk`, `TestHelper.names_chunk`). A test function calls helpers of methods, other test
functions and macros (`PermissionTest.calls_chunk`, `PermissionTest.calls_messageChunk`), and takes the
length only of lists that it has got from the helpers of views (`PermissionTest.measured_messageChunk`).
-/

namespace RegionGateway

open Rust

/-! ## Route table and dispatcher -/

namespace RouteTable

theorem names_table (request : Request) (routes : List Route) (module name : String) :
    ¬ (table request routes).Names module name := by
  have hreferences : (table request routes).references ⊆ [] := by
    show [] ++ (routes.map _).flatMap _ ⊆ _
    rw [List.nil_append, List.flatMap_map, List.subset_nil, List.flatMap_eq_nil_iff]
    exact fun _ _ => rfl
  have hmade : (table request routes).made ⊆ ["ControllerRoute"] := by
    show (routes.map _).flatMap _ ⊆ _
    rw [List.flatMap_map]
    intro type htype
    obtain ⟨route, -, hroute⟩ := List.mem_flatMap.mp htype
    exact hroute
  rintro (h | h)
  · exact absurd (hreferences h) List.not_mem_nil
  · exact path_ne (by simp) module name (List.mem_singleton.mp (hmade h))

/-- What the dispatcher does for a path of no route. -/
def notFound : Expr :=
  .call "Err" [.call "GatewayError::NotFound" [.method (.place "path") "to_string" []]]

/-- The choice that the dispatcher consists of. -/
def choice (routes : List Route) : Expr :=
  .choice (.place "path") (routes.map arm ++ [("_", notFound)])

/-- What is found in the dispatcher is found in the calls of handlers or where there is no route. -/
theorem collect_dispatcher {α : Type} {found : Expr → List α} (routes : List Route)
    (hplace : ∀ text, found (.place text) = []) (hchoice : ∀ subject arms, found (.choice subject arms) = []) :
    (choice routes).collect found ++ [] =
      (routes.flatMap fun route => (arm route).2.collect found) ++ notFound.collect found := by
  have hsubject : (Expr.place "path").collect found = [] := by simp [Expr.collect, Expr.parts, hplace]
  rw [List.append_nil, choice, Expr.collect_choice, hchoice, hsubject, List.nil_append, List.nil_append,
    List.flatMap_append, List.flatMap_map, List.flatMap_singleton]

theorem names_dispatcher (routes : List Route) (module name : String) :
    ¬ (Item.function (dispatcher routes)).Names module name := by
  have hreferences : (Item.function (dispatcher routes)).references ⊆ [] := by
    show (choice routes).collect Expr.annotated ++ [] ⊆ _
    rw [collect_dispatcher routes (fun _ => rfl) fun _ _ => rfl, List.subset_nil, List.append_eq_nil_iff,
      List.flatMap_eq_nil_iff]
    exact ⟨fun _ _ => rfl, rfl⟩
  have hmade : (Item.function (dispatcher routes)).made ⊆ [] := by
    show (choice routes).collect Expr.made ++ [] ⊆ _
    rw [collect_dispatcher routes (fun _ => rfl) fun _ _ => rfl, List.subset_nil, List.append_eq_nil_iff,
      List.flatMap_eq_nil_iff]
    exact ⟨fun _ _ => rfl, rfl⟩
  rintro (h | h)
  · exact absurd (hreferences h) List.not_mem_nil
  · exact absurd (hmade h) List.not_mem_nil

/-- The dispatcher calls handlers and makes errors. -/
theorem calls_dispatcher {routes : List Route} {call : String × List Expr}
    (h : call ∈ (dispatcher routes).calls) :
    (∃ route ∈ routes, call.1 = "super::" ++ route.module ++ "::" ++ ident route.method) ∨
      call.1 = "Err" ∨ call.1 = "GatewayError::NotFound" := by
  have hcalls : (dispatcher routes).calls = (routes.flatMap fun route => (arm route).2.collect Expr.called) ++
      notFound.collect Expr.called :=
    collect_dispatcher routes (fun _ => rfl) fun _ _ => rfl
  rw [hcalls] at h
  rcases List.mem_append.mp h with h | h
  · obtain ⟨route, hroute, h⟩ := List.mem_flatMap.mp h
    obtain rfl := List.mem_singleton.mp h
    exact .inl ⟨route, hroute, rfl⟩
  · rcases List.mem_cons.mp h with rfl | h
    · exact .inr (.inl rfl)
    · obtain rfl := List.mem_singleton.mp h
      exact .inr (.inr rfl)

end RouteTable

/-! ## Handlers -/

namespace Handler

variable (paths : ModulePaths) (plan : MethodPlan)

/-- The check of the input names no type and binds nothing; it makes results and errors only. -/
theorem inputCheck_quiet : Stmt.collect Stmt.references (inputCheck plan) = [] ∧
    Stmt.collect Stmt.made (inputCheck plan) = [] ∧ Stmt.collect Stmt.bindings (inputCheck plan) = [] ∧
    (Stmt.collect Stmt.calls (inputCheck plan)).map Prod.fst ⊆ ["Err", "GatewayError::OrgNotFound"] := by
  unfold inputCheck
  split
  · cases plan.requiredOrg with
    | none =>
        refine ⟨rfl, rfl, rfl, ?_⟩
        show ["Err"] ⊆ _
        simp
    | some path =>
        refine ⟨rfl, rfl, rfl, ?_⟩
        show ["Err", "GatewayError::OrgNotFound", "Err"] ⊆ _
        simp
  · exact ⟨rfl, rfl, rfl, List.nil_subset _⟩

/-- The reply names messages only. -/
theorem serve_quiet :
    Stmt.collect Stmt.references (serve paths plan) ⊆ [(localName paths.messages, plan.outputType)] ∧
    Stmt.collect Stmt.made (serve paths plan) = [] ∧
    (Stmt.collect Stmt.bindings (serve paths plan)).map Prod.fst ⊆ ["resp"] ∧
    (Stmt.collect Stmt.calls (serve paths plan)).map Prod.fst ⊆ ["serve_stream", "reply_json"] := by
  unfold serve
  cases plan.streams with
  | false =>
      refine ⟨List.nil_subset _, rfl, List.Subset.refl _, ?_⟩
      show ["reply_json"] ⊆ _
      simp
  | true =>
      unfold itemFilter
      cases plan.check with
      | items => exact ⟨List.Subset.refl _, rfl, List.nil_subset _, by show ["serve_stream"] ⊆ _; simp⟩
      | off => exact ⟨List.Subset.refl _, rfl, List.nil_subset _, by show ["serve_stream"] ⊆ _; simp⟩
      | input => exact ⟨List.Subset.refl _, rfl, List.nil_subset _, by show ["serve_stream"] ⊆ _; simp⟩

theorem references_function : (Item.function (function paths plan)).references ⊆
    [(localName paths.wrappers, plan.wrapper), (localName paths.messages, plan.outputType)] := by
  have hbody : Stmt.collect Stmt.references (body paths plan) =
      (localName paths.wrappers, plan.wrapper) :: Stmt.collect Stmt.references (serve paths plan) := by
    unfold body
    rw [Stmt.collect_append, Stmt.collect_append, (inputCheck_quiet plan).1]
    cases plan.derivesMask <;> rfl
  show Stmt.collect Stmt.references (body paths plan) ⊆ _
  rw [hbody]
  exact List.cons_subset_cons _ (serve_quiet paths plan).1

theorem made_function : (Item.function (function paths plan)).made = [] := by
  show Stmt.collect Stmt.made (body paths plan) = _
  unfold body
  rw [Stmt.collect_append, (serve_quiet paths plan).2.1, Stmt.collect_append, (inputCheck_quiet plan).2.1]
  cases plan.derivesMask <;> rfl

/-- A handler sets the fields of its input if its plan says so. -/
theorem mask_of_calls {arguments : List Expr}
    (h : ("set_region_obj_fields", arguments) ∈ (function paths plan).calls) :
    plan.derivesMask = true ∧
      arguments = [.place "body", .place "&mut input", .place plan.fieldIdsName] := by
  have hbody : (function paths plan).calls = ("decode_request", [.place "body"]) ::
      ((if plan.derivesMask then
          [("set_region_obj_fields", [.place "body", .place "&mut input", .place plan.fieldIdsName])]
        else []) ++
        (Stmt.collect Stmt.calls (inputCheck plan) ++ Stmt.collect Stmt.calls (serve paths plan))) := by
    show Stmt.collect Stmt.calls (body paths plan) = _
    unfold body
    rw [Stmt.collect_append, Stmt.collect_append]
    cases plan.derivesMask <;> simp <;> rfl
  have hcheck := (inputCheck_quiet plan).2.2.2
  have hserve := (serve_quiet paths plan).2.2.2
  rw [hbody] at h
  rcases List.mem_cons.mp h with h | h
  · simp at h
  rcases List.mem_append.mp h with h | h
  · cases hmask : plan.derivesMask with
    | false => simp [hmask] at h
    | true => simpa [hmask] using h
  · rcases List.mem_append.mp h with h | h
    · simpa using hcheck (List.mem_map_of_mem h)
    · simpa using hserve (List.mem_map_of_mem h)

/-- A handler that sets the fields of its input has bound it to a value of the wrapper. -/
theorem input_bound (h : plan.derivesMask = true) :
    ∃ value, ("mut input", some (.inModule (localName paths.wrappers) plan.wrapper), value) ∈
        (function paths plan).bindings ∧
      ∀ type other, ("mut input", type, other) ∈ (function paths plan).bindings →
        type = some (.inModule (localName paths.wrappers) plan.wrapper) := by
  have hbody : (function paths plan).bindings =
      [("mut input", some (.inModule (localName paths.wrappers) plan.wrapper),
        .propagate (callOn "decode_request" ["body"])),
        ("obj", none, .borrow false (.place ("input." ++ plan.wrapperField)))] ++
        Stmt.collect Stmt.bindings (serve paths plan) := by
    show Stmt.collect Stmt.bindings (body paths plan) = _
    unfold body
    rw [Stmt.collect_append, Stmt.collect_append, (inputCheck_quiet plan).2.2.1, h]
    rfl
  rw [hbody]
  refine ⟨_, List.mem_cons_self, fun type other hother => ?_⟩
  rcases List.mem_append.mp hother with hother | hother
  · rcases List.mem_cons.mp hother with hfirst | hother
    · exact congrArg (fun binding => binding.2.1) hfirst
    · simp at hother
  · have hresp := (serve_quiet paths plan).2.2.1 (List.mem_map_of_mem hother)
    simp at hresp

variable {paths} (hpaths : localName paths.messages ≠ localName paths.wrappers)
include hpaths

/-- Server code names the wrapper of its method only. -/
theorem names_chunk {item : Item} (h : item ∈ (chunk paths plan).items) {name : String}
    (hnames : item.Names (localName paths.wrappers) name) : name = plan.wrapper := by
  have htable : ¬ (fieldIdsTable plan).Names (localName paths.wrappers) name := by
    have hempty : (fieldIdsTable plan).references = [] ∧ (fieldIdsTable plan).made = [] := by
      refine ⟨?_, ?_⟩
      · show [] ++ (plan.fieldIds.map _).flatMap _ = _
        rw [List.nil_append, List.flatMap_map, List.flatMap_eq_nil_iff]
        exact fun _ _ => rfl
      · show (plan.fieldIds.map _).flatMap _ = _
        rw [List.flatMap_map, List.flatMap_eq_nil_iff]
        exact fun _ _ => rfl
    rintro (h | h)
    · simp [hempty.1] at h
    · simp [hempty.2] at h
  have hitem : item = fieldIdsTable plan ∨ item = .function (function paths plan) := by
    rcases List.mem_append.mp h with h | h
    · split at h
      · exact .inl (List.mem_singleton.mp h)
      · cases h
    · exact .inr (List.mem_singleton.mp h)
  rcases hitem with rfl | rfl
  · exact absurd hnames htable
  · rcases hnames with h | h
    · simpa [hpaths.symm] using references_function paths plan h
    · rw [made_function] at h
      cases h

theorem names_backendTrait {service : ServicePlan} {item : Item}
    (h : item ∈ (backendTrait paths service).items) (name : String) :
    ¬ item.Names (localName paths.wrappers) name := by
  have hmethod : ∀ plan, signatureReferences (backendMethod paths plan).parameters
      (some (backendMethod paths plan).result) =
        [(localName paths.messages, plan.inputType), (localName paths.messages, plan.outputType)] := by
    intro plan
    unfold backendMethod backendResult
    cases plan.streams <;> rfl
  obtain rfl := List.mem_singleton.mp h
  rintro (h | h)
  · obtain ⟨method, hmem, href⟩ := List.mem_flatMap.mp h
    obtain ⟨plan, -, rfl⟩ := List.mem_map.mp hmem
    rw [hmethod] at href
    simp [hpaths.symm] at href
  · cases h

end Handler

/-! ## Client bindings and test helpers -/

variable {paths : ModulePaths} (plan : MethodPlan)

theorem Binding.references_outcome : (Binding.outcome paths plan).references =
    [(localName paths.messages, plan.outputType)] := by
  unfold Binding.outcome
  cases plan.streams <;> rfl

/-- Client bindings name the wrapper of their method only. -/
theorem Binding.names_chunk (hpaths : localName paths.messages ≠ localName paths.wrappers) {item : Item}
    (h : item ∈ (chunk paths plan).items) {name : String}
    (hnames : item.Names (localName paths.wrappers) name) : name = plan.wrapper := by
  obtain rfl := List.mem_singleton.mp h
  have hreferences : (Item.function (function paths plan)).references =
      ([(localName paths.wrappers, plan.wrapper)] ++ ((outcome paths plan).references ++ [])) ++ [] := rfl
  rcases hnames with h | h
  · rw [hreferences, references_outcome] at h
    simpa [hpaths.symm] using h
  · cases h

namespace TestHelper

/-- An input is given to an organization without a call of a function, and without naming a type. -/
theorem scoping_quiet : Stmt.collect Stmt.references (scoping plan) = [] ∧
    Stmt.collect Stmt.made (scoping plan) = [] ∧ Stmt.collect Stmt.calls (scoping plan) = [] := by
  unfold scoping
  cases plan.orgPath with
  | none => exact ⟨rfl, rfl, rfl⟩
  | some path => cases plan.orgFieldId <;> exact ⟨rfl, rfl, rfl⟩

theorem sendForOrg_quiet : Stmt.collect Stmt.references (sendForOrg paths plan).body = [] ∧
    Stmt.collect Stmt.made (sendForOrg paths plan).body = [] ∧
    (sendForOrg paths plan).calls.map Prod.fst =
      [localName paths.messages ++ "::" ++ plan.inputType ++ "::default", "test_" ++ plan.functionName] := by
  have hbody : ∃ first last, (sendForOrg paths plan).body = [first] ++ scoping plan ++ [last] ∧
      first = .bind (if plan.orgPath.isSome then "mut input" else "input") none
        (.call ((paths.messageType plan.inputType).text ++ "::default") []) ∧
      last = .value (.await (callOn ("test_" ++ plan.functionName)
        ["transport", "uri", "token", "region", "&input", "mod_funcs"])) := ⟨_, _, rfl, rfl, rfl⟩
  obtain ⟨first, last, hbody, rfl, rfl⟩ := hbody
  obtain ⟨hreferences, hmade, hcalls⟩ := scoping_quiet plan
  rw [Function.calls, hbody]
  simp only [Stmt.collect_append, hreferences, hmade, hcalls]
  exact ⟨rfl, rfl, rfl⟩

/-- Test helpers name the wrapper of their method only. -/
theorem names_chunk (hpaths : localName paths.messages ≠ localName paths.wrappers) {item : Item}
    (h : item ∈ (chunk paths plan).items) {name : String}
    (hnames : item.Names (localName paths.wrappers) name) : name = plan.wrapper := by
  have hitem : item = .function (sendInput paths plan) ∨ item = .function (sendForOrg paths plan) := by
    simpa [chunk] using h
  rcases hitem with rfl | rfl
  · have hreferences : (Item.function (sendInput paths plan)).references =
        ([(localName paths.messages, plan.inputType), (localName paths.messages, plan.inputType)] ++
          ((Binding.outcome paths plan).references ++ [])) ++ [] := rfl
    rcases hnames with h | h
    · rw [hreferences, Binding.references_outcome] at h
      simp [hpaths.symm] at h
    · exact (String.append_right_inj _).mp (List.mem_singleton.mp h)
  · have hreferences : (Item.function (sendForOrg paths plan)).references =
        ([(localName paths.messages, plan.inputType)] ++ ((Binding.outcome paths plan).references ++ [])) ++
          Stmt.collect Stmt.references (sendForOrg paths plan).body := rfl
    rcases hnames with h | h
    · rw [hreferences, Binding.references_outcome, (sendForOrg_quiet plan).1] at h
      simp [hpaths.symm] at h
    · have hmade : (Item.function (sendForOrg paths plan)).made = [] := (sendForOrg_quiet plan).2.1
      rw [hmade] at h
      cases h

/-- A test helper calls a client binding or another helper, besides the functions that it is handed and the
default of a message. -/
theorem calls_chunk {f : Function} (hf : .function f ∈ (chunk paths plan).items) {call : String × List Expr}
    (h : call ∈ f.calls) : call.1 = "f" ∨ call.1 = localName paths.bindings ++ "::" ++ plan.functionName ∨
      call.1 = localName paths.messages ++ "::" ++ plan.inputType ++ "::default" ∨
      call.1 = "test_" ++ plan.functionName := by
  have hname : call.1 ∈ f.calls.map Prod.fst := List.mem_map_of_mem h
  have hitem : f = sendInput paths plan ∨ f = sendForOrg paths plan := by
    simpa [chunk] using hf
  rcases hitem with rfl | rfl
  · have hcalls : (sendInput paths plan).calls.map Prod.fst =
        ["f", localName paths.bindings ++ "::" ++ plan.functionName] := rfl
    rw [hcalls] at hname
    rcases List.mem_cons.mp hname with hname | hname
    · exact .inl hname
    · exact .inr (.inl (List.mem_singleton.mp hname))
  · rw [(sendForOrg_quiet plan).2.2] at hname
    rcases List.mem_cons.mp hname with hname | hname
    · exact .inr (.inr (.inl hname))
    · exact .inr (.inr (.inr (List.mem_singleton.mp hname)))

end TestHelper

/-! ## Permission tests -/

namespace PermissionTest

/-- The macros that test functions use. -/
def macros : List String := ["panic!", "assert!", "assert_eq!"]

/-- The path of a method's helper has two segments. -/
theorem helper_path (paths : ModulePaths) (plan : MethodPlan) :
    localName paths.testHelpers ++ "::test_perm_" ++ plan.functionName =
      localName paths.testHelpers ++ "::" ++ ("test_perm_" ++ plan.functionName) := by
  rw [show "::test_perm_" = "::" ++ "test_perm_" from rfl]
  simp only [String.append_assoc]

/-- What a test function with some parameters calls: the helper of a method, a test function, or a macro. -/
inductive Calls (paths : ModulePaths) (methods : MethodPlan → Prop) (tests : String → Prop)
    (scope : Parameters) : String × List Expr → Prop
  | helper {plan : MethodPlan} {arguments : List Expr} (h : methods plan)
      (takes : (TestHelper.sendForOrg paths plan).Takes scope ("test_perm_" ++ plan.functionName, arguments)) :
      Calls paths methods tests scope
        (localName paths.testHelpers ++ "::test_perm_" ++ plan.functionName, arguments)
  | test {name : String} {arguments : List Expr} (h : tests name) :
      Calls paths methods tests scope (name, arguments)
  | ofMacro {name : String} {arguments : List Expr} (h : name ∈ macros) :
      Calls paths methods tests scope (name, arguments)

/-- The parameters that every test function of one user has. -/
def Scope (scope : Parameters) : Prop := callerParameters ⊆ scope ∧ ("org", Ty.str) ∈ scope

variable {scope : Parameters} {region modifiers : Expr}

theorem takes_helper (hscope : Scope scope) (hregion : Fits scope region .str)
    (hmodifiers : Fits scope modifiers (modifiersParameter paths plan.inputType "mod_funcs").2) :
    (TestHelper.sendForOrg paths plan).Takes scope ("test_perm_" ++ plan.functionName,
      [.place "transport", .place "uri", .place "token", region, .place "org", modifiers]) := by
  obtain ⟨hcaller, horg⟩ := hscope
  refine ⟨rfl, .cons (.parameter (hcaller ?_)) (.cons (.parameter (hcaller ?_)) (.cons
    (.parameter (hcaller ?_)) (.cons hregion (.cons (.parameter horg) (.cons hmodifiers .nil)))))⟩
  all_goals simp [callerParameters]

theorem calls_helperCall {methods : MethodPlan → Prop} {tests : String → Prop} (hplan : methods plan)
    (hscope : Scope scope) (hregion : Fits scope region .str)
    (hmodifiers : Fits scope modifiers (modifiersParameter paths plan.inputType "mod_funcs").2) :
    ∀ call ∈ (helperCall paths plan region modifiers).collect Expr.called,
      Calls paths methods tests scope call := by
  have hcalls : (helperCall paths plan region modifiers).collect Expr.called =
      [(localName paths.testHelpers ++ "::test_perm_" ++ plan.functionName,
        [.place "transport", .place "uri", .place "token", region, .place "org", modifiers])] := by
    cases hregion <;> cases hmodifiers <;> rfl
  rw [hcalls, List.forall_mem_singleton]
  exact .helper hplan (takes_helper plan hscope hregion hmodifiers)

theorem calls_mono {methods methods' : MethodPlan → Prop} {tests tests' : String → Prop}
    (hmethods : ∀ plan, methods plan → methods' plan) (htests : ∀ name, tests name → tests' name)
    {call : String × List Expr} (h : Calls paths methods tests scope call) :
    Calls paths methods' tests' scope call := by
  cases h with
  | helper h takes => exact .helper (hmethods _ h) takes
  | test h => exact .test (htests _ h)
  | ofMacro h => exact .ofMacro h

/-- Statements that only use macros. -/
theorem calls_of_macros {statements : List Stmt} {methods : MethodPlan → Prop} {tests : String → Prop}
    (h : (Stmt.collect Stmt.calls statements).map Prod.fst ⊆ macros) :
    ∀ call ∈ Stmt.collect Stmt.calls statements, Calls paths methods tests scope call :=
  fun _ hcall => .ofMacro (h (List.mem_map_of_mem hcall))

/-- The call that must fail is that of the method's helper. -/
theorem calls_expectError (hscope : Scope scope) (hregion : Fits scope region .str)
    (hmodifiers : modifiersParameter paths plan.inputType "mod_funcs" ∈ scope) (complaint : String) :
    ∀ call ∈ Stmt.collect Stmt.calls (expectError paths plan region complaint),
      Calls paths (· = plan) (fun _ => False) scope call := by
  have hcalls : Stmt.collect Stmt.calls (expectError paths plan region complaint) =
      (helperCall paths plan region (.place "mod_funcs")).collect Expr.called ++
        Stmt.collect Stmt.calls [.bindElse "Err(err)" (.place "res") [.run (panic plan complaint)]] := rfl
  have hmacros : ["panic!"] ⊆ macros := by decide
  rw [hcalls, List.forall_mem_append]
  exact ⟨calls_helperCall plan rfl hscope hregion (.parameter hmodifiers), calls_of_macros hmacros⟩

theorem scope_testFunction {between : List String} (h : "org" ∈ between) (more : Parameters) :
    Scope (callerParameters ++ between.map (·, Ty.str) ++ more) := by
  refine ⟨?_, ?_⟩
  · exact List.Subset.trans (List.subset_append_left _ _) (List.subset_append_left _ _)
  · exact List.mem_append_left _ (List.mem_append_right _ (List.mem_map_of_mem h))

/-- The checks of a method call its helper. -/
theorem calls_chunk {f : Function} (hf : .function f ∈ (chunk paths plan).items) :
    ∀ call ∈ f.calls, Calls paths (· = plan) (fun _ => False) f.parameters call := by
  have hmacros : ["assert!", "assert_eq!"] ⊆ macros ∧ ["assert_eq!"] ⊆ macros ∧ ["panic!"] ⊆ macros ∧
      ["assert_eq!", "assert!", "assert_eq!"] ⊆ macros := by decide
  simp only [chunk, forbidden, failing, succeeding, failingInRegion, testFunction, List.mem_cons,
    Item.function.injEq, List.not_mem_nil, or_false] at hf
  rcases hf with rfl | rfl | rfl | rfl
  · show ∀ call ∈ Stmt.collect Stmt.calls (expectError paths plan _ _ ++ _), _
    rw [Stmt.collect_append, List.forall_mem_append]
    exact ⟨calls_expectError plan (scope_testFunction (by simp) _) (.parameter (by simp)) (by simp) _,
      calls_of_macros hmacros.1⟩
  · show ∀ call ∈ Stmt.collect Stmt.calls (expectError paths plan _ _ ++ _), _
    rw [Stmt.collect_append, List.forall_mem_append]
    exact ⟨calls_expectError plan (scope_testFunction (by simp) _) (.parameter (by simp)) (by simp) _,
      calls_of_macros hmacros.2.1⟩
  · show ∀ call ∈ (helperCall paths plan _ _).collect Expr.called ++
      Stmt.collect Stmt.calls [.run (panic plan _)], _
    rw [List.forall_mem_append]
    exact ⟨calls_helperCall plan rfl (scope_testFunction (by simp) _) (.parameter (by simp))
      (.parameter (List.mem_append_right _ List.mem_cons_self)), calls_of_macros hmacros.2.2.1⟩
  · show ∀ call ∈ Stmt.collect Stmt.calls (expectError paths plan _ _ ++ _), _
    rw [Stmt.collect_append, List.forall_mem_append]
    exact ⟨calls_expectError plan (scope_testFunction (by simp) _) (.text _) (by simp) _,
      calls_of_macros hmacros.2.2.2⟩

/-- The checks of a method are named after its function. -/
theorem name_chunk {f : Function} (hf : .function f ∈ (chunk paths plan).items) :
    ∃ start : String, ':' ∉ start.toList ∧ f.name = start ++ plan.functionName := by
  have hstarts : ∀ start ∈ ["bad_perm_", "bad_", "good_perm_", "bad_region_"], ':' ∉ start.toList := by
    decide
  have hname : f.name ∈ (chunk paths plan).functions.map (·.name) :=
    List.mem_map_of_mem (Chunk.mem_functions.mpr hf)
  obtain ⟨start, hstart, hname⟩ := List.mem_map.mp
    (show f.name ∈ ["bad_perm_", "bad_", "good_perm_", "bad_region_"].map (· ++ plan.functionName) from hname)
  exact ⟨start, hstarts start hstart, hname.symm⟩

/-- The list that a view shows is the result of its helper. -/
def Shown (paths : ModulePaths) (scope : Parameters) (plan : MethodPlan) (value : Expr) : Prop :=
  ∃ arguments failure, value =
      .choice (.await (.call (localName paths.testHelpers ++ "::test_perm_" ++ plan.functionName) arguments))
        [("Ok(list)", .place "list"), ("Err(err)", failure)] ∧
    (TestHelper.sendForOrg paths plan).Takes scope ("test_perm_" ++ plan.functionName, arguments)

/-- What the checks of views call, bind and measure. -/
structure ChecksViews (paths : ModulePaths) (views : List MethodPlan) (unknownRegionToo : Bool)
    (scope : Parameters) (statements : List Stmt) : Prop where
  calls : ∀ call ∈ Stmt.collect Stmt.calls statements, Calls paths (· ∈ views)
    (fun name => unknownRegionToo = true ∧ ∃ plan ∈ views, name = "bad_region_" ++ plan.functionName) scope call
  bindings : ∀ binding ∈ Stmt.collect Stmt.bindings statements,
    ∃ plan ∈ views, Shown paths scope plan binding.2.2
  measured : ∀ object ∈ Stmt.collect Stmt.measured statements,
    ∃ list ∈ (Stmt.collect Stmt.bindings statements).map Prod.fst, object = .place list

namespace ChecksViews

variable {views views' : List MethodPlan} {unknownRegionToo : Bool} {a b : List Stmt}

theorem append (ha : ChecksViews paths views unknownRegionToo scope a)
    (hb : ChecksViews paths views unknownRegionToo scope b) :
    ChecksViews paths views unknownRegionToo scope (a ++ b) := by
  refine ⟨?_, ?_, ?_⟩
  · rw [Stmt.collect_append, List.forall_mem_append]
    exact ⟨ha.calls, hb.calls⟩
  · rw [Stmt.collect_append, List.forall_mem_append]
    exact ⟨ha.bindings, hb.bindings⟩
  · rw [Stmt.collect_append, Stmt.collect_append, List.map_append, List.forall_mem_append]
    refine ⟨fun object h => ?_, fun object h => ?_⟩
    · obtain ⟨list, hlist, hobject⟩ := ha.measured object h
      exact ⟨list, List.mem_append_left _ hlist, hobject⟩
    · obtain ⟨list, hlist, hobject⟩ := hb.measured object h
      exact ⟨list, List.mem_append_right _ hlist, hobject⟩

theorem mono (h : ChecksViews paths views unknownRegionToo scope a) (hviews : views ⊆ views') :
    ChecksViews paths views' unknownRegionToo scope a := by
  refine ⟨fun call hcall => calls_mono (fun _ h => hviews h) ?_ (h.calls call hcall), ?_, h.measured⟩
  · rintro name ⟨htoo, plan, hplan, hname⟩
    exact ⟨htoo, plan, hviews hplan, hname⟩
  · intro binding hbinding
    obtain ⟨plan, hplan, hshown⟩ := h.bindings binding hbinding
    exact ⟨plan, hviews hplan, hshown⟩

end ChecksViews

theorem checksViews (hscope : Scope scope) (hregion : ("region", Ty.str) ∈ scope) (count : String)
    (unknownRegionToo : Bool) (n : Nat) (views : List MethodPlan) :
    ChecksViews paths views unknownRegionToo scope (showChecks paths count unknownRegionToo n views) := by
  induction views generalizing n with
  | nil => exact ⟨List.forall_mem_nil _, List.forall_mem_nil _, List.forall_mem_nil _⟩
  | cons plan rest ih =>
      have hfirst : [plan] ⊆ plan :: rest := by simp
      rw [showChecks]
      refine ((ChecksViews.append ?_ ?_).mono hfirst).append ((ih (n + 1)).mono (List.subset_cons_self _ _))
      · refine ⟨?_, ?_, List.forall_mem_singleton.mpr ⟨_, List.mem_cons_self, rfl⟩⟩
        · show ∀ call ∈ (helperCall paths plan _ _).collect Expr.called ++ [("panic!", _), ("assert_eq!", _)], _
          rw [List.forall_mem_append]
          refine ⟨calls_helperCall plan (List.mem_singleton_self _) hscope (.parameter hregion) (.noItems _), ?_⟩
          simp only [List.forall_mem_cons]
          exact ⟨.ofMacro (by decide), .ofMacro (by decide), List.forall_mem_nil _⟩
        · exact List.forall_mem_singleton.mpr ⟨plan, List.mem_singleton_self _, _, _, rfl,
            takes_helper plan hscope (.parameter hregion) (.noItems _)⟩
      · cases unknownRegionToo with
        | false => exact ⟨List.forall_mem_nil _, List.forall_mem_nil _, List.forall_mem_nil _⟩
        | true =>
            refine ⟨?_, List.forall_mem_nil _, List.forall_mem_nil _⟩
            exact List.forall_mem_singleton.mpr (.test ⟨rfl, plan, List.mem_singleton_self _, rfl⟩)

/-- The views of a message are checked by two of its test functions. -/
theorem views_checked {tests : MessageTests} {f : Function}
    (hf : .function f = foreignViews paths tests ∨ .function f = ownViews paths tests) :
    ∃ unknownRegionToo, ChecksViews paths tests.views unknownRegionToo f.parameters f.body := by
  simp only [foreignViews, ownViews, testFunction, Item.function.injEq] at hf
  rcases hf with rfl | rfl
  · exact ⟨false, checksViews (scope_testFunction (by simp) _) (by simp [callerParameters]) _ _ _ _⟩
  · exact ⟨true, checksViews (scope_testFunction (by simp) _) (by simp [callerParameters]) _ _ _ _⟩

section

variable (tests : MessageTests)

/-- The test functions of a message and of the methods that take it have a name. -/
def Provided (paths : ModulePaths) (tests : MessageTests) (name : String) : Prop :=
  (∃ plan, (plan ∈ tests.guarded ∨ plan ∈ tests.views) ∧ name ∈ (chunk paths plan).functions.map (·.name)) ∨
    name ∈ (messageChunk paths tests).functions.map (·.name)

theorem names_messageChunk : (messageChunk paths tests).functions.map (·.name) =
    (if tests.guarded.isEmpty then [] else ["bad_perm_test_" ++ tests.suffix]) ++
      (if tests.views.isEmpty then [] else ["bad_perm_test_show_" ++ tests.suffix]) ++
      ["good_perm_test_" ++ tests.suffix] ++
      (if tests.views.isEmpty then [] else ["good_perm_test_show_" ++ tests.suffix]) ++
      ["perm_test_" ++ tests.suffix] := by
  unfold messageChunk
  cases tests.guarded.isEmpty <;> cases tests.views.isEmpty <;> rfl

variable {tests}

theorem mem_messageChunk {f : Function} (hf : .function f ∈ (messageChunk paths tests).items) :
    (.function f = foreignChanges paths tests ∨ .function f = ownChanges paths tests ∨
      .function f = matrix paths tests) ∨
      .function f = foreignViews paths tests ∨ .function f = ownViews paths tests := by
  unfold messageChunk at hf
  cases tests.guarded.isEmpty <;> cases tests.views.isEmpty <;> simp at hf <;> grind

/-- The test functions of a message are named after it. -/
theorem name_messageChunk {f : Function} (hf : .function f ∈ (messageChunk paths tests).items) :
    ∃ start : String, ':' ∉ start.toList ∧ f.name = start ++ tests.suffix := by
  have hitem := mem_messageChunk hf
  simp only [foreignChanges, ownChanges, matrix, foreignViews, ownViews, testFunction,
    Item.function.injEq] at hitem
  rcases hitem with (rfl | rfl | rfl) | rfl | rfl
  · exact ⟨"bad_perm_test_", by decide, rfl⟩
  · exact ⟨"good_perm_test_", by decide, rfl⟩
  · exact ⟨"perm_test_", by decide, rfl⟩
  · exact ⟨"bad_perm_test_show_", by decide, rfl⟩
  · exact ⟨"good_perm_test_show_", by decide, rfl⟩

theorem provided_method (h : plan ∈ tests.guarded ∨ plan ∈ tests.views) {start : String}
    (hstart : start ∈ ["bad_perm_", "bad_", "good_perm_", "bad_region_"]) :
    Provided paths tests (start ++ plan.functionName) :=
  .inl ⟨plan, h, List.mem_map_of_mem (f := (· ++ plan.functionName)) hstart⟩

/-- The test functions that change objects run those of the methods, and those that show what is left. -/
theorem runs_changes {f : Function} (hf : .function f = foreignChanges paths tests ∨
      .function f = ownChanges paths tests ∨ .function f = matrix paths tests) :
    ∀ s ∈ f.body, ∃ name arguments, s = runTest name arguments ∧ Provided paths tests name := by
  have hnames := @names_messageChunk paths tests
  simp only [foreignChanges, ownChanges, matrix, testFunction, Item.function.injEq] at hf
  rcases hf with rfl | rfl | rfl
  · intro s hs
    obtain ⟨plan, hplan, rfl⟩ := List.mem_map.mp hs
    exact ⟨_, _, rfl, provided_method plan (.inl hplan) (by simp)⟩
  · intro s hs
    rcases List.mem_append.mp hs with hs | hs
    · rcases List.mem_append.mp hs with hs | hs
      · obtain ⟨plan, hplan, rfl⟩ := List.mem_map.mp hs
        exact ⟨_, _, rfl, provided_method plan (.inl hplan) (by simp)⟩
      · split at hs
        · cases hs
        · next hviews =>
            obtain rfl := List.mem_singleton.mp hs
            exact ⟨_, _, rfl, .inr (by simp [hnames, hviews])⟩
    · obtain ⟨plan, hplan, rfl⟩ := List.mem_map.mp hs
      exact ⟨_, _, rfl, provided_method plan (.inl hplan) (by simp)⟩
  · intro s hs
    rcases List.mem_append.mp hs with hs | hs
    · rcases List.mem_append.mp hs with hs | hs
      · split at hs
        · cases hs
        · next hguarded =>
            simp only [List.mem_cons, List.not_mem_nil, or_false] at hs
            rcases hs with rfl | rfl <;> exact ⟨_, _, rfl, .inr (by simp [hnames, hguarded])⟩
      · split at hs
        · cases hs
        · next hviews =>
            simp only [List.mem_cons, List.not_mem_nil, or_false] at hs
            rcases hs with rfl | rfl <;> exact ⟨_, _, rfl, .inr (by simp [hnames, hviews])⟩
    · simp only [List.mem_cons, List.not_mem_nil, or_false] at hs
      rcases hs with rfl | rfl <;> exact ⟨_, _, rfl, .inr (by simp [hnames])⟩

/-- The test functions of a message call helpers of views, and test functions of the message and of methods
that take it. -/
theorem calls_messageChunk {f : Function} (hf : .function f ∈ (messageChunk paths tests).items) :
    ∀ call ∈ f.calls, Calls paths (· ∈ tests.views) (Provided paths tests) f.parameters call := by
  rcases mem_messageChunk hf with hf | hf
  · intro call hcall
    rw [Function.calls, Stmt.collect_eq_flatMap] at hcall
    obtain ⟨s, hs, hcall⟩ := List.mem_flatMap.mp hcall
    obtain ⟨name, arguments, rfl, hname⟩ := runs_changes hf s hs
    have hcalls : call ∈ ((name, arguments.map Expr.place) ::
        (Expr.allParts (arguments.map .place)).flatMap Expr.called) ++ [] := hcall
    rw [Expr.collect_places fun _ => rfl, List.append_nil, List.mem_singleton] at hcalls
    rw [hcalls]
    exact .test hname
  · obtain ⟨unknownRegionToo, hchecks⟩ := views_checked hf
    refine fun call hcall => calls_mono (fun _ h => h) ?_ (hchecks.calls call hcall)
    rintro _ ⟨-, plan, hplan, rfl⟩
    exact provided_method plan (.inr hplan) (by simp)

/-- What a test function of a message measures is a list that has been shown by a view. -/
theorem measured_messageChunk {f : Function} (hf : .function f ∈ (messageChunk paths tests).items)
    {object : Expr} (h : object ∈ f.measured) :
    (∃ list ∈ f.bindings.map Prod.fst, object = .place list) ∧
      ∀ binding ∈ f.bindings, ∃ plan ∈ tests.views, Shown paths f.parameters plan binding.2.2 := by
  rcases mem_messageChunk hf with hf | hf
  · -- what only runs test functions measures nothing
    rw [Function.measured, Stmt.collect_eq_flatMap] at h
    obtain ⟨s, hs, h⟩ := List.mem_flatMap.mp h
    obtain ⟨name, arguments, rfl, -⟩ := runs_changes hf s hs
    have hmeasured : object ∈ (Expr.allParts (arguments.map .place)).flatMap Expr.measured ++ [] := h
    rw [Expr.collect_places fun _ => rfl] at hmeasured
    cases hmeasured
  · obtain ⟨unknownRegionToo, hchecks⟩ := views_checked hf
    exact ⟨hchecks.measured object h, hchecks.bindings⟩

/-- The checks of a method measure nothing. -/
theorem measured_chunk {f : Function} (hf : .function f ∈ (chunk paths plan).items) : f.measured = [] := by
  simp only [chunk, forbidden, failing, succeeding, failingInRegion, testFunction, List.mem_cons,
    Item.function.injEq, List.not_mem_nil, or_false] at hf
  rcases hf with rfl | rfl | rfl | rfl <;> rfl

end

end PermissionTest

end RegionGateway
