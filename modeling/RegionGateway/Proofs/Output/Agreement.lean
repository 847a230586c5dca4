import RegionGateway.Proofs.Output.Directives
import RegionGateway.Proofs.Output.References
import RegionGateway.Proofs.Output.TestGroups
import RegionGateway.Proofs.Output.Wrappers

/-!
# The outputs of all modes fit together

What one output of a request refers to is in the other outputs of the same request
(`outputs_fit_together`): helpers and client functions that are called are defined, wrappers that are named
are declared, and the access to fields that a handler needs is implemented. Only the name of a wrapper can be
declared a second time, as the name of a request (`wrapper_declared_twice`).
-/

namespace RegionGateway

open Rust

/-- The declarations of an output. -/
def declarations (files : List SourceFile) : List Item := files.flatMap (·.chunk.items)

/-- The functions of an output. -/
def functions (files : List SourceFile) : List Function := files.flatMap (·.chunk.functions)

theorem mem_functions {files : List SourceFile} {f : Function} :
    f ∈ functions files ↔ .function f ∈ declarations files := by
  simp only [functions, declarations, List.mem_flatMap, Chunk.mem_functions]

namespace Generation

variable (run : Generation) {plans : List FilePlan}

theorem mem_declarations {item : Item} (h : item ∈ declarations (run.filesOf plans)) :
    item ∈ run.table.items ∨ ∃ plan ∈ plans, ∃ part ∈ run.parts plan, item ∈ part.items := by
  obtain ⟨file, hfile, hitem⟩ := List.mem_flatMap.mp h
  obtain ⟨plan, hplan, head, hhead, rfl⟩ := run.exists_plan hfile
  rcases run.mem_items_fileOf.mp hitem with hitem | hpart
  · rcases hhead with rfl | rfl
    · exact .inl hitem
    · cases hitem
  · exact .inr ⟨plan, hplan, hpart⟩

/-- What is generated for a planned method is declared. -/
theorem methodChunk_declared {module : String} {plan : MethodPlan}
    (h : (module, plan) ∈ FilePlan.walk plans) {item : Item}
    (hitem : item ∈ (run.mode.methodChunk run.paths plan).items) :
    item ∈ declarations (run.filesOf plans) := by
  obtain ⟨filePlan, hmethod, head, -, hfile⟩ := run.exists_fileOf h
  exact List.mem_flatMap.mpr ⟨_, hfile,
    run.mem_items_fileOf.mpr (.inr ⟨_, run.methodChunk_mem_parts hmethod, hitem⟩)⟩

theorem method_mem_walk {plan : FilePlan} (hplan : plan ∈ plans) {service : ServicePlan}
    (hservice : service ∈ plan.services) {method : MethodPlan} (hmethod : method ∈ service.methods) :
    (plan.module, method) ∈ FilePlan.walk plans :=
  List.mem_flatMap.mpr ⟨plan, hplan, FilePlan.mem_methods.mpr ⟨rfl, service, hservice, hmethod⟩⟩

/-! ## Wrappers that are named -/

/-- The wrappers that server code, client bindings and test helpers name are those of methods. -/
theorem named_wrapper (hpaths : localName run.paths.messages ≠ localName run.paths.wrappers)
    (hmode : run.mode ∈ [Mode.server, .client, .testHelper]) {item : Item}
    (hitem : item ∈ declarations (run.filesOf plans)) {name : String}
    (hnames : item.Names (localName run.paths.wrappers) name) :
    ∃ planned ∈ FilePlan.walk plans, name = planned.2.wrapper := by
  rcases run.mem_declarations hitem with hitem | ⟨plan, hplan, part, hpart, hitem⟩
  · unfold table RouteTable.chunk at hitem
    split at hitem
    · cases hitem
    · rcases List.mem_cons.mp hitem with rfl | hitem
      · exact absurd hnames (RouteTable.names_table _ _ _ _)
      · split at hitem
        · obtain rfl := List.mem_singleton.mp hitem
          exact absurd hnames (RouteTable.names_dispatcher _ _ _)
        · cases hitem
  · simp only [List.mem_cons, List.not_mem_nil, or_false] at hmode
    obtain ⟨service, hservice, rfl | ⟨method, hmethod, rfl⟩ | rfl⟩ := run.mem_parts.mp hpart
    · rcases hmode with hmode | hmode | hmode <;> rw [hmode] at hitem
      · exact absurd hnames (Handler.names_backendTrait hpaths hitem name)
      · cases hitem
      · cases hitem
    · refine ⟨_, method_mem_walk hplan hservice hmethod, ?_⟩
      rcases hmode with hmode | hmode | hmode <;> rw [hmode] at hitem
      · exact Handler.names_chunk method hpaths hitem hnames
      · exact Binding.names_chunk method hpaths hitem hnames
      · exact TestHelper.names_chunk method hpaths hitem hnames
    · rcases hmode with hmode | hmode | hmode <;> rw [hmode] at hitem <;> cases hitem

/-! ## Types that are declared -/

theorem Wrapper.types_chunk (paths : ModulePaths) (plan : MethodPlan) :
    (Wrapper.chunk paths plan).items.filterMap Item.type? =
      (if plan.declaresWrapper then [plan.wrapper] else []) ++ [plan.method ++ "Request"] := by
  unfold Wrapper.chunk
  cases plan.declaresWrapper with
  | false => rfl
  | true => cases hfields : plan.hasFields <;> simp [Wrapper.declaration, hfields] <;> rfl

/-- The types that wrappers are declared by, and the names of requests. -/
theorem types_filesOf (hmode : run.mode = .api) (plans : List FilePlan) :
    (declarations (run.filesOf plans)).filterMap Item.type? = (FilePlan.walk plans).flatMap fun planned =>
      (if planned.2.declaresWrapper then [planned.2.wrapper] else []) ++ [planned.2.method ++ "Request"] := by
  have htable : run.table.items.filterMap Item.type? = [] := by
    unfold table RouteTable.chunk
    split
    · rfl
    · rw [hmode]
      rfl
  have hfile : ∀ head plan, (head = run.table ∨ head = .empty) →
      (run.fileOf head plan).chunk.items.filterMap Item.type? = plan.methods.flatMap fun planned =>
        (if planned.2.declaresWrapper then [planned.2.wrapper] else []) ++ [planned.2.method ++ "Request"] := by
    intro head plan hhead
    have hnone : head.items.filterMap Item.type? = [] := by
      rcases hhead with rfl | rfl
      · exact htable
      · rfl
    rw [fileOf, Chunk.append_items, List.filterMap_append, hnone, List.nil_append, servicesChunk_eq,
      Chunk.concat_items, List.filterMap_flatMap]
    simp [parts, hmode, Mode.serviceHead, Mode.methodChunk, Mode.serviceTail, Chunk.empty,
      Wrapper.types_chunk, FilePlan.methods, List.flatMap_assoc, List.flatMap_map]
  have hfiles : plans.map (fun plan => plan.methods.flatMap fun planned =>
        (if planned.2.declaresWrapper then [planned.2.wrapper] else []) ++ [planned.2.method ++ "Request"]) =
      (run.filesOf plans).map fun file => file.chunk.items.filterMap Item.type? := by
    refine map_eq_map_of_forall₂ ((run.filesOf_isOf plans).imp ?_)
    rintro plan _ ⟨head, hhead, rfl⟩
    exact (hfile head plan hhead).symm
  rw [declarations, List.filterMap_flatMap, List.flatMap_def, ← hfiles, ← List.flatMap_def, FilePlan.walk,
    List.flatMap_assoc]

section

variable {after : WrapperOwners} (hplanned : Planned run.request .empty plans after)
include hplanned

/-- The wrapper of a planned method is declared by one struct; the names of requests may repeat its name. -/
theorem count_wrapper (hmode : run.mode = .api) {planned : String × MethodPlan}
    (hmem : planned ∈ FilePlan.walk plans) :
    ((run.filesOf plans).flatMap SourceFile.structs).count planned.2.wrapper = 1 ∧
      ((declarations (run.filesOf plans)).filterMap Item.type?).count planned.2.wrapper =
        1 + run.request.gatewayMethods.countP fun declared =>
          declared.2.2.name ++ "Request" == planned.2.wrapper := by
  have hcount : ∀ (walk : List (String × MethodPlan)) (name : String),
      (walk.flatMap fun planned => (if planned.2.declaresWrapper then [planned.2.wrapper] else []) ++
        [planned.2.method ++ "Request"]).count name =
      ((walk.filter (·.2.declaresWrapper)).map (·.2.wrapper)).count name +
        walk.countP fun planned => planned.2.method ++ "Request" == name := by
    intro walk name
    induction walk with
    | nil => rfl
    | cons first rest ih =>
        rw [List.flatMap_cons, List.count_append, ih, List.countP_cons]
        cases hdeclares : first.2.declaresWrapper <;>
          simp [List.count_cons, hdeclares] <;> omega
  have hmethods : run.request.gatewayMethods.map (·.2.2.name) = (FilePlan.walk plans).map (·.2.method) :=
    map_eq_map_of_forall₂ (hplanned.walk_isOf.imp fun _ _ hof => hof.2.method.symm)
  have hinputs : run.request.gatewayMethods.map (·.2.2.inputType) =
      (FilePlan.walk plans).map (·.2.inputType) :=
    map_eq_map_of_forall₂ (hplanned.walk_isOf.imp fun _ _ hof => hof.2.inputType.symm)
  have hstruct : ((run.filesOf plans).flatMap SourceFile.structs).count planned.2.wrapper = 1 := by
    rw [structs_eq hmode hplanned, hinputs]
    refine List.count_eq_one_of_mem ((Route.nodup_distinct _ _).map wrapperName_injective) ?_
    refine List.mem_map_of_mem (Route.mem_distinct.mpr ⟨?_, List.not_mem_nil⟩)
    exact List.mem_map_of_mem hmem
  have haliases : (run.request.gatewayMethods.countP fun declared =>
      declared.2.2.name ++ "Request" == planned.2.wrapper) =
        (FilePlan.walk plans).countP fun other => other.2.method ++ "Request" == planned.2.wrapper := by
    have hnames := congrArg (List.countP fun name => name ++ "Request" == planned.2.wrapper) hmethods
    simpa only [List.countP_map, Function.comp_def] using hnames
  refine ⟨hstruct, ?_⟩
  rw [run.types_filesOf hmode, hcount, ← structs_filesOf hmode, hstruct, haliases]

/-- The access to fields is implemented for the wrapper of a method that derives its mask. -/
theorem fields_implemented (hmade : ∀ planned ∈ FilePlan.walk plans, planned.2.Coherent run.request)
    (hmode : run.mode = .api) {planned : String × MethodPlan} (hmem : planned ∈ FilePlan.walk plans)
    (hmask : planned.2.derivesMask = true) :
    ∃ members, .impl "RegionObjFields" planned.2.wrapper members ∈ declarations (run.filesOf plans) := by
  obtain ⟨owner, hfirst, -, -⟩ := hplanned.claims.wrapperModule_eq hmem
  obtain ⟨plan, hplan, hinput, hdeclares⟩ := hplanned.claims.declares_firstTaker hfirst
  -- the method that declares the wrapper takes the same message, so it sees the same fields
  have hfields : plan.hasFields = true := by
    rw [(hmade _ hplan).hasFields, hinput, ← (hmade _ hmem).hasFields]
    exact (hmade _ hmem).derivesMask hmask
  have hwrapper : plan.wrapper = planned.2.wrapper := congrArg wrapperName hinput
  have hitem : Wrapper.fieldsAccess plan ∈ (run.mode.methodChunk run.paths plan).items := by
    rw [hmode]
    simp [Mode.methodChunk, Wrapper.chunk, Wrapper.declaration, hdeclares, hfields]
  rw [← hwrapper]
  exact ⟨_, run.methodChunk_declared hplan hitem⟩

end

/-! ## Functions that are called -/

/-- A handler that sets the fields of its input is that of a method that derives its mask. -/
theorem handler_of_mask (hmode : run.mode = .server) {handler : Function}
    (hhandler : handler ∈ functions (run.filesOf plans)) {arguments : List Expr}
    (hcall : ("set_region_obj_fields", arguments) ∈ handler.calls) :
    ∃ planned ∈ FilePlan.walk plans, handler = Handler.function run.paths planned.2 := by
  rcases run.mem_declarations (mem_functions.mp hhandler) with hitem | ⟨plan, hplan, part, hpart, hitem⟩
  · have hdispatcher : handler = RouteTable.dispatcher run.routes := by
      unfold table RouteTable.chunk at hitem
      split at hitem
      · cases hitem
      · rw [hmode] at hitem
        simpa [RouteTable.table, Mode.dispatches] using hitem
    subst hdispatcher
    obtain ⟨route, -, hname⟩ | hname | hname := RouteTable.calls_dispatcher hcall
    · have hstart := congrArg (fun name : String => name.toList.take 2) hname
      simp [String.toList_append] at hstart
    · simp at hname
    · simp at hname
  · obtain ⟨service, hservice, rfl | ⟨method, hmethod, rfl⟩ | rfl⟩ := run.mem_parts.mp hpart
    · rw [hmode] at hitem
      cases List.mem_singleton.mp hitem
    · rw [hmode] at hitem
      refine ⟨_, method_mem_walk hplan hservice hmethod, ?_⟩
      have hfunction : Item.function handler = .function (Handler.function run.paths method) := by
        rcases List.mem_append.mp hitem with hitem | hitem
        · split at hitem
          · cases List.mem_singleton.mp hitem
          · cases hitem
        · exact List.mem_singleton.mp hitem
      exact Item.function.inj hfunction
    · rw [hmode] at hitem
      cases hitem

/-- A client binding is defined for every method. -/
theorem binding_defined (hmode : run.mode = .client) {planned : String × MethodPlan}
    (hmem : planned ∈ FilePlan.walk plans) :
    Binding.function run.paths planned.2 ∈ functions (run.filesOf plans) := by
  refine mem_functions.mpr (run.methodChunk_declared hmem ?_)
  rw [hmode]
  exact List.mem_cons_self

/-- The helper for an organization is defined for every method. -/
theorem helper_defined (hmode : run.mode = .testHelper) {planned : String × MethodPlan}
    (hmem : planned ∈ FilePlan.walk plans) :
    TestHelper.sendForOrg run.paths planned.2 ∈ functions (run.filesOf plans) := by
  refine mem_functions.mpr (run.methodChunk_declared hmem ?_)
  rw [hmode]
  exact List.mem_cons_of_mem _ List.mem_cons_self

/-- A test helper is one of a method. -/
theorem helper_of (hmode : run.mode = .testHelper) {f : Function}
    (hf : f ∈ functions (run.filesOf plans)) :
    ∃ planned ∈ FilePlan.walk plans, .function f ∈ (TestHelper.chunk run.paths planned.2).items := by
  rcases run.mem_declarations (mem_functions.mp hf) with hitem | ⟨plan, hplan, part, hpart, hitem⟩
  · unfold table RouteTable.chunk at hitem
    split at hitem
    · cases hitem
    · rw [hmode] at hitem
      cases List.mem_singleton.mp hitem
  · obtain ⟨service, hservice, rfl | ⟨method, hmethod, rfl⟩ | rfl⟩ := run.mem_parts.mp hpart
    · rw [hmode] at hitem
      cases hitem
    · rw [hmode] at hitem
      exact ⟨_, method_mem_walk hplan hservice hmethod, hitem⟩
    · rw [hmode] at hitem
      cases hitem

end Generation

/-! ## Test functions -/

/-- The tests of a message are made of methods of its service: guarded ones do not stream views, and views
do. -/
theorem MessageTests.mem_ofService {request : Request} {inputs : InputIndex} {service : ServicePlan}
    {tests : MessageTests} (h : tests ∈ ofService request inputs service) :
    (∀ plan ∈ tests.guarded, plan ∈ service.methods ∧ plan.streamsView = false) ∧
      (∀ plan ∈ tests.views, plan ∈ service.methods ∧ plan.streamsView = true) ∧
      ∃ plan ∈ service.methods, tests.suffix = snakeCase (service.name ++ plan.inputType) ∨
        tests.suffix = snakeCase plan.inputType := by
  rw [ofService_eq] at h
  obtain ⟨message, hmessage, rfl⟩ := List.mem_map.mp h
  obtain ⟨plan, hplan, rfl⟩ := List.mem_map.mp (Route.mem_distinct.mp hmessage).1
  refine ⟨fun other hother => ?_, fun other hother => ?_, plan, (List.mem_filter.mp hplan).1, ?_⟩
  · simp only [ofMessage, inRunOrder, gathered, sortByRunOrder, List.mem_append, List.mem_filter,
      Bool.not_eq_true'] at hother
    tauto
  · simp only [ofMessage, inRunOrder, gathered, List.mem_filter] at hother
    tauto
  · unfold ofMessage inRunOrder gathered opened
    dsimp only
    split
    · exact .inl rfl
    · exact .inr rfl

/-- The names of gateway methods, and of their services and inputs, are words. -/
def Request.NamedByWords (request : Request) : Prop :=
  ∀ declared ∈ request.gatewayMethods, IsWord declared.2.1.name ∧ IsWord declared.2.2.name ∧
    IsWord declared.2.2.inputType

namespace Generation

variable (run : Generation) {plans : List FilePlan}

/-- A test file consists of the checks of its methods and the tests of their messages. -/
theorem items_test (hmode : run.mode = .test) {file : SourceFile} (h : file ∈ run.filesOf plans) :
    ∃ plan ∈ plans, ∀ item, item ∈ file.chunk.items ↔ ∃ service ∈ plan.services,
      (∃ method ∈ service.methods, item ∈ (PermissionTest.chunk run.paths method).items) ∨
        ∃ tests ∈ MessageTests.ofService run.request (InputIndex.ofRequest run.request) service,
          item ∈ (PermissionTest.messageChunk run.paths tests).items := by
  obtain ⟨plan, hplan, head, hhead, rfl⟩ := run.exists_plan h
  have hnone : head.items = [] := by
    rcases hhead with rfl | rfl
    · unfold table RouteTable.chunk
      rw [hmode]
      rfl
    · rfl
  refine ⟨plan, hplan, fun item => ?_⟩
  simp only [run.mem_items_fileOf, hnone, List.not_mem_nil, false_or, run.mem_parts, hmode, Mode.serviceHead,
    Mode.methodChunk, Mode.serviceTail]
  constructor
  · rintro ⟨part, ⟨service, hservice, rfl | ⟨method, hmethod, rfl⟩ | rfl⟩, hitem⟩
    · cases hitem
    · exact ⟨service, hservice, .inl ⟨method, hmethod, hitem⟩⟩
    · rw [Chunk.concat_items, List.flatMap_map] at hitem
      exact ⟨service, hservice, .inr (List.mem_flatMap.mp hitem)⟩
  · rintro ⟨service, hservice, ⟨method, hmethod, hitem⟩ | htests⟩
    · exact ⟨_, ⟨service, hservice, .inr (.inl ⟨method, hmethod, rfl⟩)⟩, hitem⟩
    · refine ⟨_, ⟨service, hservice, .inr (.inr rfl)⟩, ?_⟩
      rw [Chunk.concat_items, List.flatMap_map]
      exact List.mem_flatMap.mpr htests

/-- A test function calls the helpers of methods, and test functions of its own file. -/
theorem calls_test (hmode : run.mode = .test) {file : SourceFile} (hfile : file ∈ run.filesOf plans)
    {f : Function} (hf : f ∈ file.chunk.functions) :
    ∀ call ∈ f.calls, PermissionTest.Calls run.paths
      (fun method => ∃ module, (module, method) ∈ FilePlan.walk plans)
      (· ∈ file.chunk.functions.map (·.name)) f.parameters call := by
  obtain ⟨plan, hplan, hitems⟩ := run.items_test hmode hfile
  have hwalk : ∀ service ∈ plan.services, ∀ method ∈ service.methods,
      ∃ module, (module, method) ∈ FilePlan.walk plans :=
    fun service hservice method hmethod => ⟨_, method_mem_walk hplan hservice hmethod⟩
  obtain ⟨service, hservice, ⟨method, hmethod, hitem⟩ | ⟨tests, htests, hitem⟩⟩ :=
    (hitems _).mp (Chunk.mem_functions.mp hf)
  · refine fun call hcall => PermissionTest.calls_mono ?_ (fun _ h => h.elim)
      (PermissionTest.calls_chunk method hitem call hcall)
    rintro _ rfl
    exact hwalk service hservice _ hmethod
  · obtain ⟨hguarded, hviews, -⟩ := MessageTests.mem_ofService htests
    refine fun call hcall => PermissionTest.calls_mono ?_ ?_
      (PermissionTest.calls_messageChunk hitem call hcall)
    · exact fun method hmethod => hwalk service hservice method (hviews method hmethod).1
    · rintro name (⟨method, hmethod, hname⟩ | hname)
      · have hmethod : method ∈ service.methods :=
          hmethod.elim (fun h => (hguarded method h).1) fun h => (hviews method h).1
        obtain ⟨g, hg, rfl⟩ := List.mem_map.mp hname
        exact List.mem_map_of_mem (Chunk.mem_functions.mpr ((hitems _).mpr
          ⟨service, hservice, .inl ⟨method, hmethod, Chunk.mem_functions.mp hg⟩⟩))
      · obtain ⟨g, hg, rfl⟩ := List.mem_map.mp hname
        exact List.mem_map_of_mem (Chunk.mem_functions.mpr ((hitems _).mpr
          ⟨service, hservice, .inr ⟨tests, htests, Chunk.mem_functions.mp hg⟩⟩))

/-- What a test function takes the length of is a list that it has got from the helper of a view. -/
theorem measured_test (hmode : run.mode = .test) {file : SourceFile} (hfile : file ∈ run.filesOf plans)
    {f : Function} (hf : f ∈ file.chunk.functions) {object : Expr} (h : object ∈ f.measured) :
    (∃ list ∈ f.bindings.map Prod.fst, object = .place list) ∧
      ∀ binding ∈ f.bindings, ∃ planned ∈ FilePlan.walk plans, planned.2.streamsView = true ∧
        PermissionTest.Shown run.paths f.parameters planned.2 binding.2.2 := by
  obtain ⟨plan, hplan, hitems⟩ := run.items_test hmode hfile
  obtain ⟨service, hservice, ⟨method, hmethod, hitem⟩ | ⟨tests, htests, hitem⟩⟩ :=
    (hitems _).mp (Chunk.mem_functions.mp hf)
  · rw [PermissionTest.measured_chunk method hitem] at h
    cases h
  · obtain ⟨hbound, hshown⟩ := PermissionTest.measured_messageChunk hitem h
    refine ⟨hbound, fun binding hbinding => ?_⟩
    obtain ⟨view, hview, hvalue⟩ := hshown binding hbinding
    obtain ⟨-, hviews, -⟩ := MessageTests.mem_ofService htests
    obtain ⟨hmethod, hstreams⟩ := hviews view hview
    exact ⟨_, method_mem_walk hplan hservice hmethod, hstreams, hvalue⟩

/-- The names of test functions are no paths. -/
theorem no_colon_test {after : WrapperOwners} (hplanned : Planned run.request .empty plans after)
    (hnames : run.request.NamedByWords) (hmode : run.mode = .test) {file : SourceFile}
    (hfile : file ∈ run.filesOf plans) {f : Function} (hf : f ∈ file.chunk.functions) :
    ':' ∉ f.name.toList := by
  have hword : ∀ {word : String}, IsWord word → ':' ∉ (snakeCase word).toList := fun hword =>
    IsName.no_colon ⟨_, isWord_snakeCase hword, .inl rfl⟩
  obtain ⟨plan, hplan, hitems⟩ := run.items_test hmode hfile
  obtain ⟨service, hservice, ⟨method, hmethod, hitem⟩ | ⟨tests, htests, hitem⟩⟩ :=
    (hitems _).mp (Chunk.mem_functions.mp hf)
  · obtain ⟨declared, hdeclared, -, hof⟩ := hplanned.exists_declared hplan hservice hmethod
    obtain ⟨start, hstart, hname⟩ := PermissionTest.name_chunk method hitem
    rw [hname, hof.functionName]
    exact no_colon_append hstart (isName_ident (hnames _ hdeclared).2.1).no_colon
  · obtain ⟨-, -, method, hmethod, hsuffix⟩ := MessageTests.mem_ofService htests
    obtain ⟨declared, hdeclared, hserviceName, hof⟩ := hplanned.exists_declared hplan hservice hmethod
    obtain ⟨hserviceWord, -, hinputWord⟩ := hnames _ hdeclared
    obtain ⟨start, hstart, hname⟩ := PermissionTest.name_messageChunk hitem
    rw [hname]
    refine no_colon_append hstart ?_
    rw [hserviceName, hof.inputType] at hsuffix
    rcases hsuffix with hsuffix | hsuffix <;> rw [hsuffix]
    · exact hword (isWord_append hserviceWord (List.all_eq_true.mpr hinputWord.2))
    · exact hword hinputWord

end Generation

/-! ## All outputs -/

/-- A value is the list that a call of a helper results in. -/
def ListOf (paths : ModulePaths) (helpers : List Function) (scope : Parameters) (value : Expr) : Prop :=
  ∃ name arguments failure, value =
      .choice (.await (.call (localName paths.testHelpers ++ "::" ++ name) arguments))
        [("Ok(list)", .place "list"), ("Err(err)", failure)] ∧
    ∃ helper ∈ helpers, helper.Takes scope (name, arguments) ∧
      ∃ item error, helper.result = some (.apply "Result" [.apply "Vec" [item], error])

/-- Server code, client bindings or test helpers name a wrapper. -/
def NamesWrapper (paths : ModulePaths) (outputs : Mode → List SourceFile) (name : String) : Prop :=
  ∃ mode ∈ [Mode.server, .client, .testHelper], ∃ item ∈ declarations (outputs mode),
    item.Names (localName paths.wrappers) name

/-- The outputs of a request define what they refer to. -/
structure FitTogether (request : Request) (paths : ModulePaths) (outputs : Mode → List SourceFile) :
    Prop where
  /-- A helper that tests call is defined, and takes what it is handed. -/
  helpers : ∀ caller ∈ functions (outputs .test), ∀ name arguments,
    (localName paths.testHelpers ++ "::" ++ name, arguments) ∈ caller.calls →
      ∃ helper ∈ functions (outputs .testHelper), helper.Takes caller.parameters (name, arguments)
  /-- What tests take the length of is a list that a helper results in. -/
  lists : ∀ caller ∈ functions (outputs .test), ∀ object ∈ caller.measured,
    ∃ list ∈ caller.bindings.map Prod.fst, object = .place list ∧
      ∀ type value, (list, type, value) ∈ caller.bindings →
        ListOf paths (functions (outputs .testHelper)) caller.parameters value
  /-- A client binding that helpers call is defined. -/
  bindings : ∀ helper ∈ functions (outputs .testHelper), ∀ name arguments, ':' ∉ name.toList →
    (localName paths.bindings ++ "::" ++ name, arguments) ∈ helper.calls →
      ∃ binding ∈ functions (outputs .client), binding.name = name
  /-- A wrapper that is named is declared by one struct, and once more for each method whose request has
  the same name. -/
  wrappers : ∀ name, NamesWrapper paths outputs name →
    ((outputs .api).flatMap SourceFile.structs).count name = 1 ∧
      ((declarations (outputs .api)).filterMap Item.type?).count name =
        1 + request.gatewayMethods.countP fun declared => declared.2.2.name ++ "Request" == name
  /-- A handler sets the fields of a wrapper for which the access to fields is implemented. -/
  masks : ∀ handler ∈ functions (outputs .server), ∀ arguments,
    ("set_region_obj_fields", arguments) ∈ handler.calls →
      ∃ input wrapper, arguments[1]? = some (.place ("&mut " ++ input)) ∧
        ("mut " ++ input) ∈ handler.bindings.map Prod.fst ∧
        (∀ type value, ("mut " ++ input, type, value) ∈ handler.bindings →
          type = some (.inModule (localName paths.wrappers) wrapper)) ∧
        ∃ members, .impl "RegionObjFields" wrapper members ∈ declarations (outputs .api)
  /-- What tests call by its bare name, macros apart, is defined in their file. -/
  tests : ∀ file ∈ outputs .test, ∀ caller ∈ file.chunk.functions, ∀ call ∈ caller.calls,
    call.1 ∉ PermissionTest.macros → ':' ∉ call.1.toList → ∃ f ∈ file.chunk.functions, f.name = call.1

/-- What is planned for a request does not depend on what is generated from it. -/
theorem exists_plans {request : Request} {paths : ModulePaths} {outputs : Mode → List SourceFile}
    (h : ∀ mode, ((⟨request, mode, paths⟩ : Generation).files .empty).1 = .ok (outputs mode)) :
    ∃ plans after, Generation.Planned request .empty plans after ∧
      (∀ planned ∈ FilePlan.walk plans, planned.2.Coherent request) ∧
      ∀ mode, outputs mode = (⟨request, mode, paths⟩ : Generation).filesOf plans := by
  have hplans : ∀ mode, ∃ plans after,
      (⟨request, mode, paths⟩ : Generation).plan .empty = (.ok plans, after) ∧
        outputs mode = (⟨request, mode, paths⟩ : Generation).filesOf plans := fun mode =>
    have ⟨plans, hplan, houtput⟩ := Generation.files_eq_ok (Prod.ext (h mode) rfl)
    ⟨plans, _, hplan, houtput⟩
  obtain ⟨plans, after, hplan, -⟩ := hplans .server
  refine ⟨plans, after, Generation.plan_eq_ok hplan, fun planned hplanned => ?_, fun mode => ?_⟩
  · exact MethodPlan.coherent_of_made (Generation.made_of_plan hplan planned hplanned)
  · obtain ⟨plans', after', hplan', houtput⟩ := hplans mode
    obtain rfl : plans' = plans := Except.ok.inj (Prod.mk.inj (hplan'.symm.trans hplan)).1
    exact houtput

section

variable {request : Request} {paths : ModulePaths} {outputs : Mode → List SourceFile}
  {plans : List FilePlan} {after : WrapperOwners}
  (houtputs : ∀ mode, outputs mode = (⟨request, mode, paths⟩ : Generation).filesOf plans)
include houtputs

/-- The wrappers that are named are those of methods. -/
theorem namesWrapper_iff (hpaths : localName paths.messages ≠ localName paths.wrappers) {name : String} :
    NamesWrapper paths outputs name ↔ ∃ planned ∈ FilePlan.walk plans, name = planned.2.wrapper := by
  constructor
  · rintro ⟨mode, hmode, item, hitem, hitemNames⟩
    rw [houtputs] at hitem
    exact Generation.named_wrapper ⟨request, mode, paths⟩ hpaths hmode hitem hitemNames
  · rintro ⟨planned, hplanned, rfl⟩
    have hbinding := Generation.binding_defined ⟨request, .client, paths⟩ rfl hplanned
    refine ⟨.client, by simp, _, houtputs .client ▸ mem_functions.mp hbinding, .inl ?_⟩
    exact List.mem_append_left _ (List.mem_append_left _ (List.mem_append_right _ List.mem_cons_self))

/-- The helper of a planned method is in the output of test helpers. -/
theorem helper_mem {planned : String × MethodPlan} (h : planned ∈ FilePlan.walk plans) :
    TestHelper.sendForOrg paths planned.2 ∈ functions (outputs .testHelper) := by
  rw [houtputs]
  exact Generation.helper_defined ⟨request, .testHelper, paths⟩ rfl h

/-- A list that is shown is one that a helper results in. -/
theorem listOf_of_shown {planned : String × MethodPlan} (h : planned ∈ FilePlan.walk plans)
    (hstreams : planned.2.streams = true) {scope : Parameters} {value : Expr}
    (hshown : PermissionTest.Shown paths scope planned.2 value) :
    ListOf paths (functions (outputs .testHelper)) scope value := by
  obtain ⟨arguments, failure, rfl, htakes⟩ := hshown
  refine ⟨"test_perm_" ++ planned.2.functionName, arguments, failure, ?_, _, helper_mem houtputs h, htakes,
    paths.messageType planned.2.outputType, .name "ClientError", ?_⟩
  · rw [PermissionTest.helper_path]
  · rw [TestHelper.sendForOrg, Binding.outcome, hstreams]
    rfl

/-- What tests take the length of is a list that a helper results in. -/
theorem list_of_measured (hcoherent : ∀ planned ∈ FilePlan.walk plans, planned.2.Coherent request)
    {caller : Function} (hcaller : caller ∈ functions (outputs .test)) {object : Expr}
    (h : object ∈ caller.measured) : ∃ list ∈ caller.bindings.map Prod.fst, object = .place list ∧
      ∀ type value, (list, type, value) ∈ caller.bindings →
        ListOf paths (functions (outputs .testHelper)) caller.parameters value := by
  obtain ⟨file, hfile, hcaller⟩ := List.mem_flatMap.mp hcaller
  rw [houtputs] at hfile
  obtain ⟨⟨list, hbound, rfl⟩, hshown⟩ :=
    Generation.measured_test ⟨request, .test, paths⟩ rfl hfile hcaller h
  refine ⟨list, hbound, rfl, fun type value hbinding => ?_⟩
  obtain ⟨planned, hmem, hview, hvalue⟩ := hshown _ hbinding
  exact listOf_of_shown houtputs hmem ((hcoherent _ hmem).streamsView hview) hvalue

/-- What tests call by its bare name, macros apart, is defined in their file. -/
theorem test_of_call {file : SourceFile} (hfile : file ∈ outputs .test) {caller : Function}
    (hcaller : caller ∈ file.chunk.functions) {call : String × List Expr} (hcall : call ∈ caller.calls)
    (hother : call.1 ∉ PermissionTest.macros) (hcolon : ':' ∉ call.1.toList) :
    ∃ f ∈ file.chunk.functions, f.name = call.1 := by
  rw [houtputs] at hfile
  cases Generation.calls_test ⟨request, .test, paths⟩ rfl hfile hcaller call hcall with
  | helper _ _ =>
      rw [PermissionTest.helper_path] at hcolon
      simp [String.toList_append] at hcolon
  | test hdefined => exact List.mem_map.mp hdefined
  | ofMacro h => exact absurd h hother

variable (hplanned : Generation.Planned request .empty plans after)
include hplanned

theorem count_of_wrapper {planned : String × MethodPlan} (hmem : planned ∈ FilePlan.walk plans) :
    ((outputs .api).flatMap SourceFile.structs).count planned.2.wrapper = 1 ∧
      ((declarations (outputs .api)).filterMap Item.type?).count planned.2.wrapper =
        1 + request.gatewayMethods.countP fun declared =>
          declared.2.2.name ++ "Request" == planned.2.wrapper := by
  rw [houtputs]
  exact Generation.count_wrapper ⟨request, .api, paths⟩ hplanned rfl hmem

/-- The wrappers that are named are declared once each exactly if no request has the name of one. -/
theorem declared_once_iff (hpaths : localName paths.messages ≠ localName paths.wrappers) :
    (∀ name, NamesWrapper paths outputs name →
      ((declarations (outputs .api)).filterMap Item.type?).count name = 1) ↔
    ∀ declared ∈ request.gatewayMethods, ∀ other ∈ request.gatewayMethods,
      declared.2.2.name ++ "Request" ≠ wrapperName other.2.2.inputType := by
  constructor
  · intro honce declared hdeclared other hother hsame
    obtain ⟨planned, hmem, -, hof⟩ := exists_of_forall₂ hplanned.walk_isOf hother
    have hcount := honce _ ((namesWrapper_iff houtputs hpaths).mpr ⟨planned, hmem, rfl⟩)
    rw [(count_of_wrapper houtputs hplanned hmem).2] at hcount
    have hnone := List.countP_eq_zero.mp (Nat.add_eq_left.mp hcount) declared hdeclared
    refine hnone (beq_iff_eq.mpr (hsame.trans ?_))
    rw [MethodPlan.wrapper, hof.inputType]
  · intro hfree name hnamed
    obtain ⟨planned, hmem, rfl⟩ := (namesWrapper_iff houtputs hpaths).mp hnamed
    obtain ⟨other, hother, -, hof⟩ := exists_of_forall₂ hplanned.walk_isOf.flip hmem
    rw [(count_of_wrapper houtputs hplanned hmem).2, Nat.add_eq_left, List.countP_eq_zero]
    intro declared hdeclared hsame
    refine hfree declared hdeclared other hother ((beq_iff_eq.mp hsame).trans ?_)
    rw [MethodPlan.wrapper, hof.inputType]

/-- A handler sets the fields of a wrapper for which the access to fields is implemented. -/
theorem fields_of_mask (hcoherent : ∀ planned ∈ FilePlan.walk plans, planned.2.Coherent request)
    {handler : Function} (hhandler : handler ∈ functions (outputs .server)) {arguments : List Expr}
    (hcall : ("set_region_obj_fields", arguments) ∈ handler.calls) :
    ∃ input wrapper, arguments[1]? = some (.place ("&mut " ++ input)) ∧
      ("mut " ++ input) ∈ handler.bindings.map Prod.fst ∧
      (∀ type value, ("mut " ++ input, type, value) ∈ handler.bindings →
        type = some (.inModule (localName paths.wrappers) wrapper)) ∧
      ∃ members, .impl "RegionObjFields" wrapper members ∈ declarations (outputs .api) := by
  rw [houtputs] at hhandler
  obtain ⟨planned, hmem, rfl⟩ := Generation.handler_of_mask ⟨request, .server, paths⟩ rfl hhandler hcall
  obtain ⟨hmask, rfl⟩ := Handler.mask_of_calls _ _ hcall
  obtain ⟨value, hbound, hall⟩ := Handler.input_bound paths planned.2 hmask
  refine ⟨"input", planned.2.wrapper, rfl, List.mem_map_of_mem hbound, hall, ?_⟩
  rw [houtputs]
  exact Generation.fields_implemented ⟨request, .api, paths⟩ hplanned hcoherent rfl hmem hmask

variable (hnames : request.NamedByWords)
include hnames

/-- What a helper calls as a client binding is defined as one. -/
theorem binding_of_call {helper : Function} (hhelper : helper ∈ functions (outputs .testHelper))
    {name : String} {arguments : List Expr} (hname : ':' ∉ name.toList)
    (hcall : (localName paths.bindings ++ "::" ++ name, arguments) ∈ helper.calls) :
    ∃ binding ∈ functions (outputs .client), binding.name = name := by
  rw [houtputs] at hhelper
  obtain ⟨planned, hmem, hitem⟩ := Generation.helper_of ⟨request, .testHelper, paths⟩ rfl hhelper
  obtain ⟨declared, hdeclared, -, hof⟩ := exists_of_forall₂ hplanned.walk_isOf.flip hmem
  have hfunction : ':' ∉ planned.2.functionName.toList := by
    rw [hof.functionName]
    exact (isName_ident (hnames _ hdeclared).2.1).no_colon
  rcases TestHelper.calls_chunk planned.2 hitem hcall with hpath | hpath | hpath | hpath
  · exact absurd hpath (path_ne (by decide) _ _)
  · refine ⟨Binding.function paths planned.2, ?_, (path_inj hfunction hname hpath.symm).2⟩
    rw [houtputs]
    exact Generation.binding_defined ⟨request, .client, paths⟩ rfl hmem
  · -- a default of a message is a path of two segments
    have hdefault : localName paths.bindings ++ "::" ++ name =
        (localName paths.messages ++ "::" ++ planned.2.inputType) ++ "::" ++ "default" := by
      rw [show "::default" = "::" ++ "default" from rfl, ← String.append_assoc] at hpath
      exact hpath
    exact absurd (path_inj hname (by decide) hdefault).1 (localName_ne _ _ _)
  · exact absurd hpath (path_ne (no_colon_append (by decide) hfunction) _ _)

/-- What a test calls as a helper is defined as one, and takes what it is handed. -/
theorem helper_of_call {caller : Function} (hcaller : caller ∈ functions (outputs .test)) {name : String}
    {arguments : List Expr}
    (hcall : (localName paths.testHelpers ++ "::" ++ name, arguments) ∈ caller.calls) :
    ∃ helper ∈ functions (outputs .testHelper), helper.Takes caller.parameters (name, arguments) := by
  obtain ⟨file, hfile, hcaller⟩ := List.mem_flatMap.mp hcaller
  rw [houtputs] at hfile
  have hcalls := Generation.calls_test ⟨request, .test, paths⟩ rfl hfile hcaller _ hcall
  generalize hpath : localName paths.testHelpers ++ "::" ++ name = path at hcalls
  cases hcalls with
  | @helper plan _ hplan htakes =>
      obtain ⟨module, hmem⟩ := hplan
      rw [PermissionTest.helper_path] at hpath
      obtain rfl : name = "test_perm_" ++ plan.functionName := (String.append_right_inj _).mp hpath
      exact ⟨_, helper_mem houtputs hmem, htakes⟩
  | test hdefined =>
      obtain ⟨f, hf, hname⟩ := List.mem_map.mp hdefined
      have hcolon := Generation.no_colon_test ⟨request, .test, paths⟩ hplanned hnames rfl hfile hf
      exact absurd (hpath.trans hname.symm) (path_ne hcolon _ _)
  | ofMacro hused =>
      have hmacros : ∀ name ∈ PermissionTest.macros, ':' ∉ name.toList := by decide
      exact absurd hpath (path_ne (hmacros _ hused) _ _)

end

section

variable {request : Request} {paths : ModulePaths} {outputs : Mode → List SourceFile}
  (hrun : ∀ mode, ((⟨request, mode, paths⟩ : Generation).files .empty).1 = .ok (outputs mode))
  (hnames : request.NamedByWords) (hpaths : localName paths.messages ≠ localName paths.wrappers)
include hrun hnames hpaths

/-- **The outputs of all modes fit together.** For every request that is generated in every mode, none of
whose wrappers is claimed before: the helpers that tests call are defined and take what they are handed, and
result in a list where tests take its length; the client bindings that helpers call are defined; the access
to fields is implemented for every wrapper whose fields a handler sets; and what tests call by its bare name
is defined in their file. A wrapper that is named is declared by one struct. Its name is declared only once
for every wrapper if and only if no method has a request of the name of a wrapper. -/
theorem outputs_fit_together : FitTogether request paths outputs ∧
    ((∀ name, NamesWrapper paths outputs name →
        ((declarations (outputs .api)).filterMap Item.type?).count name = 1) ↔
      ∀ declared ∈ request.gatewayMethods, ∀ other ∈ request.gatewayMethods,
        declared.2.2.name ++ "Request" ≠ wrapperName other.2.2.inputType) := by
  obtain ⟨plans, after, hplanned, hcoherent, houtputs⟩ := exists_plans hrun
  refine ⟨⟨?_, ?_, ?_, ?_, ?_, ?_⟩, declared_once_iff houtputs hplanned hpaths⟩
  · exact fun caller hcaller name arguments => helper_of_call houtputs hplanned hnames hcaller
  · exact fun caller hcaller object => list_of_measured houtputs hcoherent hcaller
  · exact fun helper hhelper name arguments => binding_of_call houtputs hplanned hnames hhelper
  · intro name hnamed
    obtain ⟨planned, hmem, rfl⟩ := (namesWrapper_iff houtputs hpaths).mp hnamed
    exact count_of_wrapper houtputs hplanned hmem
  · exact fun handler hhandler arguments => fields_of_mask houtputs hplanned hcoherent hhandler
  · exact fun file hfile caller hcaller call => test_of_call houtputs hfile hcaller

end

/-- The outputs of a request where no wrapper is claimed before; none where it is refused. -/
def outputsOf (request : Request) (mode : Mode) : List SourceFile :=
  (((⟨request, mode, .standard⟩ : Generation).files .empty).1.toOption).getD []

/-- Where methods can be planned, there are files in every mode. -/
theorem outputsOf_eq {request : Request} (mode : Mode)
    (h : faultOf ((⟨request, .server, .standard⟩ : Generation).plan .empty).1 = none) :
    ((⟨request, mode, .standard⟩ : Generation).files .empty).1 = .ok (outputsOf request mode) := by
  obtain ⟨plans, hplans⟩ := faultOf_eq_none.mp h
  have hplan : (⟨request, mode, .standard⟩ : Generation).plan .empty = (.ok plans, _) :=
    Prod.ext hplans rfl
  have hfiles : ((⟨request, mode, .standard⟩ : Generation).files .empty).1 =
      .ok ((⟨request, mode, .standard⟩ : Generation).filesOf plans) := by
    rw [Generation.files, map_eq_pure_bind, Attempt.bind_ok _ hplan]
    rfl
  rw [outputsOf, hfiles]
  rfl

theorem outputs_fit_together_widgets :
    (∀ mode, ((⟨Widgets.request, mode, .standard⟩ : Generation).files .empty).1 =
      .ok (outputsOf Widgets.request mode)) ∧
    Widgets.request.NamedByWords ∧
    localName ModulePaths.standard.messages ≠ localName ModulePaths.standard.wrappers ∧
    FitTogether Widgets.request .standard (outputsOf Widgets.request) ∧
    ∀ name, NamesWrapper .standard (outputsOf Widgets.request) name →
      ((declarations (outputsOf Widgets.request .api)).filterMap Item.type?).count name = 1 := by
  have hrun : ∀ mode, ((⟨Widgets.request, mode, .standard⟩ : Generation).files .empty).1 =
      .ok (outputsOf Widgets.request mode) := fun mode => outputsOf_eq mode (by decide +kernel)
  have hnames : Widgets.request.NamedByWords := by
    unfold Request.NamedByWords
    decide +kernel
  have hpaths : localName ModulePaths.standard.messages ≠ localName ModulePaths.standard.wrappers := by
    decide +kernel
  obtain ⟨hfit, honce⟩ := outputs_fit_together hrun hnames hpaths
  exact ⟨hrun, hnames, hpaths, hfit, honce.mpr (by decide +kernel)⟩

/-- A service with a method for whose request the wrapper of its input is named. -/
def statusService : ServiceDecl where
  name := "StatusApi"
  methods := [Widgets.guardedMethod "RegionStatus" "StatusRequest" "Status" "status,ActionView," false]

/-- The request for the service. -/
def statusRequest : Request := ⟨[⟨"status.proto", [statusService], []⟩], [], none⟩

/-- The wrapper of the input is declared as the request of the method once more, and named by the client
binding. -/
theorem wrapper_declared_twice :
    (∀ mode, ((⟨statusRequest, mode, .standard⟩ : Generation).files .empty).1 =
      .ok (outputsOf statusRequest mode)) ∧
    statusRequest.NamedByWords ∧
    NamesWrapper .standard (outputsOf statusRequest) "RegionStatusRequest" ∧
    ((declarations (outputsOf statusRequest .api)).filterMap Item.type?) =
      ["RegionStatusRequest", "RegionStatusRequest"] := by
  refine ⟨fun mode => outputsOf_eq mode (by decide +kernel), ?_,
    ⟨.client, by simp, by decide +kernel⟩, ?_⟩
  · unfold Request.NamedByWords
    decide +kernel
  · decide +kernel

end RegionGateway
