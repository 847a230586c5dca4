import Mathlib.Data.List.Nodup
import RegionGateway.Proofs.Output.DeclaredLines
import RegionGateway.Proofs.Output.RoutingLines
import RegionGateway.Widgets.Interface

/-!
# The route table and the dispatcher are complete

* `tables_fileOf`, `rows_table`: the first file of a run declares the table of all routes, with a row
  for each gateway method in order, and no other file declares a table of that name;
* `arms_routes`, `mem_services_routes`: the dispatcher of server code calls a handler for each route,
  and its backend is bound by the trait of each service;
* `exists_handler`: the file of a method's module defines the handler and declares the trait.

The lines of these declarations stand in the text of the files. If no name has a line break, no other line of a file
declares a constant (`constantLines_eq`). Together: `routes_complete`.
-/

namespace RegionGateway

open Rust Text

/-! ## Tables -/

/-- The values in the rows of a declaration, if it is the table of a name. -/
def Rust.Item.rows? (name : String) : Rust.Item → Option (List Rust.Expr)
  | .table _ _ other _ rows => if other = name then some (rows.map (·.2)) else none
  | _ => none

/-- The tables of a name that a file declares, each as the values in its rows. -/
def SourceFile.tables (file : SourceFile) (name : String) : List (List Rust.Expr) :=
  file.chunk.items.filterMap (Rust.Item.rows? name)

/-- The name of the route table. -/
def RouteTable.name : String := "CONTROLLER_ROUTES"

/-- The tables of fields that handlers come with have other names. -/
theorem MethodPlan.fieldIdsName_ne (plan : MethodPlan) : plan.fieldIdsName ≠ RouteTable.name := by
  intro h
  simpa [MethodPlan.fieldIdsName, RouteTable.name] using
    congrArg (fun name : String => name.toList.reverse.take 2) h

/-- The line that declares a public constant. -/
def Rust.Item.constantLine? : Rust.Item → Option String
  | .table _ true name item _ => some (Item.tableStart "pub const " name item)
  | _ => none

/-- A chunk declares neither a route table nor a public constant. -/
def Chunk.Plain (chunk : Chunk) : Prop :=
  ∀ item ∈ chunk.items, item.rows? RouteTable.name = none ∧ item.constantLine? = none

/-- The headings that declare constants are the lines of public tables. -/
theorem Rust.Item.constantHeading_eq (item : Item) :
    (if item.firstWords = "pub const " then item.heading?.toList.map String.toList else []) =
      item.constantLine?.toList.map String.toList := by
  cases item with
  | table doc isPublic name item rows => cases isPublic <;> exact if_pos rfl
  | function | backend | record | impl | «alias» => exact if_neg (by simp [firstWords])

theorem PermissionTest.plain_chunk (paths : ModulePaths) (plan : MethodPlan) :
    (chunk paths plan).Plain := by
  simp [Chunk.Plain, chunk, forbidden, failing, succeeding, failingInRegion, testFunction,
    Rust.Item.rows?, Rust.Item.constantLine?]

theorem PermissionTest.plain_messageChunk (paths : ModulePaths) (tests : MessageTests) :
    (messageChunk paths tests).Plain := by
  unfold Chunk.Plain messageChunk
  cases tests.guarded.isEmpty <;> cases tests.views.isEmpty <;>
    simp [foreignChanges, foreignViews, ownChanges, ownViews, matrix, testFunction, Rust.Item.rows?,
      Rust.Item.constantLine?]

theorem Handler.plain_chunk (paths : ModulePaths) (plan : MethodPlan) : (chunk paths plan).Plain := by
  unfold Chunk.Plain chunk
  cases plan.derivesMask <;> simp [fieldIdsTable, Rust.Item.rows?, Rust.Item.constantLine?, plan.fieldIdsName_ne]

theorem Wrapper.plain_chunk (paths : ModulePaths) (plan : MethodPlan) : (chunk paths plan).Plain := by
  unfold Chunk.Plain chunk declaration
  cases plan.declaresWrapper <;> cases plan.hasFields <;>
    simp [struct, objectAccess, fieldsAccess, requestAlias, Rust.Item.rows?, Rust.Item.constantLine?]

namespace Mode

variable (mode : Mode) (paths : ModulePaths)

theorem plain_serviceHead (service : ServicePlan) : (mode.serviceHead paths service).Plain := by
  cases mode <;>
    simp [Chunk.Plain, serviceHead, Handler.backendTrait, Chunk.empty, Rust.Item.rows?, Rust.Item.constantLine?]

theorem plain_methodChunk (method : MethodPlan) : (mode.methodChunk paths method).Plain := by
  cases mode with
  | server => exact Handler.plain_chunk paths method
  | api => exact Wrapper.plain_chunk paths method
  | client => simp [Chunk.Plain, methodChunk, Binding.chunk, Rust.Item.rows?, Rust.Item.constantLine?]
  | test => exact PermissionTest.plain_chunk paths method
  | testHelper => simp [Chunk.Plain, methodChunk, TestHelper.chunk, Rust.Item.rows?, Rust.Item.constantLine?]

theorem plain_serviceTail (request : Request) (inputs : InputIndex) (service : ServicePlan) :
    (mode.serviceTail request inputs paths service).Plain := by
  cases mode with
  | test =>
      intro item hitem
      simp only [serviceTail, Chunk.concat_items, List.flatMap_map, List.mem_flatMap] at hitem
      obtain ⟨tests, -, hitem⟩ := hitem
      exact PermissionTest.plain_messageChunk paths tests item hitem
  | server | api | client | testHelper => simp [Chunk.Plain, serviceTail, Chunk.empty]

end Mode

/-! ## Names of traits -/

/-- Texts are the same on both sides of a character that the first parts do not contain. -/
theorem append_cons_inj {α : Type} {c : α} {xs ys us vs : List α} (hx : c ∉ xs) (hy : c ∉ ys)
    (h : xs ++ c :: us = ys ++ c :: vs) : xs = ys ∧ us = vs := by
  induction xs generalizing ys with
  | nil =>
      cases ys with
      | nil => exact ⟨rfl, (List.cons.inj h).2⟩
      | cons y ys => exact absurd ((List.cons.inj h).1 ▸ List.mem_cons_self) hy
  | cons x xs ih =>
      cases ys with
      | nil => exact absurd ((List.cons.inj h).1 ▸ List.mem_cons_self) hx
      | cons y ys =>
          obtain ⟨rfl, hrest⟩ := List.cons.inj h
          obtain ⟨rfl, hafter⟩ := ih (fun h => hx (List.mem_cons_of_mem _ h))
            (fun h => hy (List.mem_cons_of_mem _ h)) hrest
          exact ⟨rfl, hafter⟩

/-- No module name has a colon, so the paths of different traits differ. -/
theorem traitPath_inj {file other : FileDecl} {service trait : String}
    (h : traitPath (file.moduleName, service) = traitPath (other.moduleName, trait)) :
    file.moduleName = other.moduleName ∧ service = trait := by
  have hcolon : ∀ file : FileDecl, ':' ∉ file.moduleName.toList := fun file h =>
    absurd (isModuleChar_of_mem h) (by decide)
  have hchars := congrArg String.toList h
  simp only [traitPath, String.toList_append, List.append_assoc] at hchars
  obtain ⟨hmodule, hservice⟩ := append_cons_inj (hcolon file) (hcolon other)
    (List.append_cancel_left hchars)
  exact ⟨String.toList_inj.mp hmodule, String.toList_inj.mp (List.cons.inj hservice).2⟩

/-! ## Runs -/

/-- The row of a method in the route table. -/
def MethodDecl.row (service : String) (method : MethodDecl) : Rust.Expr :=
  .record "ControllerRoute"
    [("service", .literal service), ("method", .literal method.name),
      ("path", .literal (routePrefix ++ method.name)), ("input", .literal method.inputType),
      ("streaming", .place (if method.serverStreaming then "true" else "false"))]

/-- The call of a method's handler, under the path of its route. -/
def MethodDecl.arm (module : String) (method : MethodDecl) : String × Rust.Expr :=
  ("\"" ++ (routePrefix ++ method.name) ++ "\"",
    .await (callOn ("super::" ++ module ++ "::" ++ Rust.ident method.name)
      ["backend", "enforcer", "rc", "body", "sink"]))

/-- The answer to a path of no route. -/
def unroutedArm : String × Rust.Expr :=
  ("_", .call "Err" [.call "GatewayError::NotFound" [.method (.place "path") "to_string" []]])

namespace Generation

variable {run : Generation}

theorem plain_servicesChunk (run : Generation) (plan : FilePlan) : (run.servicesChunk plan).Plain := by
  intro item hitem
  rw [servicesChunk_eq, Chunk.concat_items] at hitem
  obtain ⟨part, hpart, hitem⟩ := List.mem_flatMap.mp hitem
  obtain ⟨service, -, rfl | ⟨method, -, rfl⟩ | rfl⟩ := run.mem_parts.mp hpart
  · exact Mode.plain_serviceHead _ _ _ item hitem
  · exact Mode.plain_methodChunk _ _ _ item hitem
  · exact Mode.plain_serviceTail _ _ _ _ _ item hitem

theorem tables_fileOf (head : Chunk) (plan : FilePlan) :
    (run.fileOf head plan).tables RouteTable.name =
      head.items.filterMap (Rust.Item.rows? RouteTable.name) := by
  have hplain : ∀ item ∈ (run.servicesChunk plan).items, item.rows? RouteTable.name = none :=
    fun item hitem => (run.plain_servicesChunk plan item hitem).1
  rw [SourceFile.tables, fileOf, Chunk.append_items, List.filterMap_append,
    List.filterMap_eq_nil_iff.mpr hplain, List.append_nil]

/-- What the first file begins with, if it lists routes. -/
theorem table_items (hmode : run.mode ≠ .test) (hroutes : run.request.gatewayMethods ≠ []) :
    run.table.items = RouteTable.table run.request run.routes ::
      if run.mode.dispatches then [.function (RouteTable.dispatcher run.routes)] else [] := by
  have hlists : run.mode.listsRoutes = true := by
    cases hrun : run.mode <;> first | rfl | exact absurd hrun hmode
  have hany : run.routes.isEmpty = false := by simpa [routes, Route.ofRequest] using hroutes
  rw [table, RouteTable.chunk, if_neg (by simp [hlists, hany])]

theorem rows_table (hmode : run.mode ≠ .test) (hroutes : run.request.gatewayMethods ≠ []) :
    run.table.items.filterMap (Rust.Item.rows? RouteTable.name) =
      [run.request.gatewayMethods.map fun declared => declared.2.2.row declared.2.1.name] := by
  rw [table_items hmode hroutes]
  cases run.mode.dispatches <;>
    simp [RouteTable.table, Rust.Item.rows?, RouteTable.name, routes, Route.ofRequest,
      Route.entry, Route.path, MethodDecl.row, Function.comp_def]

theorem arms_routes : run.routes.map RouteTable.arm =
    run.request.gatewayMethods.map fun declared => declared.2.2.arm declared.1.moduleName := by
  simp only [routes, Route.ofRequest, List.map_map, Function.comp_def, RouteTable.arm, Route.path,
    MethodDecl.arm]

/-- The lines of a file that declare constants are those of its first part. -/
theorem constantLines_eq {owners after : WrapperOwners} {plans : List FilePlan} (h : run.OnOneLine)
    (hmode : run.mode ≠ .test) (hplan : run.plan owners = (.ok plans, after)) (howners : owners.OnOneLine)
    {head : Chunk} {plan : FilePlan} (hfile : run.fileOf head plan ∈ run.filesOf plans) :
    linesStarting "pub const " (run.fileOf head plan).text =
      (head.items.filterMap Item.constantLine?).map String.toList := by
  have hrest : (run.servicesChunk plan).items.filterMap Item.constantLine? = [] :=
    List.filterMap_eq_nil_iff.mpr fun item hitem => (run.plain_servicesChunk plan item hitem).2
  have hitems : (run.fileOf head plan).chunk.items.filterMap Item.constantLine? =
      head.items.filterMap Item.constantLine? := by
    rw [fileOf, Chunk.append_items, List.filterMap_append, hrest, List.append_nil]
  rw [← hitems, h.declarationLines_eq hmode hplan howners hfile (by decide)]
  simp only [Item.constantHeading_eq, List.filterMap_eq_flatMap_toList, List.map_flatMap]

/-- What the route table and the dispatcher of a run say. -/
structure RoutesComplete (run : Generation) (start : WrapperOwners) (first : SourceFile) (rest : List SourceFile) :
    Prop where
  /-- Outside tests, the first file declares the route table, with one row for each gateway method of
  the generated files, in file, service and method order. The lines of these rows stand in its text, each row
  below the comment of its route. -/
  table : run.mode ≠ .test → first.tables RouteTable.name =
    [run.request.gatewayMethods.map fun declared => declared.2.2.row declared.2.1.name] ∧
    Stands (block (RouteTable.tableLines run.request (Route.ofRequest run.request))) first.text
  /-- No other file declares a route table. -/
  onlyFirst : ∀ file ∈ rest, file.tables RouteTable.name = []
  /-- If nothing in the request has a line break, nor has a module that claimed a wrapper before the run, no
  other line of a file declares a public constant. -/
  onlyTable : run.mode ≠ .test → run.OnOneLine → start.OnOneLine →
    linesStarting "pub const " first.text = [RouteTable.heading.toList] ∧
    ∀ file ∈ rest, linesStarting "pub const " file.text = []
  /-- The dispatcher of server code has one arm for each row, in the same order, and its bounds name the
  trait of each service with gateway methods once. Its lines stand in the text of the first file. -/
  dispatcher : run.mode = .server → ∃ dispatcher : Rust.Function,
    .function dispatcher ∈ first.chunk.items ∧ dispatcher.name = "dispatch" ∧
    dispatcher.body = [.value (.choice (.place "path")
      ((run.request.gatewayMethods.map fun declared => declared.2.2.arm declared.1.moduleName) ++
        [unroutedArm]))] ∧
    ∃ services : List (String × String), dispatcher.bounds = some (services.map traitPath) ∧
      services.Nodup ∧ (services.map traitPath).Nodup ∧
      (∀ service, service ∈ services ↔ ∃ declared ∈ run.request.gatewayMethods,
        service = (declared.1.moduleName, declared.2.1.name)) ∧
      Stands (block (RouteTable.dispatcherLines (Route.ofRequest run.request) services)) first.text
  /-- The file of the module that an arm calls defines the handler of the method, and declares the
  trait of its service. The lines of both stand in its text. -/
  handler : run.mode = .server → ∀ declared ∈ run.request.gatewayMethods,
    ∃ file ∈ first :: rest, file.module = declared.1.moduleName ∧
      file.name = declared.1.moduleName ++ ".rs" ∧
      ∃ plan : MethodPlan, plan.IsOf declared.2.1.name declared.2.2 ∧
        .function (Handler.function run.paths plan) ∈ file.chunk.items ∧
        (Handler.function run.paths plan).name = Rust.ident declared.2.2.name ∧
        Stands (block (Handler.startLines plan) ++ Stmt.lines 1 (Handler.body run.paths plan) ++ "\x7d\n") file.text ∧
        ∃ doc methods, .backend doc declared.2.1.name methods ∈ file.chunk.items ∧
          Handler.backendMethod run.paths plan ∈ methods ∧
          ∃ plans : List MethodPlan, plan ∈ plans ∧
            List.Forall₂ (MethodPlan.IsOf declared.2.1.name) declared.2.1.gatewayMethods plans ∧
            Stands (block (Handler.traitLines run.paths declared.2.1.name plans)) file.text

/-- A service is bound if it has a gateway method. -/
theorem mem_services_routes {service : String × String} : service ∈ Route.services run.routes ↔
    ∃ declared ∈ run.request.gatewayMethods,
      service = (declared.1.moduleName, declared.2.1.name) := by
  simp only [Route.services, Route.mem_distinct, routes, Route.ofRequest, List.map_map, List.mem_map,
    Function.comp_apply, List.not_mem_nil, not_false_eq_true, and_true, eq_comm]

theorem nodup_traitPaths : ((Route.services run.routes).map traitPath).Nodup := by
  refine List.Nodup.map_on (fun service hservice other hother hsame => ?_) (Route.nodup_distinct _ _)
  obtain ⟨declared, -, rfl⟩ := mem_services_routes.mp hservice
  obtain ⟨declared', -, rfl⟩ := mem_services_routes.mp hother
  obtain ⟨hmodule, hname⟩ := traitPath_inj hsame
  rw [hmodule, hname]

/-- The file of a module defines the handlers of its methods and declares the traits of its services. -/
theorem exists_handler {owners after : WrapperOwners} {plans : List FilePlan}
    (hmode : run.mode = .server) (hplanned : Planned run.request owners plans after)
    {declared : FileDecl × ServiceDecl × MethodDecl} (hdeclared : declared ∈ run.request.gatewayMethods) :
    ∃ file ∈ run.filesOf plans, file.module = declared.1.moduleName ∧
      ∃ plan : MethodPlan, plan.IsOf declared.2.1.name declared.2.2 ∧
        .function (Handler.function run.paths plan) ∈ file.chunk.items ∧
        ∃ service : ServicePlan, plan ∈ service.methods ∧ service.IsOf declared.2.1 ∧
          .backend ("Backend of the `" ++ declared.2.1.name ++ "` service.") declared.2.1.name
            (service.methods.map (Handler.backendMethod run.paths)) ∈ file.chunk.items := by
  rw [Request.gatewayMethods_eq] at hdeclared
  obtain ⟨file, hfile, hdeclared⟩ := List.mem_flatMap.mp hdeclared
  obtain ⟨service, hservice, hdeclared⟩ := List.mem_flatMap.mp hdeclared
  obtain ⟨method, hmethod, rfl⟩ := List.mem_map.mp hdeclared
  obtain ⟨filePlan, hfilePlan, hfileOf⟩ := exists_of_forall₂ hplanned.files hfile
  obtain ⟨servicePlan, hservicePlan, hserviceOf⟩ := exists_of_forall₂ hfileOf.services hservice
  obtain ⟨plan, hplan, hmethodOf⟩ := exists_of_forall₂ hserviceOf.methods hmethod
  obtain ⟨output, houtput, head, -, rfl⟩ := exists_of_forall₂ (run.filesOf_isOf plans) hfilePlan
  have hpart : ∀ part, part = run.mode.serviceHead run.paths servicePlan ∨
      part = run.mode.methodChunk run.paths plan → part ∈ run.parts filePlan := by
    rintro part (rfl | rfl)
    · exact run.mem_parts.mpr ⟨servicePlan, hservicePlan, .inl rfl⟩
    · exact run.mem_parts.mpr ⟨servicePlan, hservicePlan, .inr (.inl ⟨plan, hplan, rfl⟩)⟩
  rw [hmode] at hpart
  have hitem : ∀ part ∈ run.parts filePlan, ∀ item ∈ part.items,
      item ∈ (run.fileOf head filePlan).chunk.items := fun part hpart item hitem =>
    run.mem_items_fileOf.mpr (.inr ⟨part, hpart, hitem⟩)
  refine ⟨_, houtput, hfileOf.module, plan, hmethodOf, ?_, servicePlan, hplan, hserviceOf, ?_⟩
  · exact hitem _ (hpart _ (.inr rfl)) _ (List.mem_append_right _ List.mem_cons_self)
  · have htrait := hitem _ (hpart _ (.inl rfl)) _ List.mem_cons_self
    rwa [hserviceOf.name] at htrait

section

variable (hroutes : run.request.gatewayMethods ≠ []) (plan : FilePlan)
include hroutes

/-- The lines of the route table stand in the first file. -/
theorem stands_table (hmode : run.mode ≠ .test) :
    Stands (block (RouteTable.tableLines run.request run.routes)) (run.fileOf run.table plan).text := by
  have hitem : RouteTable.table run.request run.routes ∈ (run.fileOf run.table plan).chunk.items :=
    run.mem_items_fileOf.mpr (.inl (table_items hmode hroutes ▸ List.mem_cons_self))
  rw [← RouteTable.table_lines]
  exact SourceFile.stands_lines hitem

theorem dispatcher_mem_items (hmode : run.mode = .server) :
    .function (RouteTable.dispatcher run.routes) ∈ (run.fileOf run.table plan).chunk.items := by
  refine run.mem_items_fileOf.mpr (.inl ?_)
  rw [table_items (by rw [hmode]; decide) hroutes, hmode]
  exact List.mem_cons_of_mem _ List.mem_cons_self

/-- The first part of the first file declares one constant. -/
theorem constants_table (hmode : run.mode ≠ .test) :
    run.table.items.filterMap Item.constantLine? = [RouteTable.heading] := by
  have hheading : Item.tableStart "pub const " "CONTROLLER_ROUTES" (.name "ControllerRoute") = RouteTable.heading := rfl
  rw [table_items hmode hroutes]
  cases run.mode.dispatches <;> simp [RouteTable.table, Item.constantLine?, hheading]

end

/-- **Route table and dispatcher are complete and do not dangle.** In a run over any request that
generates a file, the first file declares the route table, with one row for each gateway method in file,
service and method order, and no other file does; only tests have no table. The dispatcher of server
code has the same arms in the same order, and what they call and what the bounds name is in the files
that are generated. The text of the files says the same, line by line. -/
theorem routes_complete {start after : WrapperOwners} {first : SourceFile} {rest : List SourceFile}
    (h : run.files start = (.ok (first :: rest), after)) : RoutesComplete run start first rest := by
  obtain ⟨plans, hplan, hfiles⟩ := files_eq_ok h
  have hplanned := plan_eq_ok hplan
  cases plans with
  | nil => cases hfiles
  | cons plan plans =>
      have hmem : ∀ file ∈ first :: rest, file ∈ run.filesOf (plan :: plans) := hfiles ▸ fun _ h => h
      rw [filesOf_cons] at hfiles
      obtain ⟨rfl, rfl⟩ := List.cons.inj hfiles
      obtain ⟨file, hfile, -⟩ := exists_of_forall₂ hplanned.files.flip List.mem_cons_self
      have hroutes : run.request.gatewayMethods ≠ [] := Request.gatewayMethods_ne_nil hfile
      constructor
      case table =>
        intro hmode
        rw [tables_fileOf, rows_table hmode hroutes]
        exact ⟨rfl, stands_table hroutes plan hmode⟩
      case onlyFirst =>
        intro file hfile
        obtain ⟨plan, -, rfl⟩ := List.mem_map.mp hfile
        rw [tables_fileOf]
        rfl
      case onlyTable =>
        intro hmode hplain howners
        refine ⟨?_, fun file hfile => ?_⟩
        · rw [constantLines_eq hplain hmode hplan howners (hmem _ List.mem_cons_self), constants_table hroutes hmode]
          rfl
        · have hfile' := hmem _ (List.mem_cons_of_mem _ hfile)
          obtain ⟨plan, -, rfl⟩ := List.mem_map.mp hfile
          rw [constantLines_eq hplain hmode hplan howners hfile']
          rfl
      case dispatcher =>
        intro hmode
        have hitem := dispatcher_mem_items hroutes plan hmode
        have hlines := SourceFile.stands_lines hitem
        rw [Item.lines, RouteTable.dispatcher_lines] at hlines
        refine ⟨RouteTable.dispatcher run.routes, hitem, rfl, ?_, Route.services run.routes, rfl,
          Route.nodup_distinct _ _, nodup_traitPaths, fun service => mem_services_routes, hlines⟩
        rw [← arms_routes]
        rfl
      case handler =>
        intro hmode declared hdeclared
        obtain ⟨output, houtput, hmodule, plan, hof, hfunction, service, hmethod, hservice, htrait⟩ :=
          exists_handler hmode hplanned hdeclared
        have hlines := SourceFile.stands_lines hfunction
        rw [Item.lines, Handler.function_lines] at hlines
        have htraitLines := SourceFile.stands_lines htrait
        rw [Handler.trait_lines] at htraitLines
        exact ⟨output, houtput, hmodule, congrArg (· ++ ".rs") hmodule, plan, hof, hfunction, hof.functionName, hlines,
          _, _, htrait, List.mem_map_of_mem hmethod, service.methods, hmethod, hservice.methods, htraitLines⟩

/-- The run that generates the server code of the widget services. -/
def widgetServer : Generation := .ofRequest Widgets.request .none .standard

theorem modules_widgetServer :
    ((widgetServer.files .empty).1.toOption.map fun files => files.map (·.module)) =
      some ["widget", "cluster"] := by
  decide +kernel

theorem routes_complete_widgets : ∃ first rest after, widgetServer.mode = .server ∧
    widgetServer.files .empty = (.ok (first :: rest), after) ∧
    (first :: rest).map (·.module) = ["widget", "cluster"] ∧
    widgetServer.OnOneLine ∧ WrapperOwners.empty.OnOneLine ∧
    RoutesComplete widgetServer .empty first rest := by
  have hmode : widgetServer.mode = .server := by decide +kernel
  have hmodules := modules_widgetServer
  rcases hrun : widgetServer.files .empty with ⟨_ | _ | ⟨first, rest⟩, after⟩
  · rw [hrun] at hmodules
    cases hmodules
  · rw [hrun] at hmodules
    cases hmodules
  · rw [hrun] at hmodules
    exact ⟨first, rest, after, hmode, rfl, Option.some.inj hmodules, onOneLine_widgets _, List.forall_mem_nil _,
      routes_complete hrun⟩

end Generation

end RegionGateway
