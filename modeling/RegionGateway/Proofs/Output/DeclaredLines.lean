import RegionGateway.Proofs.Interface.FieldIds
import RegionGateway.Proofs.Output.FileLines
import RegionGateway.Widgets.Interface

/-!
# The lines that declare and import

A text that has a line break can begin a line like a declaration. Names that are made for Rust have none, whatever
they are made of (`Rust.oneLine_ident`). So if no name and no annotation of a request has one (`Generation.OnOneLine`),
no plan has one (`Generation.OnOneLine.walk`), and the lines of a generated file that begin like public declarations
or imports are those of its declarations and imports (`Generation.OnOneLine.headings_file`).
-/

namespace RegionGateway

open Rust Text

/-! ## Names -/

namespace Rust

theorem oneLine_sanitize (name : String) : OneLine (sanitize name) := by
  have hbreak : ∀ c : Char, (isAlphanumeric c || c == '_') = true → c ≠ '\n' ∧ c ≠ '\r' := by
    intro c hc
    constructor
    · rintro rfl
      revert hc
      decide +kernel
    · rintro rfl
      revert hc
      decide +kernel
  have hkept : OneLine (String.ofList (identChars name)) := by
    intro c hc
    rw [String.toList_ofList] at hc
    exact hbreak c (List.mem_filter.mp hc).2
  unfold sanitize
  dsimp only
  split
  · exact hkept.append (by decide)
  · split
    · exact OneLine.append (by decide) hkept
    · exact hkept

theorem oneLine_ident (name : String) : OneLine (ident name) := oneLine_sanitize _

theorem oneLine_fieldPath (path : String) : OneLine (fieldPath path) :=
  oneLine_join (by decide) (List.forall_mem_map.mpr fun name _ => oneLine_ident name)

theorem oneLine_moduleUse {path : String} {use : Use} (hpath : OneLine path) (huse : moduleUse? path = some use) :
    OneLine use.path ∧ OneLine use.symbol := by
  rw [path_moduleUse huse, String.append_assoc] at hpath
  obtain ⟨hfront, hback⟩ := oneLine_append.mp hpath
  exact ⟨hfront, (oneLine_append.mp hback).2⟩

theorem oneLine_localName {path : String} (h : OneLine path) : OneLine (localName path) := by
  cases huse : moduleUse? path with
  | some use => exact symbol_moduleUse huse ▸ (oneLine_moduleUse h huse).2
  | none =>
      have hnone : afterDoubleColon? path.toList = none := by
        unfold moduleUse? at huse
        split at huse
        · next hnone => exact hnone
        · cases huse
      rw [localName, hnone]
      exact h

end Rust

theorem FileDecl.oneLine_moduleName (file : FileDecl) : OneLine file.moduleName := by
  intro c hc
  have hchar := isModuleChar_of_mem hc
  constructor
  · rintro rfl
    revert hchar
    decide
  · rintro rfl
    revert hchar
    decide

/-! ## Plans -/

/-- None of the configured paths has a line break. -/
structure ModulePaths.OnOneLine (paths : ModulePaths) : Prop where
  messages : OneLine paths.messages
  wrappers : OneLine paths.wrappers
  bindings : OneLine paths.bindings
  testHelpers : OneLine paths.testHelpers
  runtime : OneLine paths.runtime

/-- No text of a plan has a line break. -/
structure MethodPlan.OnOneLine (plan : MethodPlan) : Prop where
  service : OneLine plan.service
  method : OneLine plan.method
  functionName : OneLine plan.functionName
  inputType : OneLine plan.inputType
  outputType : OneLine plan.outputType
  resource : OneLine plan.resource
  action : OneLine plan.action
  wrapperModule : ∀ owner ∈ plan.wrapperModule, OneLine owner
  fieldIds : ∀ field ∈ plan.fieldIds, OneLine field.1 ∧ OneLine field.2
  inputOrg : OneLine plan.inputOrg
  itemOrg : OneLine plan.itemOrg
  orgPath : ∀ path ∈ plan.orgPath, OneLine path
  requiredOrg : ∀ path ∈ plan.requiredOrg, OneLine path
  orgFieldId : ∀ id ∈ plan.orgFieldId, OneLine id

section

variable {paths : ModulePaths} {plan : MethodPlan}

theorem ModulePaths.OnOneLine.uses (hpaths : paths.OnOneLine) {modules symbols : List String}
    (hmodules : ∀ path ∈ modules, OneLine path) (hsymbols : ∀ symbol ∈ symbols, OneLine symbol) :
    ∀ use ∈ paths.uses modules symbols, OneLine use.path ∧ OneLine use.symbol := by
  refine List.forall_mem_append.mpr ⟨fun use huse => ?_, ?_⟩
  · obtain ⟨path, hpath, huse⟩ := List.mem_filterMap.mp huse
    exact oneLine_moduleUse (hmodules path hpath) huse
  · exact List.forall_mem_map.mpr fun symbol hsymbol => ⟨hpaths.runtime, hsymbols symbol hsymbol⟩

theorem MethodPlan.OnOneLine.wrapper (h : plan.OnOneLine) : OneLine plan.wrapper :=
  OneLine.append (by decide) h.inputType

theorem MethodPlan.oneLine_wrapperField (plan : MethodPlan) : OneLine plan.wrapperField := oneLine_ident _

theorem MethodPlan.OnOneLine.fieldIdsName (h : plan.OnOneLine) : OneLine plan.fieldIdsName := by
  have hkept : ∀ c ∈ withoutRawMarkChars plan.functionName.toList, c ≠ '\n' ∧ c ≠ '\r' := by
    have hsubset : ∀ cs : List Char, withoutRawMarkChars cs ⊆ cs := by
      intro cs
      induction cs using withoutRawMarkChars.induct with
      | case1 rest ih =>
          rw [withoutRawMarkChars]
          exact fun c hc => List.mem_cons_of_mem _ (List.mem_cons_of_mem _ (ih hc))
      | case2 cs hplain =>
          rw [withoutRawMarkChars]
          · exact List.Subset.refl _
          · exact hplain
    exact fun c hc => h.functionName c (hsubset _ hc)
  refine OneLine.append (fun c hc => ?_) (by decide)
  rw [upper, String.toList_ofList] at hc
  obtain ⟨d, hd, hc⟩ := List.mem_flatMap.mp hc
  rw [withoutRawMark, String.toList_ofList] at hd
  exact no_break_upperChar (hkept d hd) c hc

theorem Wrapper.onLines_chunk (hpaths : paths.OnOneLine) (h : plan.OnOneLine) : (chunk paths plan).OnLines := by
  have hmodule := oneLine_localName hpaths.messages
  have hfield := plan.oneLine_wrapperField
  have hname : (Chunk.mk [] [requestAlias plan]).OnLines := by
    refine ⟨List.forall_mem_nil _, List.forall_mem_singleton.mpr ?_⟩
    simp +decide [requestAlias, Item.onLines_iff, Item.leaves, Item.attributes, h.method, h.wrapper]
  refine Chunk.OnLines.append ?_ hname
  split
  · have hsymbols : ∀ symbol ∈ ["RegionObj"] ++ if plan.hasFields then ["RegionObjFields"] else [], OneLine symbol := by
      cases plan.hasFields <;> decide
    have huses := hpaths.uses (List.forall_mem_singleton.mpr hpaths.messages) hsymbols
    refine ⟨List.forall_mem_append.mpr ⟨huses, by decide⟩, ?_⟩
    have hall : ∀ item ∈ [struct paths plan, objectAccess paths plan, fieldsAccess plan], item.OnLines := by
      simp +decide [struct, objectAccess, fieldsAccess, Item.onLines_iff, Item.leaves, Item.attributes,
        Field.leaves, ImplMember.leaves, h.inputType, h.wrapper, hfield, hmodule, Ty.str, ModulePaths.messageType]
    intro item hitem
    refine hall item ?_
    unfold declaration at hitem
    split at hitem
    · exact hitem
    · exact List.mem_append_left [fieldsAccess plan] hitem
  · refine ⟨?_, List.forall_mem_nil _⟩
    simpa +decide [h.wrapper] using h.wrapperModule

theorem Binding.onLines_chunk (hpaths : paths.OnOneLine) (h : plan.OnOneLine) : (chunk paths plan).OnLines := by
  have hmessages := oneLine_localName hpaths.messages
  have hwrappers := oneLine_localName hpaths.wrappers
  have hcall : OneLine (callName plan) := by unfold callName; split <;> decide
  refine ⟨hpaths.uses ?_ ?_, List.forall_mem_singleton.mpr ?_⟩
  · simp [hpaths.wrappers, hpaths.messages]
  · simp +decide [hcall]
  · cases hstreams : plan.streams <;>
      simp +decide [function, outcome, callerParameters, Item.onLines_iff, Item.leaves, Item.attributes,
        Function.leaves, hstreams, h.method, h.functionName, h.outputType, h.wrapper, hmessages, hwrappers, hcall,
        Ty.str, ModulePaths.messageType]

theorem TestHelper.onLines_chunk (hpaths : paths.OnOneLine) (h : plan.OnOneLine) : (chunk paths plan).OnLines := by
  have hmessages := oneLine_localName hpaths.messages
  have hwrappers := oneLine_localName hpaths.wrappers
  have hbindings := oneLine_localName hpaths.bindings
  have hfield := plan.oneLine_wrapperField
  have houtcome : AllOneLine ((Binding.outcome paths plan).leaves) := by
    unfold Binding.outcome
    cases plan.streams <;> simp +decide [hmessages, h.outputType, ModulePaths.messageType]
  have hscoping : AllOneLine (Stmt.allLeaves (scoping plan)) := by
    have hid := h.orgFieldId
    unfold scoping
    split
    · exact List.forall_mem_nil _
    · next path hpath =>
        have hplace := h.orgPath path hpath
        cases horg : plan.orgFieldId with
        | none => simp +decide [hplace]
        | some id => simp +decide [hplace, hid id horg]
  have hsend : (Item.function (sendInput paths plan)).OnLines := by
    simp +decide [sendInput, callerParameters, modifiersParameter, callOn, Item.onLines_iff, Item.leaves,
      Item.attributes, Function.leaves, h.method, h.functionName, h.inputType, h.wrapper, hfield, hmessages,
      hwrappers, hbindings, houtcome, Ty.str, ModulePaths.messageType]
  have hscoped : (Item.function (sendForOrg paths plan)).OnLines := by
    cases horg : plan.orgPath.isSome <;>
      simp +decide [sendForOrg, callerParameters, modifiersParameter, callOn, Item.onLines_iff, Item.leaves,
        Item.attributes, Function.leaves, h.method, h.functionName, h.inputType, hmessages, houtcome, hscoping,
        horg, Ty.str, Ty.text, ModulePaths.messageType]
  refine ⟨hpaths.uses ?_ (by decide), List.forall_mem_cons.mpr ⟨hsend, List.forall_mem_singleton.mpr hscoped⟩⟩
  simp [hpaths.wrappers, hpaths.messages, hpaths.bindings]

namespace Handler

theorem onLines_backendTrait (hpaths : paths.OnOneLine) {service : ServicePlan} (hname : OneLine service.name)
    (h : ∀ plan ∈ service.methods, plan.OnOneLine) : (backendTrait paths service).OnLines := by
  have hmessages := oneLine_localName hpaths.messages
  have hmethod : ∀ plan ∈ service.methods, AllOneLine ((backendMethod paths plan).leaves) := by
    intro plan hplan
    have hplain := h plan hplan
    cases hstreams : plan.streams <;>
      simp +decide [backendMethod, backendResult, hstreams, Signature.leaves, hplain.method, hplain.functionName,
        hplain.inputType, hplain.outputType, hmessages, ModulePaths.messageType]
  refine ⟨hpaths.uses (List.forall_mem_singleton.mpr hpaths.messages) ?_, List.forall_mem_singleton.mpr ?_⟩
  · cases service.methods.any (·.streams) <;> decide
  · have hmethods : AllOneLine ((service.methods.map (backendMethod paths)).flatMap Signature.leaves) := by
      rw [List.flatMap_map]
      exact allOneLine_flatMap.mpr hmethod
    simp +decide [Item.onLines_iff, Item.leaves, Item.attributes, hname, hmethods]

theorem oneLine_question (h : plan.OnOneLine) {org : String} (horg : OneLine org) :
    AllOneLine ((question plan org).leaves) := by
  simp +decide [question, horg, h.resource, h.action]

theorem oneLine_inputCheck (h : plan.OnOneLine) : AllOneLine (Stmt.allLeaves (inputCheck plan)) := by
  have hquestion := oneLine_question h h.inputOrg
  unfold inputCheck
  cases plan.check with
  | off | items => exact List.forall_mem_nil _
  | input =>
      cases hrequired : plan.requiredOrg with
      | none => simp +decide [refuse, hquestion]
      | some path => simp +decide [refuse, requireOrg, hquestion, h.requiredOrg path hrequired]

theorem oneLine_serve (hpaths : paths.OnOneLine) (h : plan.OnOneLine) :
    AllOneLine (Stmt.allLeaves (serve paths plan)) := by
  have hmessages := oneLine_localName hpaths.messages
  have hfilter : AllOneLine ((itemFilter plan).leaves) := by
    have hquestion := oneLine_question h h.itemOrg
    unfold itemFilter
    cases plan.check <;> simp +decide [hquestion]
  have hname : OneLine (itemName plan) := by unfold itemName; split <;> decide
  cases hstreams : plan.streams <;>
    simp +decide [serve, hstreams, callOn, backendCall, hfilter, hname, hmessages, h.functionName, h.outputType,
      ModulePaths.messageType]

theorem onLines_fieldIdsTable (h : plan.OnOneLine) : (fieldIdsTable plan).OnLines := by
  have hrows : AllOneLine ((plan.fieldIds.map fun field =>
      (([] : List String), Expr.pair (.literal field.1) (.literal field.2))).flatMap
        fun row => row.1 ++ row.2.leaves) := by
    refine allOneLine_flatMap.mpr (List.forall_mem_map.mpr fun field hfield => ?_)
    simp [h.fieldIds field hfield]
  simp +decide [fieldIdsTable, Item.onLines_iff, Item.leaves, Item.attributes, h.inputType, h.method,
    h.fieldIdsName, hrows, Ty.str]

theorem onLines_function (hpaths : paths.OnOneLine) (h : plan.OnOneLine) :
    (Item.function (function paths plan)).OnLines := by
  have hwrappers := oneLine_localName hpaths.wrappers
  have hbody : AllOneLine (Stmt.allLeaves (body paths plan)) := by
    cases hmask : plan.derivesMask <;>
      simp +decide [body, hmask, callOn, hwrappers, h.wrapper, plan.oneLine_wrapperField, h.fieldIdsName,
        oneLine_inputCheck h, oneLine_serve hpaths h]
  have henforcer : OneLine (if plan.check = .off then "_enforcer" else "enforcer") := by split <;> decide
  simp +decide [function, outcome, requestParameters, Item.onLines_iff, Item.leaves, Item.attributes,
    Function.leaves, h.method, h.functionName, h.service, hbody, henforcer, Ty.unit]

theorem onLines_chunk (hpaths : paths.OnOneLine) (h : plan.OnOneLine) : (chunk paths plan).OnLines := by
  refine ⟨hpaths.uses ?_ ?_, List.forall_mem_append.mpr ⟨?_, List.forall_mem_singleton.mpr (onLines_function hpaths h)⟩⟩
  · simp [hpaths.wrappers, hpaths.messages]
  · cases plan.streams <;> cases plan.derivesMask <;> decide
  · split
    · exact List.forall_mem_singleton.mpr (onLines_fieldIdsTable h)
    · exact List.forall_mem_nil _

end Handler

end

namespace RouteTable

variable {request : Request} {routes : List Route}

/-- No name that the route table or the dispatcher shows has a line break. -/
def OnOneLine (request : Request) (routes : List Route) : Prop :=
  ∀ route ∈ routes, route.NamedOnOneLine request ∧ OneLine route.module ∧ OneLine route.service

theorem onLines_table (h : OnOneLine request routes) : (table request routes).OnLines := by
  have hrows : AllOneLine ((routes.map fun route => (route.documentation request, route.entry)).flatMap
      fun row => row.1 ++ row.2.leaves) := by
    refine allOneLine_flatMap.mpr (List.forall_mem_map.mpr fun route hroute => ?_)
    obtain ⟨hnamed, -, hservice⟩ := h route hroute
    have hpath : OneLine route.path := OneLine.append (by decide) hnamed.method
    have hcomments : AllOneLine (route.documentation request) := Route.oneLine_documentation hnamed
    have hstreaming : OneLine (if route.streaming then "true" else "false") := by split <;> decide
    simp +decide [Route.entry, hcomments, hservice, hnamed.method, hpath, hnamed.inputType, hstreaming]
  simp +decide [table, Item.onLines_iff, Item.leaves, Item.attributes, hrows]

theorem onLines_dispatcher (h : OnOneLine request routes) : (Item.function (dispatcher routes)).OnLines := by
  have hbounds : AllOneLine ((Route.services routes).map fun service =>
      "super::" ++ service.1 ++ "::" ++ service.2) := by
    refine List.forall_mem_map.mpr fun service hservice => ?_
    obtain ⟨route, hroute, rfl⟩ := List.mem_map.mp (Route.mem_distinct.mp hservice).1
    obtain ⟨-, hmodule, hname⟩ := h route hroute
    exact ((OneLine.append (by decide) hmodule).append (by decide)).append hname
  have harms : AllOneLine (Expr.armLeaves (routes.map arm)) := by
    rw [Expr.armLeaves_eq]
    refine allOneLine_flatMap.mpr (List.forall_mem_map.mpr fun route hroute => ?_)
    obtain ⟨hnamed, hmodule, -⟩ := h route hroute
    have hpath : OneLine route.path := OneLine.append (by decide) hnamed.method
    simp +decide [arm, callOn, hpath, hmodule, oneLine_ident]
  have hall : AllOneLine (Expr.armLeaves (routes.map arm ++
      [("_", .call "Err" [.call "GatewayError::NotFound" [.method (.place "path") "to_string" []]])])) := by
    rw [Expr.armLeaves_eq, List.flatMap_append, ← Expr.armLeaves_eq]
    simp +decide [harms]
  simp +decide [dispatcher, Handler.requestParameters, Handler.outcome, Item.onLines_iff, Item.leaves,
    Item.attributes, Function.leaves, hbounds, hall, Ty.str, Ty.unit]

theorem onLines_chunk {paths : ModulePaths} (hpaths : paths.OnOneLine) (h : OnOneLine request routes) (mode : Mode) :
    (chunk mode paths request routes).OnLines := by
  unfold chunk
  split
  · exact Chunk.onLines_empty
  · refine ⟨hpaths.uses (List.forall_mem_nil _) ?_, List.forall_mem_cons.mpr ⟨onLines_table h, ?_⟩⟩
    · cases mode.dispatches <;> decide
    · split
      · exact List.forall_mem_singleton.mpr (onLines_dispatcher h)
      · exact List.forall_mem_nil _

end RouteTable

/-! ## Requests -/

/-- None of the paths of a run has a line break, nor has a name or an annotation of its request. -/
structure Generation.OnOneLine (run : Generation) : Prop where
  paths : run.paths.OnOneLine
  files : ∀ declared ∈ run.request.gatewayMethods, OneLine declared.1.name
  services : ∀ declared ∈ run.request.gatewayMethods, OneLine declared.2.1.name
  methods : ∀ declared ∈ run.request.gatewayMethods, OneLine declared.2.2.name
  inputs : ∀ declared ∈ run.request.gatewayMethods, OneLine declared.2.2.inputType
  outputs : ∀ declared ∈ run.request.gatewayMethods, OneLine declared.2.2.outputType
  annotations : ∀ declared ∈ run.request.gatewayMethods, OneLine declared.2.2.rawDirective
  fields : ∀ message ∈ run.request.messages, ∀ field ∈ message.fields, OneLine field.name

/-- None of the modules that claimed wrappers has a line break in its name. -/
def WrapperOwners.OnOneLine (owners : WrapperOwners) : Prop := ∀ entry ∈ owners.entries, OneLine entry.2

/-- What is written of a field in a table of fields has no line breaks. -/
theorem FieldPath.oneLine_of_mem {request : Request} {message : MessageDecl} (hmessage : message ∈ request.messages)
    (h : ∀ message ∈ request.messages, ∀ field ∈ message.fields, OneLine field.name) :
    ∀ path ∈ all request message, OneLine path.jsonPath ∧ OneLine path.id := by
  rw [all_eq]
  refine List.forall_mem_map.mpr fun chain hchain => ?_
  have hnames : ∀ place ∈ chain, OneLine place.field.name :=
    (mem_chains.mp hchain).forall_field (p := fun field => OneLine field.name)
      (List.forall_mem_cons.mpr ⟨h message hmessage, h⟩)
  exact ⟨oneLine_join (by decide) (List.forall_mem_map.mpr hnames),
    oneLine_join (by decide) (List.forall_mem_map.mpr fun place _ => Route.oneLine_number _)⟩

/-- The fields and the id that a plan shows are those of messages of the request. -/
theorem MethodPlan.fields_of_ofMethod {request : Request} {service : String} {classified : ClassifiedMethod}
    {first : Bool} {plan : MethodPlan} (h : ofMethod request service classified first = .ok plan) :
    ∃ updated : Option MessageDecl, (∀ message ∈ updated, message ∈ request.messages) ∧
      plan.fieldIds = (updated.elim [] fun message =>
        (FieldPath.all request message).map fun path => (path.jsonPath, path.id)) ∧
      plan.orgFieldId = updated.bind fun message => FieldPath.id? request message classified.directive.orgField := by
  unfold ofMethod at h
  dsimp only at h
  split at h
  · cases h
  · obtain rfl := Except.ok.inj h
    refine ⟨if updatesFields classified.method (request.message? classified.method.inputType) then
      request.message? classified.method.inputType else none, fun message hmessage => ?_, ?_, ?_⟩
    · split at hmessage
      · exact Request.message?_mem hmessage
      · cases hmessage
    · dsimp only
    · dsimp only

namespace Generation.OnOneLine

variable {run : Generation} (h : run.OnOneLine)
include h

theorem routes : RouteTable.OnOneLine run.request run.routes := by
  intro route hroute
  obtain ⟨⟨file, service, method⟩, hdeclared, rfl⟩ := List.mem_map.mp hroute
  refine ⟨⟨h.methods _ hdeclared, h.inputs _ hdeclared, h.fields⟩, ?_, h.services _ hdeclared⟩
  dsimp only
  exact file.oneLine_moduleName

/-- The parts of an annotation have no line breaks. -/
theorem directive {declared : FileDecl × ServiceDecl × MethodDecl} (hdeclared : declared ∈ run.request.gatewayMethods)
    {directive : Directive} (hparse : Directive.parse declared.2.2.rawDirective = .ok directive) :
    OneLine directive.resource ∧ OneLine directive.action := by
  have hraw := h.annotations declared hdeclared
  rw [← Directive.join_of_parse hparse] at hraw
  simp only [join, oneLine_append] at hraw
  exact ⟨hraw.1.1, hraw.2.1.1⟩

theorem planMethod {declared : FileDecl × ServiceDecl × MethodDecl} (hdeclared : declared ∈ run.request.gatewayMethods)
    {module : String} {start last : WrapperOwners} {plan : MethodPlan}
    (hplan : planMethod run.request module declared.2.1.name declared.2.2 start = (.ok plan, last))
    (howner : ∀ owner ∈ plan.wrapperModule, OneLine owner) : plan.OnOneLine := by
  obtain ⟨-, hof⟩ := planMethod_eq_ok hplan
  obtain ⟨classified, made, hclassify, hmake, -, rfl⟩ := planMethod_cases hplan
  have hfollows := MethodPlan.follows_of_ofMethod hmake
  have hclassified := ClassifiedMethod.isOf_of_classify hclassify
  obtain ⟨hresource, haction⟩ := h.directive hdeclared hclassified.directive
  have horg : ∀ path ∈ made.orgPath, OneLine path := by
    rw [hfollows.orgPath]
    split
    · exact fun path hpath => Option.some.inj hpath ▸ oneLine_fieldPath _
    · exact nofun
  have hprefixed : ∀ start, OneLine start → OneLine (made.orgPath.elim "\"\"" (start ++ ·)) := by
    intro start hstart
    have hquotes : OneLine "\"\"" := by decide
    cases hpath : made.orgPath with
    | none => exact hquotes
    | some path => exact hstart.append (horg path hpath)
  obtain ⟨updated, hupdated, hfields, hid⟩ := MethodPlan.fields_of_ofMethod hmake
  exact {
    service := hof.service ▸ h.services declared hdeclared
    method := hof.method ▸ h.methods declared hdeclared
    functionName := hof.functionName ▸ oneLine_ident _
    inputType := hof.inputType ▸ h.inputs declared hdeclared
    outputType := hof.outputType ▸ h.outputs declared hdeclared
    resource := hfollows.resource ▸ hresource
    action := hfollows.action ▸ haction
    wrapperModule := howner
    fieldIds := fun field hfield => by
      rw [hfields] at hfield
      cases updated with
      | none => cases hfield
      | some message =>
          obtain ⟨path, hpath, rfl⟩ := List.mem_map.mp hfield
          exact FieldPath.oneLine_of_mem (hupdated message rfl) h.fields path hpath
    inputOrg := hfollows.inputOrg ▸ hprefixed "&obj." (by decide)
    itemOrg := hfollows.itemOrg ▸ hprefixed "&res." (by decide)
    orgPath := horg
    requiredOrg := fun path hpath => by
      have hrequired : made.requiredOrg = some path := hpath
      rw [hfollows.requiredOrg] at hrequired
      obtain ⟨name, -, rfl⟩ := Option.map_eq_some_iff.mp hrequired
      exact oneLine_fieldPath name
    orgFieldId := fun id hsome => by
      have hsome : made.orgFieldId = some id := hsome
      obtain ⟨message, -, hmessage⟩ := Option.bind_eq_some_iff.mp (hid.symm.trans hsome)
      obtain ⟨fields, -, rfl⟩ := FieldPath.id?_eq_some_iff.mp hmessage
      exact oneLine_join (by decide) (List.forall_mem_map.mpr fun field _ => Route.oneLine_number _) }

theorem walk {owners after : WrapperOwners} {plans : List FilePlan} (hplan : run.plan owners = (.ok plans, after))
    (howners : owners.OnOneLine) : ∀ planned ∈ FilePlan.walk plans, planned.2.OnOneLine := by
  intro planned hplanned
  obtain ⟨declared, hdeclared, hmodule, start, last, hmade⟩ := exists_of_plan hplan hplanned
  refine h.planMethod hdeclared hmade ?_
  refine (plan_eq_ok hplan).claims.forall_told howners (fun other hother => ?_) planned hplanned
  obtain ⟨declared, -, hmodule, -⟩ := exists_of_plan hplan hother
  exact hmodule ▸ FileDecl.oneLine_moduleName _

/-- No part of a file that is not a test begins a line like a heading. -/
theorem parts {owners after : WrapperOwners} {plans : List FilePlan} (hmode : run.mode ≠ .test)
    (hplan : run.plan owners = (.ok plans, after)) (howners : owners.OnOneLine) {plan : FilePlan}
    (hmem : plan ∈ plans) :
    ∀ part ∈ run.parts plan, part.OnLines := by
  have hplanned := plan_eq_ok hplan
  intro part hpart
  obtain ⟨service, hservice, hform⟩ := run.mem_parts.mp hpart
  have hmethods : ∀ method ∈ service.methods, method.OnOneLine := fun method hmethod =>
    h.walk hplan howners (plan.module, method)
      (List.mem_flatMap.mpr ⟨plan, hmem, FilePlan.mem_methods.mpr ⟨rfl, service, hservice, hmethod⟩⟩)
  rcases hform with rfl | ⟨method, hmethod, rfl⟩ | rfl
  · cases hrun : run.mode with
    | server =>
        have hname : OneLine service.name := by
          obtain ⟨file, hfile, hof⟩ := exists_of_forall₂ hplanned.files.flip hmem
          obtain ⟨declared, hdeclared, hserviceOf⟩ := exists_of_forall₂ hof.services.flip hservice
          obtain ⟨method, hmethod⟩ := Request.exists_gatewayMethod hfile hdeclared
          exact hserviceOf.name ▸ h.services _ hmethod
        exact Handler.onLines_backendTrait h.paths hname hmethods
    | api | client | test | testHelper => exact Chunk.onLines_empty
  · have hplain := hmethods method hmethod
    cases hrun : run.mode with
    | server => exact Handler.onLines_chunk h.paths hplain
    | api => exact Wrapper.onLines_chunk h.paths hplain
    | client => exact Binding.onLines_chunk h.paths hplain
    | testHelper => exact TestHelper.onLines_chunk h.paths hplain
    | test => exact absurd hrun hmode
  · cases hrun : run.mode with
    | test => exact absurd hrun hmode
    | server | api | client | testHelper => exact Chunk.onLines_empty

/-- The headings of a file that is no test are its imports and those of its declarations. -/
theorem headings_file {owners after : WrapperOwners} {plans : List FilePlan} (hmode : run.mode ≠ .test)
    (hplan : run.plan owners = (.ok plans, after)) (howners : owners.OnOneLine) {file : SourceFile}
    (hfile : file ∈ run.filesOf plans) :
    headings file.text = file.chunk.imports.entries.map (fun entry => (Imports.statement entry.1 entry.2).toList) ++
      (file.chunk.items.filterMap Item.heading?).map String.toList := by
  obtain ⟨plan, hmem, head, hhead, rfl⟩ := run.exists_plan hfile
  obtain ⟨declared, hdeclared, hof⟩ := exists_of_forall₂ (plan_eq_ok hplan).files.flip hmem
  obtain ⟨service, method, hgateway⟩ := Request.exists_gatewayMethod_of_file hdeclared
  have hsource : OneLine plan.source := hof.source ▸ h.files _ hgateway
  have htop : head.OnLines := by
    rcases hhead with rfl | rfl
    · exact RouteTable.onLines_chunk h.paths h.routes run.mode
    · exact Chunk.onLines_empty
  refine SourceFile.headings_text hsource (htop.append ?_)
  rw [servicesChunk_eq]
  exact Chunk.onLines_concat (h.parts hmode hplan howners hmem)

section

variable {owners after : WrapperOwners} {plans : List FilePlan} (hmode : run.mode ≠ .test)
  (hplan : run.plan owners = (.ok plans, after)) (howners : owners.OnOneLine) {file : SourceFile}
  (hfile : file ∈ run.filesOf plans)
include hmode hplan howners hfile

/-- The lines of a file that begin like a kind of declaration are the headings of such declarations. -/
theorem declarationLines_eq {start : String} (hstart : start ∈ Item.publicWords) :
    linesStarting start file.text = file.chunk.items.flatMap fun item =>
      if item.firstWords = start then item.heading?.toList.map String.toList else [] := by
  have hword : ∀ word ∈ Item.publicWords, isHeading word.toList = true ∧
      ¬word.toList <+: "use ".toList ∧ ¬"use ".toList <+: word.toList := by decide
  have himports : (file.chunk.imports.entries.map fun entry => (Imports.statement entry.1 entry.2).toList).filter
      (start.toList.isPrefixOf ·) = [] := by
    refine List.filter_eq_nil_iff.mpr (List.forall_mem_map.mpr fun entry _ => Bool.not_eq_true _ ▸ ?_)
    exact Imports.not_starts_statement (hword start hstart).2 _ _
  rw [linesStarting_eq (hword start hstart).1, h.headings_file hmode hplan howners hfile, List.filter_append, himports,
    List.nil_append]
  simp only [List.filterMap_eq_flatMap_toList, List.map_flatMap, List.filter_flatMap, Item.filter_heading hstart]

/-- The lines of a file that begin like imports are its imports. -/
theorem useLines_eq : linesStarting "use " file.text =
    file.chunk.imports.entries.map fun entry => (Imports.statement entry.1 entry.2).toList := by
  have hword : ∀ word ∈ Item.publicWords, ¬"use ".toList <+: word.toList ∧ ¬word.toList <+: "use ".toList := by
    decide
  have hdeclared : ((file.chunk.items.filterMap Item.heading?).map String.toList).filter
      ("use ".toList.isPrefixOf ·) = [] := by
    refine List.filter_eq_nil_iff.mpr (List.forall_mem_map.mpr fun heading hheading => Bool.not_eq_true _ ▸ ?_)
    obtain ⟨item, -, hitem⟩ := List.mem_filterMap.mp hheading
    obtain ⟨hopening, rest, rfl⟩ := Item.exists_heading hitem
    exact isPrefixOf_append (hword _ hopening) rest
  rw [linesStarting_eq (by decide), h.headings_file hmode hplan howners hfile, List.filter_append, hdeclared,
    List.append_nil]
  exact List.filter_eq_self.mpr (List.forall_mem_map.mpr fun entry _ => Imports.starts_statement _ _)

end

end Generation.OnOneLine

/-- The request of the widget services has no line breaks in its names and annotations. -/
theorem Generation.onOneLine_widgets (flags : ModeFlags) : (ofRequest Widgets.request flags .standard).OnOneLine := by
  have hpaths : ModulePaths.standard.OnOneLine := by constructor <;> decide +kernel
  have hmethods : ∀ declared ∈ Widgets.request.gatewayMethods, AllOneLine [declared.1.name, declared.2.1.name,
      declared.2.2.name, declared.2.2.inputType, declared.2.2.outputType, declared.2.2.rawDirective] := by
    unfold AllOneLine
    decide +kernel
  have hfields : ∀ message ∈ Widgets.request.messages, ∀ field ∈ message.fields, OneLine field.name := by
    decide +kernel
  exact {
    paths := hpaths
    files := fun declared hdeclared => hmethods declared hdeclared _ (by simp)
    services := fun declared hdeclared => hmethods declared hdeclared _ (by simp)
    methods := fun declared hdeclared => hmethods declared hdeclared _ (by simp)
    inputs := fun declared hdeclared => hmethods declared hdeclared _ (by simp)
    outputs := fun declared hdeclared => hmethods declared hdeclared _ (by simp)
    annotations := fun declared hdeclared => hmethods declared hdeclared _ (by simp)
    fields := hfields }

end RegionGateway
