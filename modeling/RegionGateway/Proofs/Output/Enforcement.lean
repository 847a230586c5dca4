import RegionGateway.Proofs.Interface.FieldChains
import RegionGateway.Proofs.Output.HandlerCalls

/-!
# Enforcement in handlers

The handler of a method calls the backend once, and the enforcer as its directive says: not at all if
enforcement is turned off, about every item of a streamed view, and about the input in every other case,
before the backend is called (`enforced`).
-/

namespace RegionGateway

open Rust
open Rust.TokenTree (word mark)

/-! ## Paths and ids of fields -/

namespace Rust

theorem isClean_append {a b : String} : IsClean (a ++ b) ↔ IsClean a ∧ IsClean b := by
  simp only [IsClean, String.toList_append, List.mem_append, not_or]
  exact and_and_and_comm

theorem isClean_join {glue : String} {parts : List String} (hglue : IsClean glue)
    (h : ∀ part ∈ parts, IsClean part) : IsClean (Text.join glue parts) := by
  induction parts with
  | nil => exact ⟨List.not_mem_nil, List.not_mem_nil⟩
  | cons part parts ih =>
      obtain ⟨hpart, hparts⟩ := List.forall_mem_cons.mp h
      by_cases hnil : parts = []
      · subst hnil
        exact hpart
      · rw [Text.join_cons hnil]
        exact isClean_append.mpr ⟨isClean_append.mpr ⟨hpart, hglue⟩, ih hparts⟩

theorem IsWord.isClean {text : String} (h : IsWord text) : IsClean text := by
  refine ⟨fun hmem => ?_, fun hmem => ?_⟩
  · exact absurd (h.2 _ hmem) (by decide)
  · exact absurd (h.2 _ hmem) (by decide)

end Rust

namespace FieldPath

/-- A path and its id may stand between quotes as they are. -/
def IsClean (path : FieldPath) : Prop := Rust.IsClean path.jsonPath ∧ Rust.IsClean path.id

theorem isClean_of_mem_all {request : Request} {message : MessageDecl} (hdeclared : message ∈ request.messages)
    (hnames : ∀ message ∈ request.messages, ∀ field ∈ message.fields, IsWord field.name) {path : FieldPath}
    (hpath : path ∈ all request message) : path.IsClean := by
  rw [all_eq] at hpath
  obtain ⟨chain, hchain, rfl⟩ := List.mem_map.mp hpath
  have hwords : ∀ place ∈ chain, IsWord place.field.name := by
    refine (mem_chains.mp hchain).forall_field (p := fun field => IsWord field.name) ?_
    exact List.forall_mem_cons.mpr ⟨hnames message hdeclared, hnames⟩
  constructor
  · refine isClean_join (by decide) ?_
    rw [List.forall_mem_map]
    exact fun place hplace => (hwords place hplace).isClean
  · refine isClean_join (by decide) ?_
    rw [List.forall_mem_map]
    exact fun place _ => (isWord_decimal place.field.number.toNat).isClean

end FieldPath

/-- A plan lists fields that are reachable from its declared input. -/
theorem MethodPlan.exists_of_mem_fieldIds {request : Request} {service : String} {classified : ClassifiedMethod}
    {first : Bool} {plan : MethodPlan} (h : ofMethod request service classified first = .ok plan)
    {entry : String × String} (hentry : entry ∈ plan.fieldIds) :
    ∃ message ∈ request.messages, ∃ path ∈ FieldPath.all request message, (path.jsonPath, path.id) = entry := by
  unfold ofMethod at h
  dsimp only at h
  split at h
  · cases h
  · obtain rfl := Except.ok.inj h
    dsimp only at hentry
    split at hentry
    · cases hmessage : request.message? classified.method.inputType with
      | none =>
          rw [hmessage] at hentry
          cases hentry
      | some message =>
          rw [hmessage] at hentry
          obtain ⟨path, hpath, rfl⟩ := List.mem_map.mp hentry
          exact ⟨message, Request.message?_mem hmessage, path, hpath, rfl⟩
    · cases hentry

namespace Handler

/-- The names in a dotted path. -/
def pathNames (path : String) : List String := (Text.split '.' path).map ident

/-- The names in the path of the organization field of a directive, if it has such a field. -/
def orgNames (directive : Directive) : Option (List String) :=
  if directive.orgField = "" then none else some (pathNames directive.orgField)

/-- The names that a method is declared with are identifiers, those in its paths and those of fields included,
and what its directive says about the enforcer has neither quotes nor backslashes. -/
structure Identifiers (paths : ModulePaths) (request : Request) (service : String) (method : MethodDecl)
    (directive : Directive) : Prop where
  serviceName : IsWord service
  methodName : IsWord method.name
  inputType : IsWord method.inputType
  outputType : IsWord method.outputType
  fields : ∀ message ∈ request.messages, ∀ field ∈ message.fields, IsWord field.name
  wrappers : IsName (localName paths.wrappers)
  messages : IsName (localName paths.messages)
  resource : IsClean directive.resource
  action : IsClean directive.action
  orgField : directive.orgField ≠ "" → ∀ name ∈ Text.split '.' directive.orgField, IsWord name
  requiresOrg : ∀ path ∈ method.requiresOrg, path ≠ "" → ∀ name ∈ Text.split '.' path, IsWord name

variable {paths : ModulePaths} {request : Request} {service : String} {classified : ClassifiedMethod}
  {first : Bool} {plan : MethodPlan}

theorem Identifiers.named (h : Identifiers paths request service classified.method classified.directive)
    (hplan : MethodPlan.ofMethod request service classified first = .ok plan) :
    Named paths plan (if classified.directive.hasOrg then orgNames classified.directive else none)
      (classified.method.requiredOrg?.map pathNames) := by
  have hof := (MethodPlan.ofMethod_eq_ok hplan).1
  have hfollows := MethodPlan.follows_of_ofMethod hplan
  have hname := isName_ident h.methodName
  constructor
  case service => rw [hof.service]; exact h.serviceName
  case method => rw [hof.method]; exact h.methodName
  case functionName => rw [hof.functionName]; exact hname
  case inputType => rw [hof.inputType]; exact h.inputType
  case outputType => rw [hof.outputType]; exact h.outputType
  case wrappers => exact h.wrappers
  case messages => exact h.messages
  case resource => rw [hfollows.resource]; exact h.resource
  case action => rw [hfollows.action]; exact h.action
  case orgNames =>
    unfold orgNames
    split
    · split
      · exact nofun
      · next hne =>
          rintro _ ⟨⟩
          exact arePathNames_fieldPath (h.orgField hne)
    · exact nofun
  case orgPath =>
    rw [hfollows.orgPath]
    split
    · next horg =>
        rw [orgNames, if_neg (Directive.hasOrg_iff.mp horg).1]
        rfl
    · rfl
  case inputOrg => exact hfollows.inputOrg
  case itemOrg => exact hfollows.itemOrg
  case requiredNames =>
    intro names hnames
    obtain ⟨path, hpath, rfl⟩ := Option.map_eq_some_iff.mp hnames
    obtain ⟨hdeclared, hkept⟩ := Option.filter_eq_some_iff.mp hpath
    simp only [Bool.and_eq_true, bne_iff_ne] at hkept
    exact arePathNames_fieldPath (h.requiresOrg path hdeclared hkept.1)
  case requiredOrg =>
    rw [hfollows.requiredOrg, Option.map_map]
    rfl
  case fieldIds =>
    intro entry hentry
    obtain ⟨message, hdeclared, path, hpath, rfl⟩ := MethodPlan.exists_of_mem_fieldIds hplan hentry
    exact FieldPath.isClean_of_mem_all hdeclared h.fields hpath

theorem requiredOrg?_eq (method : MethodDecl) :
    method.requiredOrg? = method.requiresOrg.filter fun path => path ≠ "" ∧ path ≠ "none" := by
  have hkept : (fun path : String => path != "" && path != "none") =
      fun path => decide (path ≠ "" ∧ path ≠ "none") := by
    funext path
    rw [Bool.eq_iff_iff]
    simp
  rw [MethodDecl.requiredOrg?, unlessNone, hkept]

/-- Where a handler asks the enforcer, by the declaration of its method. -/
theorem check_eq {method : MethodDecl} (hmethod : classified.IsOf method) (hfollows : plan.Follows classified) :
    plan.check =
      if classified.directive.orgField = Directive.skipMarker then .off
      else if classified.directive.action = Directive.viewAction ∧ Verb.ofName method.name = .view ∧
          method.serverStreaming = true then .items
      else .input := by
  have hskips : plan.skipsEnforcement = true ↔ classified.directive.orgField = Directive.skipMarker := by
    rw [hfollows.skips, Directive.skipsEnforcement_iff]
  have hview : plan.streamsView = true ↔ classified.directive.action = Directive.viewAction ∧
      Verb.ofName method.name = .view ∧ method.serverStreaming = true := by
    rw [hfollows.streamsView, hmethod.streamsView, Directive.isView]
    simp [and_assoc]
  unfold MethodPlan.check
  simp only [hskips, hview]

theorem orgNames_eq {directive : Directive} (h : directive.orgField ≠ Directive.skipMarker) :
    (if directive.hasOrg then orgNames directive else none) = orgNames directive := by
  split
  · rfl
  · next horg =>
      have hempty : directive.orgField = "" := by
        by_contra hne
        exact horg (Directive.hasOrg_iff.mpr ⟨hne, h⟩)
      rw [orgNames, if_pos hempty]

theorem itemName_eq (hfollows : plan.Follows classified) (hcheck : plan.check = .items)
    (h : classified.directive.orgField ≠ Directive.skipMarker) :
    itemName plan = if classified.directive.orgField = "" then "_res" else "res" := by
  unfold itemName
  rw [hfollows.orgPath, hcheck]
  by_cases hempty : classified.directive.orgField = ""
  · have horg : classified.directive.hasOrg ≠ true := fun horg => (Directive.hasOrg_iff.mp horg).1 hempty
    rw [if_neg horg, if_pos hempty]
    rfl
  · rw [if_pos (Directive.hasOrg_iff.mpr ⟨hempty, h⟩), if_neg hempty]
    rfl

/-- **Every handler asks the enforcer as its directive says.** For all modules and every method that is
classified and planned, if names are identifiers: the text of its handler is read, and it has exactly one call of
the backend. If enforcement is turned off, the enforcer is not called. In a streamed view it is called once, about
the organization of the item, in the filter passed to `serve_stream`. In every other case it is called under the
guard and before the backend: first about the organization that must exist, if the method names one, and then
about that of the input, which is refused unless the enforcer agrees. -/
theorem enforced {method : MethodDecl} {input : Option MessageDecl}
    (hclassify : classify method input = .ok classified)
    (hplan : MethodPlan.ofMethod request service classified first = .ok plan)
    (hnames : Identifiers paths request service method classified.directive) :
    ∃ trees, Rust.read (chunk paths plan).text = some trees ∧ methodCalls trees =
      let directive := classified.directive
      let called := backendAnswer (ident method.name) method.serverStreaming
      if directive.orgField = Directive.skipMarker then [called]
      else if directive.action = Directive.viewAction ∧ Verb.ofName method.name = .view ∧
          method.serverStreaming = true then
        [called, itemQuestion (if directive.orgField = "" then "_res" else "res")
          [word (localName paths.messages), mark ':', mark ':', word method.outputType]
          (orgTrees "res" (orgNames directive)) directive.resource directive.action]
      else
        ((method.requiresOrg.filter fun path => path ≠ "" ∧ path ≠ "none").map fun path =>
          existenceQuestion (pathNames path)).toList ++
        [inputQuestion (orgTrees "obj" (orgNames directive)) directive.resource directive.action, called] := by
  have hmethod := ClassifiedMethod.isOf_of_classify hclassify
  have hof := (MethodPlan.ofMethod_eq_ok hplan).1
  have hfollows := MethodPlan.follows_of_ofMethod hplan
  obtain rfl := hmethod.method
  have hstreams : plan.streamsView = true → plan.streams = true := by
    rw [hfollows.streamsView, hof.streams]
    exact hmethod.streams
  refine ⟨_, read_chunk (hnames.named hplan), ?_⟩
  rw [methodCalls_trees (hnames.named hplan) hstreams, hof.functionName, hof.streams, hfollows.resource,
    hfollows.action]
  -- the cases of the check are those of the directive, so only the branch taken is left of each side
  have hcheck := check_eq hmethod hfollows
  dsimp only
  by_cases hskip : classified.directive.orgField = Directive.skipMarker
  · rw [if_pos hskip] at hcheck ⊢
    rw [hcheck]
  · rw [if_neg hskip] at hcheck ⊢
    rw [orgNames_eq hskip]
    by_cases hview : classified.directive.action = Directive.viewAction ∧
        Verb.ofName classified.method.name = .view ∧ classified.method.serverStreaming = true
    · rw [if_pos hview] at hcheck ⊢
      rw [hcheck, itemName_eq hfollows hcheck hskip, itemType, hof.outputType]
    · rw [if_neg hview] at hcheck ⊢
      rw [hcheck, ← requiredOrg?_eq, Option.map_map]
      rfl

/-- A method that creates widgets for an owner that must exist. -/
def creation : MethodDecl :=
  ⟨"CreateWidget", "Widget", "Result", false, false, some "widget,ActionManage,key.organization", some "owner",
    none⟩

def createdWidget : MessageDecl :=
  ⟨"Widget", [⟨"key", 2, some "WidgetKey"⟩, ⟨"owner", 3, none⟩], false, false, none⟩

def creations : Request := ⟨[⟨"widget.proto", [⟨"WidgetApi", [creation]⟩], [createdWidget]⟩], [], none⟩

/-- The handler of that method asks about the owner and then about the organization of the widget. -/
theorem enforced_creation : ∃ classified plan,
    classify creation (some createdWidget) = .ok classified ∧
    MethodPlan.ofMethod creations "WidgetApi" classified true = .ok plan ∧
    Identifiers .standard creations "WidgetApi" creation classified.directive ∧
    ∃ trees, Rust.read (chunk .standard plan).text = some trees ∧ methodCalls trees =
      [existenceQuestion ["owner"], inputQuestion (orgTrees "obj" (some ["key", "organization"])) "widget"
        "ActionManage", backendAnswer "create_widget" false] := by
  have hparse : Directive.parse creation.rawDirective = .ok ⟨"widget", "ActionManage", "key.organization"⟩ := by
    decide +kernel
  have hclassify : classify creation (some createdWidget) = .ok ⟨creation,
      ⟨"widget", "ActionManage", "key.organization"⟩, Verb.ofName "CreateWidget", false⟩ := by
    show ((Directive.parse creation.rawDirective).bind fun directive => _) = _
    rw [hparse]
    rfl
  obtain ⟨plan, hplan⟩ := MethodPlan.exists_ofMethod creations "WidgetApi" ⟨creation,
    ⟨"widget", "ActionManage", "key.organization"⟩, Verb.ofName "CreateWidget", false⟩ true
    (show "Widget" ≠ "" by decide) (show "Result" ≠ "" by decide)
  have hnames : Identifiers .standard creations "WidgetApi" creation
      ⟨"widget", "ActionManage", "key.organization"⟩ := by
    constructor
    case wrappers => exact isName_word (by decide +kernel)
    case messages => exact isName_word (by decide +kernel)
    case requiresOrg =>
      rintro _ ⟨⟩
      decide +kernel
    all_goals decide +kernel
  obtain ⟨trees, hread, hcalls⟩ := enforced hclassify hplan hnames
  refine ⟨_, plan, hclassify, hplan, hnames, trees, hread, hcalls.trans ?_⟩
  have hname : ident creation.name = "create_widget" := by decide +kernel
  have horg : orgNames ⟨"widget", "ActionManage", "key.organization"⟩ = some ["key", "organization"] := by
    decide +kernel
  have howner : pathNames "owner" = ["owner"] := by decide +kernel
  have hrequired : creation.requiresOrg.filter (fun path => path ≠ "" ∧ path ≠ "none") = some "owner" := by
    decide +kernel
  dsimp only
  rw [if_neg (by decide), if_neg (by decide), hname, horg, hrequired, Option.map_some, howner]
  rfl

end Handler

end RegionGateway
