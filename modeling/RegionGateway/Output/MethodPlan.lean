import RegionGateway.Interface.Directive
import RegionGateway.Interface.FieldPath

/-!
# Plans of gateway methods

What generated code says about one gateway method, whatever the mode: names, the enforcement check
and the update mask. All kinds of output are printed from the same plan, and `MethodPlan.check` says
where the enforcer is asked.
-/

namespace RegionGateway

/-- Why a classified method cannot be rendered. -/
inductive RenderError where
  /-- The input or the output type has no name. -/
  | unnamedType (method : String)
  deriving DecidableEq

/-- The wording of a failure to render. -/
def RenderError.message : RenderError → String
  | .unnamedType method =>
    "failed to render " ++ method ++ ": input and output types must be named"

/-- Where a handler asks the enforcer. -/
inductive Check where
  /-- Nowhere. -/
  | off
  /-- Before the backend is called, about the input. -/
  | input
  /-- For every streamed item, about the item. -/
  | items
  deriving DecidableEq

/-- What generated code says about a gateway method. -/
structure MethodPlan where
  service : String
  method : String
  /-- The Rust name of the method. -/
  functionName : String
  inputType : String
  outputType : String
  /-- The resource that the enforcer is asked about. -/
  resource : String
  /-- The action that the enforcer is asked about. -/
  action : String
  /-- The path of the organization field, as declared. -/
  orgField : String
  /-- Whether this method is the first with its input type, so that it declares the wrapper. -/
  declaresWrapper : Bool
  /-- The other module that declares the wrapper. -/
  wrapperModule : Option String
  /-- The paths and ids of the fields that an update may set. -/
  fieldIds : List (String × String)
  /-- Whether responses are streamed. -/
  streams : Bool
  /-- Whether a view is streamed, whose items are filtered for the caller. -/
  streamsView : Bool
  skipsEnforcement : Bool
  /-- The expression for the organization of the input. -/
  inputOrg : String
  /-- The expression for the organization of a streamed item. -/
  itemOrg : String
  /-- The access path of the organization field, if there is that field. -/
  orgPath : Option String
  /-- The access path of the field naming an organization that must exist. -/
  requiredOrg : Option String
  /-- Whether the input carries the list of fields used for partial updates. -/
  hasFields : Bool
  /-- Whether the method updates the fields listed in its input. -/
  setsFields : Bool
  /-- The id of the organization field, for methods that update fields. -/
  orgFieldId : Option String
  verb : Verb
  deriving DecidableEq

namespace MethodPlan

/-- The name of the wrapper of the input type. -/
def wrapper (plan : MethodPlan) : String := wrapperName plan.inputType

/-- The field of the wrapper that holds the input. -/
def wrapperField (plan : MethodPlan) : String := Rust.ident plan.inputType

/-- Where the handler asks the enforcer. -/
def check (plan : MethodPlan) : Check :=
  if plan.skipsEnforcement then .off
  else if plan.streamsView then .items
  else .input

/-- Whether the handler derives the list of updated fields from the body. -/
def derivesMask (plan : MethodPlan) : Bool := plan.setsFields && !plan.fieldIds.isEmpty

/-- The constant that holds paths and ids of the fields an update may set: the function's name in
upper case, without the mark of a raw identifier. -/
def fieldIdsName (plan : MethodPlan) : String :=
  Text.upper (Rust.withoutRawMark plan.functionName) ++ "_FIELD_IDS"

/-- Whether a method updates the fields listed in its input: it is named for that, and the input has
such a list. -/
def updatesFields (method : MethodDecl) (input : Option MessageDecl) : Bool :=
  input.any (·.hasFields) && Text.startsWith ("Update" ++ method.inputType) method.name

/-- The plan of a classified method. Nothing is known yet about the module that declares its wrapper
if `declaresWrapper` is false. -/
def ofMethod (request : Request) (service : String) (classified : ClassifiedMethod)
    (declaresWrapper : Bool) : Except RenderError MethodPlan :=
  let method := classified.method
  let directive := classified.directive
  if method.inputType = "" ∨ method.outputType = "" then .error (.unnamedType method.name)
  else
    let input := request.message? method.inputType
    let setsFields := updatesFields method input
    let orgPath := if directive.hasOrg then some (Rust.fieldPath directive.orgField) else none
    let updated := if setsFields then input else none
    .ok {
      service := service
      method := method.name
      functionName := Rust.ident method.name
      inputType := method.inputType
      outputType := method.outputType
      resource := directive.resource
      action := directive.action
      orgField := directive.orgField
      declaresWrapper := declaresWrapper
      wrapperModule := none
      fieldIds := updated.elim [] fun message =>
        (FieldPath.all request message).map fun path => (path.jsonPath, path.id)
      streams := method.serverStreaming
      streamsView := classified.streamsView
      skipsEnforcement := directive.skipsEnforcement
      inputOrg := orgPath.elim "\"\"" ("&obj." ++ ·)
      itemOrg := orgPath.elim "\"\"" ("&res." ++ ·)
      orgPath := orgPath
      requiredOrg := method.requiredOrg?.map Rust.fieldPath
      hasFields := input.any (·.hasFields)
      setsFields := setsFields
      orgFieldId := updated.bind fun message => FieldPath.id? request message directive.orgField
      verb := classified.verb
    }

end MethodPlan

/-- What is generated for one service. -/
structure ServicePlan where
  name : String
  /-- The plans of its gateway methods, in declaration order. -/
  methods : List MethodPlan
  deriving DecidableEq

end RegionGateway
