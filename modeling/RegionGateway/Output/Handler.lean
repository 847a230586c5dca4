import RegionGateway.Output.Chunk
import RegionGateway.Output.MethodPlan

/-!
# Handlers and backend traits

A service becomes a trait that its backend implements, a method becomes a handler: it decodes the
wrapper, takes the region from it, derives the list of updated fields where the method has one, asks
the enforcer where the plan says so, calls the backend and replies. An internal caller is not checked.
-/

namespace RegionGateway

open Rust

namespace Handler

/-- What a backend method yields. -/
def backendResult (paths : ModulePaths) (plan : MethodPlan) : Ty :=
  let output := paths.messageType plan.outputType
  let value := if plan.streams then .apply "BackendStream" [output] else output
  .apply "Result" [value, .name "GatewayError"]

/-- The backend method behind a handler. -/
def backendMethod (paths : ModulePaths) (plan : MethodPlan) : Signature :=
  ⟨"`" ++ plan.method ++ "`", plan.functionName,
    [("rc", .borrowed false (.name "RegionContext")),
      ("obj", .borrowed false (paths.messageType plan.inputType))],
    backendResult paths plan⟩

/-- The trait that the backend of a service implements. -/
def backendTrait (paths : ModulePaths) (service : ServicePlan) : Chunk :=
  let streams := if service.methods.any (·.streams) then ["BackendStream"] else []
  ⟨paths.uses [paths.messages] (["async_trait", "GatewayError", "RegionContext"] ++ streams),
    [.backend ("Backend of the `" ++ service.name ++ "` service.") service.name
      (service.methods.map (backendMethod paths))]⟩

/-- The table of the fields that an update may set. -/
def fieldIdsTable (plan : MethodPlan) : Item :=
  .table ("Settable fields of `" ++ plan.inputType ++ "` by JSON path, for `" ++ plan.method ++ "`.")
    false plan.fieldIdsName (.tuple [.str, .str])
    (plan.fieldIds.map fun (path, id) => ([], .pair (.literal path) (.literal id)))

/-- The question to the enforcer about an organization. -/
def question (plan : MethodPlan) (org : String) : Expr :=
  .method (.place "enforcer") "enforce"
    [.place "&rc.username", .place org, .literal plan.resource, .literal plan.action]

/-- Returns with an error. -/
def refuse (error : Expr) : Stmt := .giveBack (.call "Err" [error])

/-- Refuses an input whose required organization does not exist. -/
def requireOrg (path : String) : Stmt :=
  let org := "obj." ++ path
  .whenTrue (.negate (.method (.place "enforcer") "org_exists" [.borrow false (.place org)]))
    [refuse (.call "GatewayError::OrgNotFound" [.method (.place org) "to_string" []])] []

/-- The check of the input. -/
def inputCheck (plan : MethodPlan) : List Stmt :=
  match plan.check with
  | .input =>
    [.whenTrue (.negate (.place "rc.skip_authz"))
      ((plan.requiredOrg.map requireOrg).toList ++
        [.whenTrue (.negate (question plan plan.inputOrg))
          [refuse (.place "GatewayError::Forbidden")] []]) []]
  | _ => []

/-- The condition under which a streamed item is sent. -/
def itemFilter (plan : MethodPlan) : Expr :=
  match plan.check with
  | .items => .either (.place "rc.skip_authz") (question plan plan.itemOrg)
  | _ => .place "true"

/-- The name of the item in the filter; it begins with an underscore where the filter does not look
at the item. -/
def itemName (plan : MethodPlan) : String :=
  if plan.check = .items ∧ plan.orgPath.isSome then "res" else "_res"

/-- The call of the backend. -/
def backendCall (plan : MethodPlan) : Expr :=
  .await (.method (.place "backend") plan.functionName [.place "&rc", .place "obj"])

/-- The call of the backend and the reply. -/
def serve (paths : ModulePaths) (plan : MethodPlan) : List Stmt :=
  if plan.streams then
    [.value (.awaitBelow (.call "serve_stream" [.place "sink", backendCall plan,
      .closure (itemName plan) (.borrowed false (paths.messageType plan.outputType))
        (itemFilter plan)]))]
  else
    [.bind "resp" none (.propagate (backendCall plan)), .value (callOn "reply_json" ["sink", "&resp"])]

/-- The body of a handler. -/
def body (paths : ModulePaths) (plan : MethodPlan) : List Stmt :=
  [.bind (if plan.derivesMask then "mut input" else "input")
      (some (.inModule (localName paths.wrappers) plan.wrapper))
      (.propagate (callOn "decode_request" ["body"])),
    .assign "rc.region" (.method (.place "input.region") "clone" [])] ++
  (if plan.derivesMask then
    [.run (.propagate (callOn "set_region_obj_fields" ["body", "&mut input", plan.fieldIdsName]))]
   else []) ++
  [.bind "obj" none (.borrow false (.place ("input." ++ plan.wrapperField)))] ++
  inputCheck plan ++ serve paths plan

/-- The parameters of a handler after the first ones. -/
def requestParameters : Parameters :=
  [("body", .borrowed false (.slice (.name "u8"))), ("sink", .borrowed true (.dynamic "ResponseSink"))]

/-- What a handler gives back. -/
def outcome : Ty := .apply "Result" [.unit, .name "GatewayError"]

/-- The handler of a method. -/
def function (paths : ModulePaths) (plan : MethodPlan) : Function where
  docs := ["Handle `" ++ plan.method ++ "`."]
  attributes := []
  name := plan.functionName
  parameters :=
    [("backend", .borrowed false (.name "B")),
      (if plan.check = .off then "_enforcer" else "enforcer", .borrowed false (.dynamic "Enforcer")),
      ("mut rc", .name "RegionContext")] ++ requestParameters
  result := some outcome
  bounds := some [plan.service]
  body := body paths plan

/-- The handler of a method, with the table of the fields it may set. -/
def chunk (paths : ModulePaths) (plan : MethodPlan) : Chunk :=
  ⟨paths.uses [paths.wrappers, paths.messages]
      (["decode_request", "GatewayError", "RegionContext", "Enforcer", "ResponseSink",
        if plan.streams then "serve_stream" else "reply_json"] ++
        if plan.derivesMask then ["set_region_obj_fields"] else []),
    (if plan.derivesMask then [fieldIdsTable plan] else []) ++ [.function (function paths plan)]⟩

end Handler

end RegionGateway
