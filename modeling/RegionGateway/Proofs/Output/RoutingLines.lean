import RegionGateway.Output.RouteTable
import RegionGateway.Proofs.Text.LineStarts

/-!
# The lines of the route table, the dispatcher and the handlers

What these declarations look like, line by line: the rows of the table below the comments of their routes
(`table_lines`), the signature, the bounds and the arms of the dispatcher (`dispatcher_lines`), the signature and the
bound of a handler (`function_lines`), the methods of a trait (`backendTrait_lines`).
-/

namespace RegionGateway

open Rust Text

/-! ## The route table -/

namespace Route

/-- The comment of a route, as it stands in the table. -/
def commentLines (request : Request) (route : Route) : List String :=
  (route.documentation request).map fun line => if line = "" then "    //" else "    // " ++ line

/-- The row of a route. -/
def rowLines (route : Route) : List String := [
  "    ControllerRoute \x7b",
  "        service: \"" ++ route.service ++ "\",",
  "        method: \"" ++ route.method ++ "\",",
  "        path: \"" ++ route.path ++ "\",",
  "        input: \"" ++ route.inputType ++ "\",",
  "        streaming: " ++ (if route.streaming then "true" else "false") ++ ",",
  "    \x7d,"]

theorem block_commentLines (request : Request) (route : Route) :
    block (route.commentLines request) = join "" ((route.documentation request).map commentLine) := by
  rw [block, commentLines, List.map_map]
  refine congrArg _ (List.map_congr_left fun line _ => ?_)
  rw [Function.comp_apply, commentLine]
  split
  · rfl
  · rfl

theorem block_rowLines (route : Route) : block route.rowLines = "    " ++ route.entry.text 1 ++ ",\n" := by
  have hone : indent 1 = "    " := rfl
  have htwo : indent 2 = "        " := rfl
  have hopen : " \x7b\n" = " \x7b" ++ "\n" := rfl
  have hstart : "    ControllerRoute \x7b" = "    " ++ ("ControllerRoute" ++ " \x7b") := rfl
  have hservice : "        service: \"" = "        " ++ ("service" ++ (": " ++ "\"")) := rfl
  have hmethod : "        method: \"" = "        " ++ ("method" ++ (": " ++ "\"")) := rfl
  have hpath : "        path: \"" = "        " ++ ("path" ++ (": " ++ "\"")) := rfl
  have hinput : "        input: \"" = "        " ++ ("input" ++ (": " ++ "\"")) := rfl
  have hstreaming : "        streaming: " = "        " ++ ("streaming" ++ ": ") := rfl
  have hquote : "\"," = "\"" ++ "," := rfl
  have hcomma : ",\n" = "," ++ "\n" := rfl
  have hclose : "    \x7d," = "    " ++ ("\x7d" ++ ",") := rfl
  simp only [rowLines, block_cons, block_nil, entry, Expr.text, Expr.fieldLines, hone, htwo, hopen, hstart, hservice,
    hmethod, hpath, hinput, hstreaming, hquote, hcomma, hclose, String.append_assoc, String.append_empty]

end Route

namespace RouteTable

/-- The line that declares the route table. -/
def heading : String := "pub const CONTROLLER_ROUTES: &[ControllerRoute] = &["

/-- The route table: the rows of the routes, each below its comment. -/
def tableLines (request : Request) (routes : List Route) : List String :=
  ["/// Every controller route served by the gateway.", heading] ++
    (routes.flatMap fun route => route.commentLines request ++ route.rowLines) ++ ["];"]

theorem table_lines (request : Request) (routes : List Route) :
    (table request routes).lines = block (tableLines request routes) := by
  have hrow : ∀ route : Route, block (route.commentLines request ++ route.rowLines) =
      join "" ((route.documentation request).map commentLine) ++ "    " ++ route.entry.text 1 ++ ",\n" := by
    intro route
    rw [block_append, route.block_commentLines, route.block_rowLines]
    simp only [String.append_assoc]
  have hhead : docLine "Every controller route served by the gateway." ++ "pub const " ++ "CONTROLLER_ROUTES" ++ ": " ++
      (Ty.borrowed false (.slice (.name "ControllerRoute"))).text ++ " = &[\n" =
      block ["/// Every controller route served by the gateway.", heading] := rfl
  have hend : block ["];"] = "];\n" := rfl
  -- the table prints a comment with its row, the block has them apart
  rw [tableLines, block_append, block_append, block_flatMap, ← hhead, hend]
  simp only [hrow]
  rw [table, Item.lines, List.map_map, if_pos rfl]
  rfl

end RouteTable

/-! ## The dispatcher -/

/-- The path of a service's trait. -/
def traitPath (service : String × String) : String := "super::" ++ service.1 ++ "::" ++ service.2

namespace RouteTable

/-- The arm of a route, which calls the handler of its method. -/
def armLine (route : Route) : String :=
  "        \"" ++ route.path ++ "\" => super::" ++ route.module ++ "::" ++ ident route.method ++
    "(backend, enforcer, rc, body, sink).await,"

/-- The dispatcher of the routes, for a backend that implements the traits of the services. -/
def dispatcherLines (routes : List Route) (services : List (String × String)) : List String := [
  "/// Serve the request for `path` with the handler of its method.",
  "pub async fn dispatch<B>(",
  "    path: &str,",
  "    backend: &B,",
  "    enforcer: &dyn Enforcer,",
  "    rc: RegionContext,",
  "    body: &[u8],",
  "    sink: &mut dyn ResponseSink,",
  ") -> Result<(), GatewayError>",
  "where",
  "    B: " ++ join " + " (services.map traitPath) ++ " + ?Sized,",
  "\x7b",
  "    match path \x7b"] ++ routes.map armLine ++ [
  "        _ => Err(GatewayError::NotFound(path.to_string())),",
  "    \x7d",
  "\x7d"]

end RouteTable

/-- The arms of a choice are lines one below the other. -/
theorem Rust.Expr.armLines_eq (depth : Nat) (arms : List (String × Expr)) : Expr.armLines depth arms =
    block (arms.map fun arm => indent depth ++ arm.1 ++ " => " ++ arm.2.text depth ++ ",") := by
  have hcomma : ",\n" = "," ++ "\n" := rfl
  induction arms with
  | nil => rfl
  | cons arm arms ih =>
      rw [List.map_cons, block_cons, ← ih, Expr.armLines, hcomma]
      simp only [String.append_assoc]

/-- The lines of a generic function up to its body. -/
def Rust.Function.startLines (f : Function) (bounds : List String) (result : Ty) : List String :=
  f.docs.map ("/// " ++ ·) ++ ["pub async fn " ++ f.name ++ "<B>("] ++
    f.parameters.map (fun p => "    " ++ parameterText p ++ ",") ++ [
    ") -> " ++ result.text,
    "where",
    "    B: " ++ join " + " bounds ++ " + ?Sized,",
    "\x7b"]

theorem Rust.Function.text_lines {f : Function} {bounds : List String} {result : Ty} (hattributes : f.attributes = [])
    (hbounds : f.bounds = some bounds) (hresult : f.result = some result) :
    f.text = block (f.startLines bounds result) ++ Stmt.lines 1 f.body ++ "\x7d\n" := by
  have hdocs : join "" (f.docs.map docLine) = block (f.docs.map ("/// " ++ ·)) := by
    rw [block, List.map_map]
    rfl
  have hcomma : ",\n" = "," ++ "\n" := rfl
  have hparameters : join "" (f.parameters.map fun p => "    " ++ parameterText p ++ ",\n") =
      block (f.parameters.map fun p => "    " ++ parameterText p ++ ",") := by
    rw [block, List.map_map, hcomma]
    refine congrArg _ (List.map_congr_left fun p _ => ?_)
    simp only [Function.comp_apply, String.append_assoc]
  have hround : "<B>(" = "<B>" ++ "(" := rfl
  have hline : "(\n" = "(" ++ "\n" := rfl
  have harrow : ") -> " = ")" ++ " -> " := rfl
  have hwhere : "\nwhere\n    B: " = "\n" ++ ("where" ++ ("\n" ++ "    B: ")) := rfl
  have hopen : " + ?Sized,\n\x7b\n" = " + ?Sized," ++ ("\n" ++ ("\x7b" ++ "\n")) := rfl
  have hnone : join "" [] = "" := rfl
  unfold text
  dsimp only
  rw [hattributes, hbounds, hresult, hdocs, hparameters, List.map_nil, hnone, String.append_empty]
  simp only [startLines, block_append, block_cons, block_nil, Option.isSome_some, if_true, Option.elim, hround, hline,
    harrow, hwhere, hopen, String.append_assoc, String.append_empty]

namespace RouteTable

theorem arm_line (route : Route) :
    indent 2 ++ (arm route).1 ++ " => " ++ (arm route).2.text 2 ++ "," = armLine route := by
  have hindent : indent 2 = "        " := rfl
  have hquote : "        \"" = "        " ++ "\"" := rfl
  have hcall : "\" => super::" = "\"" ++ (" => " ++ "super::") := rfl
  have harguments : "(backend, enforcer, rc, body, sink).await," =
      "(" ++ (join ", " ["backend", "enforcer", "rc", "body", "sink"] ++ (")" ++ (".await" ++ ","))) := rfl
  have htexts : Expr.texts 2 (["backend", "enforcer", "rc", "body", "sink"].map Expr.place) =
      ["backend", "enforcer", "rc", "body", "sink"] := rfl
  simp only [arm, armLine, callOn, Expr.text, htexts, hindent, hquote, hcall, harguments, String.append_assoc]

theorem dispatcher_lines (routes : List Route) :
    (dispatcher routes).text = block (dispatcherLines routes (Route.services routes)) := by
  have harms : Expr.armLines 2 (routes.map arm ++
      [("_", .call "Err" [.call "GatewayError::NotFound" [.method (.place "path") "to_string" []]])]) =
      block (routes.map armLine) ++ block ["        _ => Err(GatewayError::NotFound(path.to_string())),"] := by
    rw [Expr.armLines_eq, List.map_append, block_append, List.map_map]
    exact congrArg (· ++ _) (congrArg block (List.map_congr_left fun route _ => arm_line route))
  have hbody : Stmt.lines 1 (dispatcher routes).body =
      block ["    match path \x7b"] ++ (block (routes.map armLine) ++
        block ["        _ => Err(GatewayError::NotFound(path.to_string())),", "    \x7d"]) := by
    have hindent : indent 1 = "    " := rfl
    have hmatch : "    match path \x7b" = "    " ++ ("match " ++ ("path" ++ " \x7b")) := rfl
    have hopen : " \x7b\n" = " \x7b" ++ "\n" := rfl
    have hclose : "    \x7d" = "    " ++ "\x7d" := rfl
    simp only [dispatcher, Stmt.lines, Stmt.text, Expr.text, harms, hindent, hmatch, hopen, hclose, block_cons,
      block_nil, String.append_assoc, String.append_empty]
  have hstart : (dispatcher routes).startLines ((Route.services routes).map traitPath) Handler.outcome = [
      "/// Serve the request for `path` with the handler of its method.",
      "pub async fn dispatch<B>(",
      "    path: &str,",
      "    backend: &B,",
      "    enforcer: &dyn Enforcer,",
      "    rc: RegionContext,",
      "    body: &[u8],",
      "    sink: &mut dyn ResponseSink,",
      ") -> Result<(), GatewayError>",
      "where",
      "    B: " ++ join " + " ((Route.services routes).map traitPath) ++ " + ?Sized,",
      "\x7b"] := rfl
  have hend : "\x7d\n" = block ["\x7d"] := rfl
  have htext : (dispatcher routes).text =
      block ((dispatcher routes).startLines ((Route.services routes).map traitPath) Handler.outcome) ++
        Stmt.lines 1 (dispatcher routes).body ++ "\x7d\n" := Function.text_lines rfl rfl rfl
  rw [htext, hstart, hbody, hend]
  simp only [dispatcherLines, block_append, block_cons, block_nil, String.append_assoc, String.append_empty]

end RouteTable

/-! ## Handlers and traits -/

namespace Handler

/-- The handler of a method up to its body. -/
def startLines (plan : MethodPlan) : List String := [
  "/// Handle `" ++ plan.method ++ "`.",
  "pub async fn " ++ plan.functionName ++ "<B>(",
  "    backend: &B,",
  "    " ++ (if plan.check = .off then "_enforcer" else "enforcer") ++ ": &dyn Enforcer,",
  "    mut rc: RegionContext,",
  "    body: &[u8],",
  "    sink: &mut dyn ResponseSink,",
  ") -> Result<(), GatewayError>",
  "where",
  "    B: " ++ plan.service ++ " + ?Sized,",
  "\x7b"]

theorem function_lines (paths : ModulePaths) (plan : MethodPlan) : (function paths plan).text =
    block (startLines plan) ++ Stmt.lines 1 (body paths plan) ++ "\x7d\n" := by
  have hdoc : "/// " ++ ("Handle `" ++ plan.method ++ "`.") = "/// Handle `" ++ plan.method ++ "`." := by
    have hmark : "/// Handle `" = "/// " ++ "Handle `" := rfl
    simp only [hmark, String.append_assoc]
  have henforcer (name : String) : "    " ++ parameterText (name, .borrowed false (.dynamic "Enforcer")) ++ "," =
      "    " ++ name ++ ": &dyn Enforcer," := by
    have htype : ": &dyn Enforcer," = ": " ++ ((Ty.borrowed false (.dynamic "Enforcer")).text ++ ",") := rfl
    simp only [parameterText, htype, String.append_assoc]
  have hstart : (function paths plan).startLines [plan.service] outcome = startLines plan := by
    unfold startLines
    rw [← hdoc, ← henforcer]
    rfl
  have htext : (function paths plan).text = block ((function paths plan).startLines [plan.service] outcome) ++
      Stmt.lines 1 (function paths plan).body ++ "\x7d\n" := Function.text_lines rfl rfl rfl
  rw [htext, hstart]
  rfl

/-- The lines of a method that a backend has. -/
def signatureLines (paths : ModulePaths) (plan : MethodPlan) : List String :=
  let output := localName paths.messages ++ "::" ++ plan.outputType
  ["    /// `" ++ plan.method ++ "`",
    "    async fn " ++ plan.functionName ++ "(&self, rc: &RegionContext, obj: &" ++ localName paths.messages ++ "::" ++
      plan.inputType ++ ") -> Result<" ++ (if plan.streams then "BackendStream<" ++ output ++ ">" else output) ++
      ", GatewayError>;"]

/-- The trait of a service with methods. -/
def traitLines (paths : ModulePaths) (service : String) (plans : List MethodPlan) : List String :=
  ["/// Backend of the `" ++ service ++ "` service.", "#[async_trait]",
    "pub trait " ++ service ++ ": Send + Sync \x7b"] ++ plans.flatMap (signatureLines paths) ++ ["\x7d"]

/-- What a backend method yields, as it is written. -/
theorem backendResult_text (paths : ModulePaths) (plan : MethodPlan) : (backendResult paths plan).text =
    "Result<" ++ (if plan.streams then "BackendStream<" ++ (localName paths.messages ++ "::" ++ plan.outputType) ++ ">"
      else localName paths.messages ++ "::" ++ plan.outputType) ++ ", GatewayError>" := by
  have hresult : "Result<" = "Result" ++ "<" := rfl
  have hstream : "BackendStream<" = "BackendStream" ++ "<" := rfl
  have herror : ", GatewayError>" = ", " ++ ("GatewayError" ++ ">") := rfl
  cases hstreams : plan.streams <;>
    simp only [backendResult, hstreams, Ty.text, Ty.texts, join, ModulePaths.messageType, Bool.false_eq_true, if_true,
      if_false, hresult, hstream, herror, String.append_assoc]

theorem block_signatureLines (paths : ModulePaths) (plan : MethodPlan) :
    block (signatureLines paths plan) = (backendMethod paths plan).text := by
  have hdoc : "    /// `" = "    /// " ++ "`" := rfl
  have hstart : "\n    async fn " = "\n" ++ "    async fn " := rfl
  have hself : "(&self, rc: &RegionContext, obj: &" = "(&self" ++ ", rc: &RegionContext, obj: &" := rfl
  have hresult : ") -> Result<" = ") -> " ++ "Result<" := rfl
  have herror : ", GatewayError>;" = ", GatewayError>" ++ ";" := rfl
  have hend : ";\n" = ";" ++ "\n" := rfl
  have hparameters : join "" ((backendMethod paths plan).parameters.map fun p => ", " ++ parameterText p) =
      ", rc: &RegionContext, obj: &" ++ (localName paths.messages ++ "::" ++ plan.inputType) := rfl
  rw [Signature.text, hparameters]
  simp only [backendMethod, signatureLines, backendResult_text, block_cons, block_nil, hdoc, hstart, hself, hresult,
    herror, hend, String.append_assoc, String.append_empty]

theorem trait_lines (paths : ModulePaths) (service : String) (plans : List MethodPlan) :
    (Item.backend ("Backend of the `" ++ service ++ "` service.") service (plans.map (backendMethod paths))).lines =
      block (traitLines paths service plans) := by
  have hdoc : "/// Backend of the `" = "/// " ++ "Backend of the `" := rfl
  have hstart : "#[async_trait]\npub trait " = "#[async_trait]" ++ ("\n" ++ "pub trait ") := rfl
  have hopen : ": Send + Sync \x7b\n" = ": Send + Sync \x7b" ++ "\n" := rfl
  have hclose : "\x7d\n" = "\x7d" ++ "\n" := rfl
  have hmethods : block (plans.flatMap (signatureLines paths)) =
      join "" ((plans.map (backendMethod paths)).map Signature.text) := by
    rw [block_flatMap, List.map_map]
    exact congrArg _ (List.map_congr_left fun plan _ => block_signatureLines paths plan)
  simp only [Item.lines, traitLines, docLine, block_append, block_cons, block_nil, hmethods, hdoc, hstart, hopen,
    hclose, String.append_assoc, String.append_empty]

end Handler

end RegionGateway
