import RegionGateway.Interface.FieldPath
import RegionGateway.Interface.Route
import RegionGateway.Output.Handler
import RegionGateway.Output.Mode

/-!
# The route table and the dispatcher

Both list every gateway method of a run, so they are printed once, in the first generated file. A
route is documented by comment lines: what it is, the summary of the method, and for updates the
fields that can be set.
-/

namespace RegionGateway

open Rust

namespace Route

/-- The lines of a summary: its first sentence, and what follows it if anything does. Line breaks
count as blanks. A sentence without a period gets one. -/
def summaryLines (summary : String) : List String :=
  let blank := fun (c : Char) => if c = '\r' ∨ c = '\n' then ' ' else c
  let text := Text.trim (String.ofList (summary.toList.map blank))
  if text = "" then []
  else
    match Text.cut? '.' text with
    | none => [text ++ "."]
    | some (first, rest) =>
      (Text.trim first ++ ".") :: if Text.trim rest = "" then [] else [Text.trim rest]

/-- The lines that list the fields an update can set. -/
def updateLines (request : Request) (route : Route) : List String :=
  let fields := (request.message? route.inputType).elim [] fun message =>
    (FieldPath.all request message).map (·.listing)
  ["The following values should be added to `" ++ route.inputType ++
      ".fields` field array to specify which fields will be updated.", "```"] ++ fields ++ ["```"]

/-- The lines that are the same for every route. -/
def responseLines : List String :=
  ["Security:", "  Bearer:", "responses:", "  200: success", "  400: badRequest", "  403: forbidden",
    "  404: notFound"]

/-- The comment lines of a route. -/
def documentation (request : Request) (route : Route) : List String :=
  ["swagger:route POST " ++ route.path ++ " " ++ route.inputType ++ " " ++ route.method] ++
    summaryLines (route.summary.getD "") ++
    (if Text.startsWith "Update" route.method then updateLines request route else []) ++
    responseLines

/-- The value that describes a route. -/
def entry (route : Route) : Expr :=
  .record "ControllerRoute"
    [("service", .literal route.service), ("method", .literal route.method),
      ("path", .literal route.path), ("input", .literal route.inputType),
      ("streaming", .place (if route.streaming then "true" else "false"))]

end Route

namespace RouteTable

/-- The table of all routes. -/
def table (request : Request) (routes : List Route) : Item :=
  .table "Every controller route served by the gateway." true "CONTROLLER_ROUTES"
    (.name "ControllerRoute") (routes.map fun route => (route.documentation request, route.entry))

/-- The dispatcher's case for a route. -/
def arm (route : Route) : String × Expr :=
  ("\"" ++ route.path ++ "\"",
    .await (callOn ("super::" ++ route.module ++ "::" ++ ident route.method)
      ["backend", "enforcer", "rc", "body", "sink"]))

/-- The function that finds the handler for a path. -/
def dispatcher (routes : List Route) : Function where
  docs := ["Serve the request for `path` with the handler of its method."]
  attributes := []
  name := "dispatch"
  parameters :=
    [("path", .str), ("backend", .borrowed false (.name "B")),
      ("enforcer", .borrowed false (.dynamic "Enforcer")), ("rc", .name "RegionContext")] ++
      Handler.requestParameters
  result := some Handler.outcome
  bounds := some ((Route.services routes).map fun (module, service) =>
    "super::" ++ module ++ "::" ++ service)
  body := [.value (.choice (.place "path") (routes.map arm ++
    [("_", .call "Err" [.call "GatewayError::NotFound" [.method (.place "path") "to_string" []]])]))]

/-- The route table, and the dispatcher where there is server code; nothing without routes. -/
def chunk (mode : Mode) (paths : ModulePaths) (request : Request) (routes : List Route) : Chunk :=
  if !mode.listsRoutes || routes.isEmpty then .empty
  else
    ⟨paths.uses [] ("ControllerRoute" ::
        if mode.dispatches then ["Enforcer", "GatewayError", "RegionContext", "ResponseSink"] else []),
      table request routes :: if mode.dispatches then [.function (dispatcher routes)] else []⟩

end RouteTable

end RegionGateway
