import RegionGateway.Output.Chunk
import RegionGateway.Output.MethodPlan

/-!
# Client bindings

One function for each method, which sends the wrapped input to a gateway and decodes the response.
-/

namespace RegionGateway

open Rust

namespace Binding

/-- What a call of a method yields: the output, or all items of a stream. -/
def outcome (paths : ModulePaths) (plan : MethodPlan) : Ty :=
  let output := paths.messageType plan.outputType
  .apply "Result" [if plan.streams then .apply "Vec" [output] else output, .name "ClientError"]

/-- The runtime function that performs the call. -/
def callName (plan : MethodPlan) : String := if plan.streams then "call_stream" else "call_unary"

/-- The binding of a method. -/
def function (paths : ModulePaths) (plan : MethodPlan) : Function where
  docs := ["Call `" ++ plan.method ++ "` on the gateway at `uri`."]
  attributes := []
  name := plan.functionName
  parameters := callerParameters ++
    [("input", .borrowed false (.inModule (localName paths.wrappers) plan.wrapper))]
  result := some (outcome paths plan)
  bounds := none
  body := [.value (.await (.call (callName plan)
    [.place "transport", .place "uri", .place "token", .literal plan.method, .place "input"]))]

/-- The binding of a method. -/
def chunk (paths : ModulePaths) (plan : MethodPlan) : Chunk :=
  ⟨paths.uses [paths.wrappers, paths.messages] ["ApiTransport", "ClientError", callName plan],
    [.function (function paths plan)]⟩

end Binding

end RegionGateway
