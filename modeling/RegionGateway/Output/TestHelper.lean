import RegionGateway.Output.Binding

/-!
# Test helpers

Two functions for each method: one sends a given input, the other an input that is empty but for the
organization it belongs to.
-/

namespace RegionGateway

open Rust

namespace TestHelper

/-- Sends a given input to a region, after functions have changed it. -/
def sendInput (paths : ModulePaths) (plan : MethodPlan) : Function where
  docs := ["Call `" ++ plan.method ++ "` with `input` in `region`, after applying `mod_funcs` to it."]
  attributes := []
  name := "test_" ++ plan.functionName
  parameters := callerParameters ++
    [("region", .str), ("input", .borrowed false (paths.messageType plan.inputType)),
      modifiersParameter paths plan.inputType "mod_funcs"]
  result := some (Binding.outcome paths plan)
  bounds := none
  body :=
    [.bind "mut req" none (.record (localName paths.wrappers ++ "::" ++ plan.wrapper)
        [("region", .method (.place "region") "to_string" []),
          (plan.wrapperField, .method (.place "input") "clone" [])]),
      .forEach "f" (.place "mod_funcs")
        [.run (.call "f" [.borrow true (.place ("req." ++ plan.wrapperField))])],
      .value (.await (callOn (localName paths.bindings ++ "::" ++ plan.functionName)
        ["transport", "uri", "token", "&req"]))]

/-- Gives an empty input to an organization; an update lists the field it sets. -/
def scoping (plan : MethodPlan) : List Stmt :=
  match plan.orgPath with
  | none => []
  | some path =>
    .assign ("input." ++ path) (.method (.place "org") "to_string" []) ::
      (plan.orgFieldId.map fun id =>
        Stmt.run (.method (.place "input.fields") "push" [.method (.literal id) "to_string" []])).toList

/-- Sends an input that belongs to an organization. -/
def sendForOrg (paths : ModulePaths) (plan : MethodPlan) : Function where
  docs := ["Call `" ++ plan.method ++ "` with a default input belonging to `org`."]
  attributes := []
  name := "test_perm_" ++ plan.functionName
  parameters := callerParameters ++
    [("region", .str), (if plan.orgPath.isSome then "org" else "_org", .str),
      modifiersParameter paths plan.inputType "mod_funcs"]
  result := some (Binding.outcome paths plan)
  bounds := none
  body :=
    .bind (if plan.orgPath.isSome then "mut input" else "input") none
        (.call ((paths.messageType plan.inputType).text ++ "::default") []) ::
      scoping plan ++
      [.value (.await (callOn ("test_" ++ plan.functionName)
        ["transport", "uri", "token", "region", "&input", "mod_funcs"]))]

/-- The helpers of a method. -/
def chunk (paths : ModulePaths) (plan : MethodPlan) : Chunk :=
  ⟨paths.uses [paths.wrappers, paths.messages, paths.bindings] ["ApiTransport", "ClientError", "ModFn"],
    [.function (sendInput paths plan), .function (sendForOrg paths plan)]⟩

end TestHelper

end RegionGateway
