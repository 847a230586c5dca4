import RegionGateway.Output.Chunk
import RegionGateway.Output.MethodPlan

/-!
# Region wrappers

Every input type has one wrapper struct that addresses it to a region, declared beside the first
method that takes it. Every method has an alias for the wrapper it takes; a file that did not declare
the wrapper imports it from the module that did.
-/

namespace RegionGateway

open Rust

namespace Wrapper

/-- The wrapper struct. -/
def struct (paths : ModulePaths) (plan : MethodPlan) : Item :=
  .record ("`" ++ plan.inputType ++ "` addressed to a region.") plan.wrapper
    ["Debug", "Clone", "Default", "Serialize", "Deserialize"]
    [⟨"Region name", "Region", "region", .name "String"⟩,
      ⟨plan.inputType ++ " in region", plan.inputType, plan.wrapperField,
        paths.messageType plan.inputType⟩]

/-- Access to the region and to the object. -/
def objectAccess (paths : ModulePaths) (plan : MethodPlan) : Item :=
  let object := "self." ++ plan.wrapperField
  .impl "RegionObj" plan.wrapper
    [.type "Obj" (paths.messageType plan.inputType),
      .method false "region" [] (some .str) (.value (.borrow false (.place "self.region"))),
      .method true "set_region" [("region", .str)] none
        (.assign "self.region" (.method (.place "region") "to_string" [])),
      .method false "obj" [] (some (.borrowed false (.name "Self::Obj")))
        (.value (.borrow false (.place object))),
      .method true "obj_mut" [] (some (.borrowed true (.name "Self::Obj")))
        (.value (.borrow true (.place object))),
      .method false "obj_name" [] (some (.name "&'static str")) (.value (.literal plan.inputType))]

/-- Access to the list of updated fields. -/
def fieldsAccess (plan : MethodPlan) : Item :=
  let fields := "self." ++ plan.wrapperField ++ ".fields"
  .impl "RegionObjFields" plan.wrapper
    [.method false "obj_fields" [] (some (.borrowed false (.slice (.name "String"))))
        (.value (.borrow false (.place fields))),
      .method true "set_obj_fields" [("fields", .apply "Vec" [.name "String"])] none
        (.assign fields (.place "fields"))]

/-- The wrapper of an input type. -/
def declaration (paths : ModulePaths) (plan : MethodPlan) : Chunk :=
  ⟨paths.uses [paths.messages] (["RegionObj"] ++ if plan.hasFields then ["RegionObjFields"] else []) ++
      [⟨"serde", "Deserialize"⟩, ⟨"serde", "Serialize"⟩],
    [struct paths plan, objectAccess paths plan] ++
      if plan.hasFields then [fieldsAccess plan] else []⟩

/-- The name of the wrapper that a method takes. -/
def requestAlias (plan : MethodPlan) : Item :=
  .alias ("Request body of `" ++ plan.method ++ "`.") (plan.method ++ "Request") plan.wrapper

/-- The wrapper of a method's input, if it is to be declared here, and the name for it. -/
def chunk (paths : ModulePaths) (plan : MethodPlan) : Chunk :=
  let wrapper : Chunk :=
    if plan.declaresWrapper then declaration paths plan
    else ⟨(plan.wrapperModule.map fun owner => ⟨"super::" ++ owner, plan.wrapper⟩).toList, []⟩
  wrapper.append ⟨[], [requestAlias plan]⟩

end Wrapper

end RegionGateway
