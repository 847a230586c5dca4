import RegionGateway.Output.Generation

/-!
# The interface of the widget services

`WidgetApi` manages widgets, `ClusterApi` injects widgets and shows settings. The plans of their
methods are those of a generation run over the interface; `ResetSettings` has no directive and is not
part of the gateway.
-/

namespace RegionGateway.Widgets

/-- A field without a nested message. -/
def plainField (name : String) (number : UInt32) : FieldDecl := ⟨name, number, none⟩

/-- A message without options. -/
def plainMessage (name : String) (fields : List FieldDecl) : MessageDecl :=
  ⟨name, fields, false, false, none⟩

/-- A method with a directive. -/
def guardedMethod (name input output directive : String) (streaming : Bool) : MethodDecl :=
  ⟨name, input, output, streaming, false, some directive, none, none⟩

/-- The directive of the methods that change widgets. -/
def manageDirective : String := "widget,ActionManage,Key.Organization"

/-- The service that manages widgets. -/
def widgetService : ServiceDecl where
  name := "WidgetApi"
  methods := [
    ⟨"CreateWidget", "Widget", "Result", false, false, some manageDirective, none,
      some "Create a widget. Widgets belong to an organization."⟩,
    guardedMethod "DeleteWidget" "Widget" "Result" manageDirective false,
    guardedMethod "UpdateWidget" "Widget" "Result" manageDirective false,
    guardedMethod "ShowWidget" "Widget" "Widget" "widget,ActionView,Key.Organization" true]

/-- The file of the widget service. -/
def widgetFile : FileDecl where
  name := "edgeproto/widget.proto"
  services := [widgetService]
  messages := [
    ⟨"Widget", [plainField "fields" 1, ⟨"key", 2, some "WidgetKey"⟩, plainField "size" 3],
      true, false, none⟩,
    plainMessage "WidgetKey" [plainField "name" 1, plainField "organization" 2],
    plainMessage "Result" [plainField "message" 1]]

/-- The service that concerns whole clusters. -/
def clusterService : ServiceDecl where
  name := "ClusterApi"
  methods := [
    guardedMethod "InjectWidget" "Widget" "Result" manageDirective false,
    guardedMethod "ShowSettings" "Settings" "Settings" "config,ActionView," true,
    guardedMethod "StreamSettings" "Settings" "Settings" "config,ActionView,skipenforce" true,
    ⟨"ResetSettings", "Settings", "Result", false, false, none, none, none⟩]

/-- The file of the cluster service. -/
def clusterFile : FileDecl where
  name := "edgeproto/cluster.proto"
  services := [clusterService]
  messages := [plainMessage "Settings" [plainField "name" 1]]

/-- The interface. -/
def request : Request := ⟨[widgetFile, clusterFile], [], none⟩

/-- The plans of the services; none if the interface is refused. -/
def services : List ServicePlan :=
  match ((Generation.ofRequest request .none .standard).plan .empty).1 with
  | .ok files => files.flatMap (·.services)
  | .error _ => []

/-- The plans of the methods, in route order. -/
def plans : List MethodPlan := services.flatMap (·.methods)

/-- The permission tests of the services. -/
def messageTests : List MessageTests :=
  services.flatMap (MessageTests.ofService request (InputIndex.ofRequest request))

end RegionGateway.Widgets
