import RegionGateway.Gateway.Client
import RegionGateway.Gateway.Response
import RegionGateway.Rust.Name
import RegionGateway.Widgets.Message

/-!
# Calls of the widget services

A call is a method together with its input. `Call.Served` is what a backend gives for it,
`Call.Received` what a client gets.
-/

namespace RegionGateway.Widgets

/-- A call of a gateway method. -/
inductive Call where
  | createWidget (widget : Widget)
  | deleteWidget (widget : Widget)
  | updateWidget (widget : Widget)
  | showWidget (widget : Widget)
  | injectWidget (widget : Widget)
  | showSettings (settings : Settings)
  | streamSettings (settings : Settings)
  deriving DecidableEq

namespace Call

/-- The name of the method. -/
def method : Call → String
  | .createWidget _ => "CreateWidget"
  | .deleteWidget _ => "DeleteWidget"
  | .updateWidget _ => "UpdateWidget"
  | .showWidget _ => "ShowWidget"
  | .injectWidget _ => "InjectWidget"
  | .showSettings _ => "ShowSettings"
  | .streamSettings _ => "StreamSettings"

/-- The name of the method among functions. -/
def functionName (call : Call) : String := Rust.ident call.method

/-- The calls of every method with either input. -/
def all (widget : Widget) (settings : Settings) : List Call :=
  [.createWidget widget, .deleteWidget widget, .updateWidget widget, .showWidget widget,
    .injectWidget widget, .showSettings settings, .streamSettings settings]

/-- The input as JSON. -/
def object : Call → Json
  | .createWidget widget | .deleteWidget widget | .updateWidget widget | .showWidget widget
  | .injectWidget widget => Widget.codec.write widget
  | .showSettings settings | .streamSettings settings => Settings.codec.write settings

/-- What a backend gives for a call. -/
def Served : Call → Type
  | .createWidget _ | .deleteWidget _ | .updateWidget _ | .injectWidget _ => Reply
  | .showWidget _ => List (StreamItem Widget)
  | .showSettings _ | .streamSettings _ => List (StreamItem Settings)

/-- What a client gets for a call. -/
def Received : Call → Type
  | .createWidget _ | .deleteWidget _ | .updateWidget _ | .injectWidget _ => Reply
  | .showWidget _ => List Widget
  | .showSettings _ | .streamSettings _ => List Settings

/-- The values received as JSON: one, or as many as there are items. -/
def receivedJson : (call : Call) → call.Received → Json
  | .createWidget _, reply | .deleteWidget _, reply | .updateWidget _, reply
  | .injectWidget _, reply => Reply.codec.write reply
  | .showWidget _, widgets => (Codec.list Widget.codec).write widgets
  | .showSettings _, settings | .streamSettings _, settings =>
    (Codec.list Settings.codec).write settings

/-- The number of values received. -/
def receivedCount : (call : Call) → call.Received → Nat
  | .createWidget _, _ | .deleteWidget _, _ | .updateWidget _, _ | .injectWidget _, _ => 1
  | .showWidget _, widgets => widgets.length
  | .showSettings _, settings | .streamSettings _, settings => settings.length

section

variable {m : Type → Type} [Monad m]

/-- Calls a unary method with a widget. -/
def sendWidget (post : Transport m) (uri token region method : String) (widget : Widget) :
    m (Except ClientError Reply) :=
  callUnary Reply.codec post uri token method (Widget.type.wrapped.write ⟨region, widget⟩)

/-- Calls a streaming method with settings. -/
def sendSettings (post : Transport m) (uri token region method : String) (settings : Settings) :
    m (Except ClientError (List Settings)) :=
  callStream Settings.codec post uri token method (Settings.type.wrapped.write ⟨region, settings⟩)

/-- Sends a call to a region of the gateway at an address. -/
def send (post : Transport m) (uri token region : String) :
    (call : Call) → m (Except ClientError call.Received)
  | .createWidget widget => sendWidget post uri token region "CreateWidget" widget
  | .deleteWidget widget => sendWidget post uri token region "DeleteWidget" widget
  | .updateWidget widget => sendWidget post uri token region "UpdateWidget" widget
  | .showWidget widget =>
    callStream Widget.codec post uri token "ShowWidget" (Widget.type.wrapped.write ⟨region, widget⟩)
  | .injectWidget widget => sendWidget post uri token region "InjectWidget" widget
  | .showSettings settings => sendSettings post uri token region "ShowSettings" settings
  | .streamSettings settings => sendSettings post uri token region "StreamSettings" settings

end

end Call

end RegionGateway.Widgets
