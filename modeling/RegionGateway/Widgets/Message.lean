import RegionGateway.Gateway.MessageType

/-!
# Messages of the widget services

The message types of a small gateway that manages widgets and shows settings. Every field has a
default value.
-/

namespace RegionGateway.Widgets

/-- What identifies a widget. -/
structure WidgetKey where
  name : String
  organization : String
  deriving DecidableEq

/-- A widget; `fields` lists the ids of the fields that an update is about. -/
structure Widget where
  fields : List String
  key : WidgetKey
  size : UInt32
  deriving DecidableEq

/-- The settings of a cluster. -/
structure Settings where
  name : String
  deriving DecidableEq

/-- The reply of the unary methods. -/
structure Reply where
  message : String
  deriving DecidableEq

/-- Widget keys as JSON. -/
def WidgetKey.codec : Codec WidgetKey :=
  Codec.record "WidgetKey"
    (.cons (.defaulted "name" .text "") <| .cons (.defaulted "organization" .text "") .nil)
    (fun (name, organization, ()) => ⟨name, organization⟩)
    (fun k => (k.name, k.organization, ()))

/-- Widgets as JSON. -/
def Widget.codec : Codec Widget :=
  Codec.record "Widget"
    (.cons (.defaulted "fields" (.list .text) []) <|
      .cons (.defaulted "key" WidgetKey.codec ⟨"", ""⟩) <| .cons (.defaulted "size" .u32 0) .nil)
    (fun (fields, key, size, ()) => ⟨fields, key, size⟩)
    (fun w => (w.fields, w.key, w.size, ()))

/-- Settings as JSON. -/
def Settings.codec : Codec Settings :=
  Codec.record "Settings" (.cons (.defaulted "name" .text "") .nil)
    (fun (name, ()) => ⟨name⟩) (fun s => (s.name, ()))

/-- Replies as JSON. -/
def Reply.codec : Codec Reply :=
  Codec.record "Result" (.cons (.defaulted "message" .text "") .nil)
    (fun (message, ()) => ⟨message⟩) (fun r => (r.message, ()))

/-! ## Message types -/

/-- The type of widgets. -/
def Widget.type : MessageType Widget where
  name := "Widget"
  codec := Widget.codec
  empty := ⟨[], ⟨"", ""⟩, 0⟩
  textAt path widget :=
    match path with
    | "key.name" => widget.key.name
    | "key.organization" => widget.key.organization
    | _ => ""
  setTextAt path text widget :=
    match path with
    | "key.name" => ⟨widget.fields, ⟨text, widget.key.organization⟩, widget.size⟩
    | "key.organization" => ⟨widget.fields, ⟨widget.key.name, text⟩, widget.size⟩
    | _ => widget
  fields := Widget.fields
  setFields fields widget := ⟨fields, widget.key, widget.size⟩

/-- The type of settings. -/
def Settings.type : MessageType Settings where
  name := "Settings"
  codec := Settings.codec
  empty := ⟨""⟩
  textAt path settings := if path = "name" then settings.name else ""
  setTextAt path text settings := if path = "name" then ⟨text⟩ else settings
  fields _ := []
  setFields _ settings := settings

/-- The type of replies. -/
def Reply.type : MessageType Reply where
  name := "Result"
  codec := Reply.codec
  empty := ⟨""⟩
  textAt path reply := if path = "message" then reply.message else ""
  setTextAt path text reply := if path = "message" then ⟨text⟩ else reply
  fields _ := []
  setFields _ reply := reply

end RegionGateway.Widgets
