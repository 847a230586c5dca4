import RegionGateway.Gateway.RegionObject

/-!
# Message types

What a gateway needs to know about the type of a message: how its values stand in JSON, its empty
value, its text fields by access path, and the list of updated fields that some messages carry.
-/

namespace RegionGateway

/-- A type of messages. -/
structure MessageType (α : Type) where
  name : String
  codec : Codec α
  /-- The message in which nothing is set. -/
  empty : α
  /-- The text at an access path; empty if there is no text field with that path. -/
  textAt : String → α → String
  /-- Sets the text at an access path, if there is a text field with that path. -/
  setTextAt : String → String → α → α
  /-- The ids of the fields that an update is about. -/
  fields : α → List String
  setFields : List String → α → α

namespace MessageType

/-- Messages with their regions as JSON. -/
def wrapped (type : MessageType α) : Codec (RegionObject α) := RegionObject.codec type.name type.codec

end MessageType

end RegionGateway
