import RegionGateway.Gateway.Error

/-!
# Envelopes

The shapes in which replies travel: one `Envelope` per line of a streamed reply, an error body with
a message, and the route under which a method is served.
-/

namespace RegionGateway

/-- The path under which every method is served. -/
def routePrefix : String := "/auth/ctrl/"

/-- A failure reported inside a streamed reply. -/
structure StreamResult where
  message : String
  code : UInt16
  deriving DecidableEq

namespace StreamResult

/-- Stream results as JSON. -/
def codec : Codec StreamResult :=
  Codec.record "StreamResult"
    (.cons (.defaulted "message" .text "") <| .cons (.defaulted "code" .u16 0) .nil)
    (fun (message, code, ()) => ⟨message, code⟩)
    (fun r => (r.message, r.code, ()))

/-- Whether the result reports a failure. -/
def isFailure (result : StreamResult) : Bool := result.code != 0 && result.code != 200

end StreamResult

/-- One line of a streamed reply. -/
structure Envelope (α : Type) where
  /-- A streamed item. -/
  data : Option α
  /-- A failure report. -/
  result : Option StreamResult

namespace Envelope

/-- Envelopes as JSON. -/
def codec (item : Codec α) : Codec (Envelope α) :=
  Codec.record "StreamPayload"
    (.cons (Member.optional "data" item).placed <| .cons (.optional "result" StreamResult.codec) .nil)
    (fun (data, result, ()) => ⟨data, result⟩)
    (fun e => (e.data, e.result, ()))

/-- The line that carries an item, given the item's JSON form. -/
def dataLine (item : Json) : String :=
  (codec Codec.any).encode ⟨some item, none⟩ ++ "\n"

/-- The line that reports a failure. -/
def resultLine (error : GatewayError) : String :=
  (codec Codec.any).encode ⟨none, some ⟨error.message, error.status⟩⟩ ++ "\n"

/-- Reads the next of several envelopes; none at the end of the text. -/
def next (item : Codec α) : Reader (Option (Envelope α)) := do
  match ← Reader.peekToken with
  | none => return none
  | some _ => return some (← (codec item).read Json.maxDepth)

/-- The envelopes of a text, with or without space between them. -/
def decodeAll (item : Codec α) (text : Bytes) : Except Fault (List (Envelope α)) :=
  let step := fun read : List (Envelope α) => do
    match ← next item with
    | none => return Turn.done read.reverse
    | some envelope => return Turn.again (envelope :: read)
  (Reader.loop step [] text).map (·.1)

end Envelope

/-- The body of a reply to a failed request. -/
structure ErrorMessage where
  message : String
  deriving DecidableEq

/-- Error bodies as JSON. -/
def ErrorMessage.codec : Codec ErrorMessage :=
  Codec.record "ErrorMessage" (.cons (.required "message" .text) .nil)
    (fun (message, ()) => ⟨message⟩) (fun e => (e.message, ()))

/-- The value of a request body. -/
def decodeRequest (codec : Codec α) (body : Bytes) : Except GatewayError α :=
  match codec.decode body with
  | .ok value => .ok value
  | .error fault => .error (.badRequest fault.message)

end RegionGateway
