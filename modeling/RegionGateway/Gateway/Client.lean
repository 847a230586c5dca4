import RegionGateway.Gateway.Envelope
import RegionGateway.Text.Blank

/-!
# Client calls

A call posts the JSON form of its input to the method's route and decodes the reply: one value, or
the items of a streamed reply. How a request is posted is a parameter, in any monad.
-/

namespace RegionGateway

/-- A reply as it arrives. -/
structure ApiResponse where
  status : UInt16
  body : Bytes
  deriving DecidableEq

/-- Posts a body to a URL with a token. -/
abbrev Transport (m : Type → Type) := String → String → Bytes → m (Except ClientError ApiResponse)

/-- The URL of a method under a base address. -/
def routeUrl (uri method : String) : String :=
  String.ofList (Text.dropEndWhile (· == '/') uri.toList) ++ routePrefix ++ method

namespace ApiResponse

/-- The failure that a reply with another status than 200 stands for. -/
def failure (response : ApiResponse) : ClientError :=
  match ErrorMessage.codec.decode response.body with
  | .ok body => .status response.status body.message
  | .error _ => .status response.status (Utf8.textLossy response.body)

/-- The value of a unary reply. -/
def decodeUnary (output : Codec α) (response : ApiResponse) : Except ClientError α :=
  if response.status != 200 then .error response.failure
  else
    match output.decode response.body with
    | .ok value => .ok value
    | .error fault => .error (.decode fault.message)

/-- Reads the next line of a streamed reply: an item more, the first failure or the end. -/
def streamStep (output : Codec α) (items : List α) :
    Reader (Turn (List α) (Except StreamResult (List α))) := do
  match ← Envelope.next output with
  | none => return .done (.ok items.reverse)
  | some envelope =>
    match envelope.result.filter StreamResult.isFailure with
    | some result => return .done (.error result)
    | none => return .again (envelope.data.toList ++ items)

/-- The items of a streamed reply. A line that reports a failure makes the whole call fail. -/
def decodeStream (output : Codec α) (response : ApiResponse) : Except ClientError (List α) :=
  if response.status != 200 then .error response.failure
  else
    match Reader.loop (streamStep output) [] response.body with
    | .error fault => .error (.decode fault.message)
    | .ok (.error result, _) => .error (.stream result.code result.message)
    | .ok (.ok items, _) => .ok items

end ApiResponse

/-- Posts an input to a method and gives the reply to a decoder. -/
def callWith {m : Type → Type} [Monad m] (decode : ApiResponse → Except ClientError α)
    (post : Transport m) (uri token method : String) (input : Json) : m (Except ClientError α) := do
  match ← post (routeUrl uri method) token (Utf8.bytes input.compact) with
  | .error error => return .error error
  | .ok response => return decode response

/-- Calls a unary method. -/
def callUnary {m : Type → Type} [Monad m] (output : Codec α) :
    Transport m → String → String → String → Json → m (Except ClientError α) :=
  callWith (·.decodeUnary output)

/-- Calls a streaming method and collects its items. -/
def callStream {m : Type → Type} [Monad m] (output : Codec α) :
    Transport m → String → String → String → Json → m (Except ClientError (List α)) :=
  callWith (·.decodeStream output)

end RegionGateway
