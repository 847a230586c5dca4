import RegionGateway.Attempt
import RegionGateway.Gateway.Envelope

/-!
# Responses

Where a handler writes its response. A `Sink` is a place with a state of type `σ` and operations
that may fail; `RecordedResponse` keeps everything. A unary reply goes out in one piece. A streamed
reply follows the decision table `StreamState.on`: an error is handed back to the caller for as long
as nothing is written, afterwards it becomes a line of the reply.
-/

namespace RegionGateway

/-- A place to write a response to. The header is written once; body chunks follow it. Operations
fail with a reason. -/
structure Sink (σ : Type) where
  writeHeader : UInt16 → String → Attempt σ String Unit
  writeBody : Bytes → Attempt σ String Unit
  flush : Attempt σ String Unit
  /-- Whether the header has gone out. -/
  headerWritten : σ → Bool

/-- A sink that is part of a larger state. -/
def Sink.within (part : τ → σ) (replace : σ → τ → τ) (sink : Sink σ) : Sink τ where
  writeHeader status contentType := (sink.writeHeader status contentType).within part replace
  writeBody chunk := (sink.writeBody chunk).within part replace
  flush := sink.flush.within part replace
  headerWritten state := sink.headerWritten (part state)

/-- A response kept in memory. -/
structure RecordedResponse where
  status : Option UInt16
  contentType : Option String
  body : Bytes
  /-- The number of flushes. -/
  flushes : Nat
  deriving DecidableEq

namespace RecordedResponse

/-- Nothing written. -/
def empty : RecordedResponse := ⟨none, none, [], 0⟩

/-- Writing to memory: only the order of header and body can be wrong. -/
def sink : Sink RecordedResponse where
  writeHeader status contentType := do
    let response ← get
    if response.status.isSome then throw "header already written"
    set (⟨some status, some contentType, response.body, response.flushes⟩ : RecordedResponse)
  writeBody chunk := do
    let response ← get
    if response.status.isNone then throw "body written before header"
    set (⟨response.status, response.contentType, response.body ++ chunk, response.flushes⟩ :
      RecordedResponse)
  flush := modify fun response =>
    ⟨response.status, response.contentType, response.body, response.flushes + 1⟩
  headerWritten response := response.status.isSome

end RecordedResponse

/-! ## Unary replies and errors -/

/-- The content type of unary replies and error bodies. -/
def jsonContentType : String := "application/json"

/-- The content type of streamed replies. -/
def linesContentType : String := "application/x-ndjson"

namespace Sink

/-- An operation of the sink, with its failure as a failure of the handler. -/
def attempt (operation : Attempt σ String α) : Attempt σ GatewayError α :=
  ExceptT.adapt .io operation

/-- Writes a reply, given its JSON form or the reason why it has none. -/
def reply (sink : Sink σ) (value : Except String Json) : Attempt σ GatewayError Unit := do
  match value with
  | .error reason => throw (.io reason)
  | .ok value =>
    attempt (sink.writeHeader 200 jsonContentType)
    attempt (sink.writeBody (Utf8.bytes value.compact))
    attempt sink.flush

/-- Writes the status and body for a failed handler, unless the response has started. -/
def writeError (sink : Sink σ) (error : GatewayError) : Attempt σ String Unit := do
  if sink.headerWritten (← get) then return
  sink.writeHeader error.status jsonContentType
  sink.writeBody (Utf8.bytes (ErrorMessage.codec.encode ⟨error.message⟩))
  sink.flush

end Sink

/-! ## Streamed replies -/

/-- Whether a streamed reply has written its first byte. -/
inductive StreamState where
  | notStarted
  | started
  deriving DecidableEq

/-- What happens on a backend stream. -/
inductive StreamEvent where
  /-- An item that the caller may see. -/
  | item
  /-- An item that the filter rejected. -/
  | filtered
  /-- The stream failed. -/
  | error
  /-- The stream ended. -/
  | finish
  deriving DecidableEq

/-- What is done about an event. -/
inductive StreamAction where
  /-- Write the header, then the item. -/
  | startAndWrite
  /-- Write the item. -/
  | write
  /-- Drop the item. -/
  | skip
  /-- Hand the error back. -/
  | returnError
  /-- Write the header only. -/
  | startEmpty
  /-- Write a line that reports the failure. -/
  | writeResult
  /-- Nothing is left to do. -/
  | done
  deriving DecidableEq

/-- The decision table. -/
def StreamState.on : StreamState → StreamEvent → StreamAction × StreamState
  | .notStarted, .item => (.startAndWrite, .started)
  | .notStarted, .filtered => (.skip, .notStarted)
  | .notStarted, .error => (.returnError, .notStarted)
  | .notStarted, .finish => (.startEmpty, .started)
  | .started, .item => (.write, .started)
  | .started, .filtered => (.skip, .started)
  | .started, .error => (.writeResult, .started)
  | .started, .finish => (.done, .started)

/-- A streamed reply under way. -/
structure StreamWriter (σ : Type) where
  state : StreamState
  response : σ

namespace StreamWriter

/-- Takes the decision about an event. -/
def step (event : StreamEvent) : Attempt (StreamWriter σ) GatewayError StreamAction := do
  let writer ← get
  let (action, state) := writer.state.on event
  set (⟨state, writer.response⟩ : StreamWriter σ)
  return action

/-- An operation on the response. -/
def onResponse (operation : Attempt σ String α) : Attempt (StreamWriter σ) GatewayError α :=
  fun writer =>
    let (result, response) := operation writer.response
    (result.mapError .io, ⟨writer.state, response⟩)

/-- Writes the header of a streamed reply. -/
def start (sink : Sink σ) : Attempt (StreamWriter σ) GatewayError Unit :=
  onResponse (sink.writeHeader 200 linesContentType)

/-- Writes a line and flushes it. -/
def writeLine (sink : Sink σ) (line : Except String String) :
    Attempt (StreamWriter σ) GatewayError Unit := do
  match line with
  | .error reason => throw (.io reason)
  | .ok line =>
    onResponse (sink.writeBody (Utf8.bytes line))
    onResponse sink.flush

/-- Takes in an item, given its JSON form or the reason why it has none, and the filter's
verdict. -/
def item (sink : Sink σ) (item : Except String Json) (allowed : Bool) :
    Attempt (StreamWriter σ) GatewayError Unit := do
  match ← step (if allowed then .item else .filtered) with
  | .startAndWrite =>
    start sink
    writeLine sink (item.map Envelope.dataLine)
  | .write => writeLine sink (item.map Envelope.dataLine)
  | _ => return ()

/-- Takes in a failure of the backend. -/
def fail (sink : Sink σ) (error : GatewayError) : Attempt (StreamWriter σ) GatewayError Unit := do
  match ← step .error with
  | .writeResult => writeLine sink (.ok (Envelope.resultLine error))
  | _ => throw error

/-- Takes in the end of the stream. -/
def finish (sink : Sink σ) : Attempt (StreamWriter σ) GatewayError Unit := do
  match ← step .finish with
  | .startEmpty =>
    start sink
    onResponse sink.flush
  | _ => return ()

end StreamWriter

/-- What a backend stream yields: items and failures. -/
abbrev StreamItem (α : Type) := Except GatewayError α

/-- Writes the items of a stream up to its first failure or its end. The filter works on the same
state as the sink. -/
def serveItems (sink : Sink σ) (encode : α → Except String Json) (allow : α → StateM σ Bool) :
    List (StreamItem α) → Attempt (StreamWriter σ) GatewayError Unit
  | [] => StreamWriter.finish sink
  | .error error :: _ => StreamWriter.fail sink error
  | .ok item :: rest => do
    let allowed ← StreamWriter.onResponse (liftM (allow item))
    StreamWriter.item sink (encode item) allowed
    serveItems sink encode allow rest

/-- Answers with a backend stream; `opened` is what opening it gave. -/
def serveStream (sink : Sink σ) (encode : α → Except String Json) (allow : α → StateM σ Bool)
    (opened : Except GatewayError (List (StreamItem α))) : Attempt σ GatewayError Unit :=
  fun response =>
    let written : Attempt (StreamWriter σ) GatewayError Unit :=
      match opened with
      | .error error => StreamWriter.fail sink error
      | .ok items => serveItems sink encode allow items
    let (result, writer) := written ⟨.notStarted, response⟩
    (result, writer.response)

end RegionGateway
