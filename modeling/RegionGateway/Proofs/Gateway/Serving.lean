import RegionGateway.Gateway.Response
import RegionGateway.Proofs.Gateway.Envelopes
import RegionGateway.Proofs.Operations

/-!
# What serving a stream writes

A stream is served over a sink whose state is a recorded response and something beside it
(`Sink.Records`), through a filter that works on what is beside it (`Beside`). Then what reaches the
response depends on the stream only through `sift`: the items that the filter allows before the first
failure, and that failure.

* `serveItems_started`: what is written once the reply has begun, by induction on the stream;
* `serveStream_empty`: what is written into an empty response;
* `writeError_empty`, `writeError_written`: what becomes of an error that is handed back.
-/

namespace RegionGateway

variable {α σ τ : Type}

/-- The state of a sink is a recorded response and something beside it, put together by `build`. Of a
second header nothing is said: no reply asks for one. -/
structure Sink.Records (sink : Sink σ) (build : RecordedResponse → τ → σ) : Prop where
  writeHeader : ∀ status contentType response beside, response.status = none →
    sink.writeHeader status contentType (build response beside) =
      ((RecordedResponse.sink.writeHeader status contentType response).1,
        build (RecordedResponse.sink.writeHeader status contentType response).2 beside)
  writeBody : ∀ chunk response beside, sink.writeBody chunk (build response beside) =
    ((RecordedResponse.sink.writeBody chunk response).1,
      build (RecordedResponse.sink.writeBody chunk response).2 beside)
  flush : ∀ response beside, sink.flush (build response beside) =
    ((RecordedResponse.sink.flush response).1,
      build (RecordedResponse.sink.flush response).2 beside)
  headerWritten : ∀ response beside,
    sink.headerWritten (build response beside) = response.status.isSome

/-- A filter works on what is beside the response. -/
def Beside (build : RecordedResponse → τ → σ) (allow : α → StateM σ Bool)
    (filter : α → StateM τ Bool) : Prop :=
  ∀ item response beside, allow item (build response beside) =
    ((filter item beside).1, build response (filter item beside).2)

/-! ## What a stream comes to -/

/-- The items that a filter allows before the first failure of a stream, and that failure. -/
def sift (filter : α → StateM τ Bool) :
    List (StreamItem α) → StateM τ (List α × Option GatewayError)
  | [] => return ([], none)
  | .error error :: _ => return ([], some error)
  | .ok item :: rest => do
    let allowed ← filter item
    let (items, failure) ← sift filter rest
    return (if allowed then item :: items else items, failure)

/-- The envelopes that are written for items and a failure once a reply has begun, and whether an item
had no JSON form. -/
def written (encode : α → Except String Json) (failure : Option GatewayError) :
    List α → Except GatewayError Unit × List Json
  | [] => (.ok (), failure.toList.map Envelope.resultForm)
  | item :: rest =>
    match encode item with
    | .error reason => (.error (.io reason), [])
    | .ok json =>
      let (result, forms) := written encode failure rest
      (result, Envelope.dataForm json :: forms)

/-- A streamed response that has begun. -/
def RecordedResponse.begun (forms : List Json) (flushes : Nat) : RecordedResponse :=
  ⟨some 200, some linesContentType, Envelope.lines forms, flushes⟩

section

variable (filter : α → StateM τ Bool)

@[simp] theorem sift_nil (beside : τ) : sift filter [] beside = (([], none), beside) := rfl

@[simp] theorem sift_error (error : GatewayError) (rest : List (StreamItem α)) (beside : τ) :
    sift filter (.error error :: rest) beside = (([], some error), beside) := rfl

theorem sift_filtered {item : α} {beside : τ} (h : (filter item beside).1 = false)
    (rest : List (StreamItem α)) :
    (sift filter (.ok item :: rest) beside).1 = (sift filter rest (filter item beside).2).1 := by
  show ((if (filter item beside).1 then _ else _), _) = _
  rw [h]
  rfl

theorem sift_allowed {item : α} {beside : τ} (h : (filter item beside).1 = true)
    (rest : List (StreamItem α)) : (sift filter (.ok item :: rest) beside).1 =
      (item :: (sift filter rest (filter item beside).2).1.1,
        (sift filter rest (filter item beside).2).1.2) := by
  show ((if (filter item beside).1 then _ else _), _) = _
  rw [h]
  rfl

/-- What is kept of a stream are items of it that the filter allowed. -/
theorem mem_sift {stream : List (StreamItem α)} {beside : τ} {item : α}
    (h : item ∈ (sift filter stream beside).1.1) :
    .ok item ∈ stream ∧ ∃ asked, (filter item asked).1 = true := by
  induction stream generalizing beside with
  | nil => cases h
  | cons first rest ih =>
      cases first with
      | error error => cases h
      | ok other =>
          cases hallowed : (filter other beside).1 with
          | false =>
              rw [sift_filtered filter hallowed] at h
              obtain ⟨hmem, hfilter⟩ := ih h
              exact ⟨List.mem_cons_of_mem _ hmem, hfilter⟩
          | true =>
              rw [sift_allowed filter hallowed] at h
              rcases List.mem_cons.mp h with rfl | h
              · exact ⟨List.mem_cons_self, beside, hallowed⟩
              · obtain ⟨hmem, hfilter⟩ := ih h
                exact ⟨List.mem_cons_of_mem _ hmem, hfilter⟩

end

section

variable {encode : α → Except String Json} (failure : Option GatewayError)

@[simp] theorem written_nil :
    written encode failure [] = (.ok (), failure.toList.map Envelope.resultForm) := rfl

/-- Items that all have a JSON form are all written. -/
theorem written_total (write : α → Json) (items : List α) :
    written (fun item => .ok (write item)) failure items = (.ok (),
      (items.map write).map Envelope.dataForm ++ failure.toList.map Envelope.resultForm) := by
  induction items with
  | nil => rfl
  | cons item items ih =>
      rw [written, ih]
      rfl

theorem written_unwritable {item : α} {reason : String} (h : encode item = .error reason)
    (rest : List α) : written encode failure (item :: rest) = (.error (.io reason), []) := by
  rw [written, h]

theorem written_cons {item : α} {json : Json} (h : encode item = .ok json) (rest : List α) :
    written encode failure (item :: rest) = ((written encode failure rest).1,
      Envelope.dataForm json :: (written encode failure rest).2) := by
  rw [written, h]

end

/-- What serving a stream hands back and makes of an empty response, given what the stream comes
to. -/
def streamed (encode : α → Except String Json) :
    List α × Option GatewayError → Except GatewayError Unit × RecordedResponse
  | ([], none) => (.ok (), .begun [] 1)
  | ([], some error) => (.error error, .empty)
  | (item :: rest, failure) => ((written encode failure (item :: rest)).1,
    .begun (written encode failure (item :: rest)).2 (written encode failure (item :: rest)).2.length)

/-! ## Steps of the writer -/

namespace StreamWriter

theorem onResponse_apply {β : Type} (operation : Attempt σ String β) (writer : StreamWriter σ) :
    onResponse operation writer = ((operation writer.response).1.mapError .io,
      ⟨writer.state, (operation writer.response).2⟩) := rfl

/-- An item that is filtered leaves no trace. -/
theorem item_filtered (sink : Sink σ) (form : Except String Json) (writer : StreamWriter σ) :
    item sink form false writer = (.ok (), writer) := by
  obtain ⟨state, response⟩ := writer
  cases state <;> rfl

theorem finish_started (sink : Sink σ) (response : σ) :
    finish sink ⟨.started, response⟩ = (.ok (), ⟨.started, response⟩) := rfl

section

variable {sink : Sink σ} {build : RecordedResponse → τ → σ} (hsink : sink.Records build)
include hsink

theorem start_empty (state : StreamState) (beside : τ) :
    start sink ⟨state, build .empty beside⟩ = (.ok (), ⟨state, build (.begun [] 0) beside⟩) := by
  rw [start, onResponse_apply, hsink.writeHeader _ _ _ _ rfl]
  rfl

/-- A line is written behind the others and flushed. -/
theorem writeLine_begun {line : String} {form : Json} (hline : Utf8.bytes line = Envelope.lines [form])
    (forms : List Json) (flushes : Nat) (beside : τ) (state : StreamState) :
    writeLine sink (.ok line) ⟨state, build (.begun forms flushes) beside⟩ =
      (.ok (), ⟨state, build (.begun (forms ++ [form]) (flushes + 1)) beside⟩) := by
  have hlines : Envelope.lines forms ++ Utf8.bytes line = Envelope.lines (forms ++ [form]) := by
    rw [hline, Envelope.lines_append]
  have hbody : onResponse (sink.writeBody (Utf8.bytes line))
      ⟨state, build (.begun forms flushes) beside⟩ =
      (.ok (), ⟨state, build (.begun (forms ++ [form]) flushes) beside⟩) := by
    rw [onResponse_apply, hsink.writeBody, RecordedResponse.begun, RecordedResponse.begun, ← hlines]
    rfl
  refine (Attempt.bind_ok _ hbody).trans ?_
  rw [onResponse_apply, hsink.flush]
  rfl

/-- An item of a reply that has begun is one more line. -/
theorem item_started (json : Json) (forms : List Json) (flushes : Nat) (beside : τ) :
    item sink (.ok json) true ⟨.started, build (.begun forms flushes) beside⟩ = (.ok (),
      ⟨.started, build (.begun (forms ++ [Envelope.dataForm json]) (flushes + 1)) beside⟩) :=
  writeLine_begun hsink (Envelope.bytes_dataLine json) forms flushes beside .started

/-- The first item begins the reply. -/
theorem item_notStarted (json : Json) (beside : τ) :
    item sink (.ok json) true ⟨.notStarted, build .empty beside⟩ =
      (.ok (), ⟨.started, build (.begun [Envelope.dataForm json] 1) beside⟩) :=
  (Attempt.bind_ok _ (start_empty hsink .started beside)).trans
    (writeLine_begun hsink (Envelope.bytes_dataLine json) [] 0 beside .started)

/-- A first item without JSON form begins the reply too. -/
theorem item_notStarted_unwritable (reason : String) (beside : τ) :
    item sink (.error reason) true ⟨.notStarted, build .empty beside⟩ =
      (.error (.io reason), ⟨.started, build (.begun [] 0) beside⟩) :=
  Attempt.bind_ok _ (start_empty hsink .started beside)

/-- A failure in a reply that has begun is one more line. -/
theorem fail_started (error : GatewayError) (forms : List Json) (flushes : Nat) (beside : τ) :
    fail sink error ⟨.started, build (.begun forms flushes) beside⟩ = (.ok (),
      ⟨.started, build (.begun (forms ++ [Envelope.resultForm error]) (flushes + 1)) beside⟩) :=
  writeLine_begun hsink (Envelope.bytes_resultLine error) forms flushes beside .started

/-- A stream that ends before the first item begins an empty reply. -/
theorem finish_notStarted (beside : τ) :
    finish sink ⟨.notStarted, build .empty beside⟩ =
      (.ok (), ⟨.started, build (.begun [] 1) beside⟩) := by
  refine (Attempt.bind_ok _ (start_empty hsink .started beside)).trans ?_
  rw [onResponse_apply, hsink.flush]
  rfl

end

end StreamWriter

/-! ## Whole streams -/

theorem serveItems_nil (sink : Sink σ) (encode : α → Except String Json)
    (allow : α → StateM σ Bool) : serveItems sink encode allow [] = StreamWriter.finish sink := rfl

theorem serveItems_error (sink : Sink σ) (encode : α → Except String Json)
    (allow : α → StateM σ Bool) (error : GatewayError) (rest : List (StreamItem α)) :
    serveItems sink encode allow (.error error :: rest) = StreamWriter.fail sink error := rfl

/-- What comes after a failure is not looked at. -/
theorem serveItems_error_append (sink : Sink σ) (encode : α → Except String Json)
    (allow : α → StateM σ Bool) (items : List (StreamItem α)) (error : GatewayError)
    (rest : List (StreamItem α)) :
    serveItems sink encode allow (items ++ .error error :: rest) =
      serveItems sink encode allow (items ++ [.error error]) := by
  induction items with
  | nil => rfl
  | cons first items ih =>
      cases first with
      | error earlier => rfl
      | ok item => simp only [List.cons_append, serveItems, ih]

theorem serveStream_error_append (sink : Sink σ) (encode : α → Except String Json)
    (allow : α → StateM σ Bool) (stream : List (StreamItem α)) (error : GatewayError)
    (rest : List (StreamItem α)) :
    serveStream sink encode allow (.ok (stream ++ .error error :: rest)) =
      serveStream sink encode allow (.ok (stream ++ [.error error])) := by
  funext response
  simp only [serveStream, serveItems_error_append]

section

variable {sink : Sink σ} {build : RecordedResponse → τ → σ} {allow : α → StateM σ Bool}
  {filter : α → StateM τ Bool} (hallow : Beside build allow filter)
  (encode : α → Except String Json)
include hallow

/-- One item of a stream: the filter is asked, then the writer takes the item in. -/
theorem serveItems_item (item : α) (rest : List (StreamItem α)) (state : StreamState)
    (response : RecordedResponse) (beside : τ) :
    serveItems sink encode allow (.ok item :: rest) ⟨state, build response beside⟩ =
      (StreamWriter.item sink (encode item) (filter item beside).1 >>= fun _ =>
        serveItems sink encode allow rest) ⟨state, build response (filter item beside).2⟩ := by
  refine Attempt.bind_ok _ ?_
  show (Except.ok (allow item (build response beside)).1,
    (⟨state, (allow item (build response beside)).2⟩ : StreamWriter σ)) = _
  rw [hallow]

theorem serveItems_filtered {item : α} {beside : τ} (h : (filter item beside).1 = false)
    (rest : List (StreamItem α)) (state : StreamState) (response : RecordedResponse) :
    serveItems sink encode allow (.ok item :: rest) ⟨state, build response beside⟩ =
      serveItems sink encode allow rest ⟨state, build response (filter item beside).2⟩ := by
  rw [serveItems_item hallow, h]
  exact Attempt.bind_ok _ (StreamWriter.item_filtered sink _ _)

variable (hsink : sink.Records build)
include hsink

/-- Once a reply has begun, it is continued with what the stream comes to. -/
theorem serveItems_started (items : List (StreamItem α)) (forms : List Json) (flushes : Nat)
    (beside : τ) : ∃ beside',
    serveItems sink encode allow items ⟨.started, build (.begun forms flushes) beside⟩ =
      ((written encode (sift filter items beside).1.2 (sift filter items beside).1.1).1, ⟨.started,
        build (.begun
          (forms ++ (written encode (sift filter items beside).1.2 (sift filter items beside).1.1).2)
          (flushes +
            (written encode (sift filter items beside).1.2 (sift filter items beside).1.1).2.length))
          beside'⟩) := by
  -- each item that is sent moves one form from what is to come to what has been written
  induction items generalizing forms flushes beside with
  | nil =>
      refine ⟨beside, ?_⟩
      rw [sift_nil, written_nil, Option.toList_none, List.map_nil, List.append_nil, serveItems_nil]
      exact StreamWriter.finish_started sink _
  | cons first rest ih =>
      cases first with
      | error error =>
          refine ⟨beside, ?_⟩
          simp only [sift_error, written_nil, Option.toList_some, serveItems_error]
          rw [StreamWriter.fail_started hsink error forms flushes beside]
          rfl
      | ok item =>
          cases hallowed : (filter item beside).1 with
          | false =>
              rw [serveItems_filtered hallow encode hallowed, sift_filtered filter hallowed]
              exact ih forms flushes (filter item beside).2
          | true =>
              rw [serveItems_item hallow, sift_allowed filter hallowed, hallowed]
              cases hencode : encode item with
              | error reason =>
                  refine ⟨(filter item beside).2, ?_⟩
                  rw [written_unwritable _ hencode, List.append_nil]
                  rfl
              | ok json =>
                  obtain ⟨beside', hrest⟩ := ih (forms ++ [Envelope.dataForm json]) (flushes + 1)
                    (filter item beside).2
                  have hitem := StreamWriter.item_started hsink json forms flushes
                    (filter item beside).2
                  refine ⟨beside', (Attempt.bind_ok _ hitem).trans ?_⟩
                  rw [hrest, written_cons _ hencode, List.append_assoc, List.length_cons,
                    Nat.add_assoc, Nat.add_comm 1]
                  rfl

/-- A stream that is served into an empty response. -/
theorem serveItems_empty (items : List (StreamItem α)) (beside : τ) : ∃ state beside',
    serveItems sink encode allow items ⟨.notStarted, build .empty beside⟩ =
      ((streamed encode (sift filter items beside).1).1,
        ⟨state, build (streamed encode (sift filter items beside).1).2 beside'⟩) := by
  -- nothing is written until an item is allowed, and from there on `serveItems_started` applies
  induction items generalizing beside with
  | nil => exact ⟨.started, beside, StreamWriter.finish_notStarted hsink beside⟩
  | cons first rest ih =>
      cases first with
      | error error => exact ⟨.notStarted, beside, rfl⟩
      | ok item =>
          cases hallowed : (filter item beside).1 with
          | false =>
              rw [serveItems_filtered hallow encode hallowed, sift_filtered filter hallowed]
              exact ih (filter item beside).2
          | true =>
              rw [serveItems_item hallow, sift_allowed filter hallowed, hallowed, streamed]
              cases hencode : encode item with
              | error reason =>
                  refine ⟨.started, (filter item beside).2, ?_⟩
                  rw [written_unwritable _ hencode]
                  exact Attempt.bind_error _
                    (StreamWriter.item_notStarted_unwritable hsink reason (filter item beside).2)
              | ok json =>
                  obtain ⟨beside', hrest⟩ := serveItems_started hallow encode hsink rest
                    [Envelope.dataForm json] 1 (filter item beside).2
                  have hitem := StreamWriter.item_notStarted hsink json (filter item beside).2
                  refine ⟨.started, beside', (Attempt.bind_ok _ hitem).trans ?_⟩
                  rw [hrest, written_cons _ hencode, List.singleton_append, Nat.add_comm 1]
                  rfl

theorem serveStream_empty (items : List (StreamItem α)) (beside : τ) : ∃ beside',
    serveStream sink encode allow (.ok items) (build .empty beside) =
      ((streamed encode (sift filter items beside).1).1,
        build (streamed encode (sift filter items beside).1).2 beside') := by
  obtain ⟨state, beside', hitems⟩ := serveItems_empty hallow encode hsink items beside
  refine ⟨beside', ?_⟩
  simp only [serveStream, hitems]

end

/-- A stream that cannot be opened leaves the response alone. -/
theorem serveStream_unopened (sink : Sink σ) (encode : α → Except String Json)
    (allow : α → StateM σ Bool) (error : GatewayError) (response : σ) :
    serveStream sink encode allow (.error error) response = (.error error, response) := rfl

/-! ## Errors that are handed back -/

/-- A response that only says why a request failed. -/
def RecordedResponse.failed (error : GatewayError) : RecordedResponse :=
  ⟨some error.status, some jsonContentType, ApiResponse.errorBody error, 1⟩

/-- A handler, whose error is written as the response unless the response has started. -/
def Sink.answer (sink : Sink σ) (handler : Attempt σ GatewayError Unit) : StateM σ Unit := do
  match ← handler.run with
  | .ok () => return ()
  | .error error =>
    let _ ← (sink.writeError error).run

namespace Sink

variable {sink : Sink σ} {build : RecordedResponse → τ → σ} (hsink : sink.Records build)
include hsink

omit hsink in
theorem attempt_ok {operation : Attempt σ String α} {before after : σ} {value : α}
    (h : operation before = (.ok value, after)) : attempt operation before = (.ok value, after) := by
  show ((operation before).1.mapError GatewayError.io, (operation before).2) = _
  rw [h]
  rfl

/-- Header, body and flush of a response in one piece. -/
theorem piece_empty (status : UInt16) (contentType : String) (body : Bytes) (beside : τ) :
    sink.writeHeader status contentType (build .empty beside) =
      (.ok (), build ⟨some status, some contentType, [], 0⟩ beside) ∧
    sink.writeBody body (build ⟨some status, some contentType, [], 0⟩ beside) =
      (.ok (), build ⟨some status, some contentType, body, 0⟩ beside) ∧
    sink.flush (build ⟨some status, some contentType, body, 0⟩ beside) =
      (.ok (), build ⟨some status, some contentType, body, 1⟩ beside) :=
  ⟨hsink.writeHeader status contentType .empty beside rfl, hsink.writeBody body _ beside,
    hsink.flush _ beside⟩

/-- A reply with a JSON form is written. -/
theorem reply_empty (value : Json) (beside : τ) :
    sink.reply (.ok value) (build .empty beside) =
      (.ok (), build ⟨some 200, some jsonContentType, value.bytes, 1⟩ beside) := by
  obtain ⟨hheader, hbody, hflush⟩ := piece_empty hsink 200 jsonContentType value.bytes beside
  exact (Attempt.bind_ok _ (attempt_ok hheader)).trans
    ((Attempt.bind_ok _ (attempt_ok hbody)).trans (attempt_ok hflush))

theorem writeError_empty (error : GatewayError) (beside : τ) :
    sink.writeError error (build .empty beside) = (.ok (), build (.failed error) beside) := by
  have hfresh : sink.headerWritten (build .empty beside) = false := hsink.headerWritten .empty beside
  obtain ⟨hheader, hbody, hflush⟩ := piece_empty hsink error.status jsonContentType
    (ApiResponse.errorBody error) beside
  refine (Attempt.bind_ok _ (a := build .empty beside) rfl).trans ?_
  simp only [hfresh, Bool.false_eq_true, if_false]
  exact (Attempt.bind_ok _ hheader).trans ((Attempt.bind_ok _ hbody).trans hflush)

/-- An error that comes too late is dropped. -/
theorem writeError_written {response : RecordedResponse} (h : response.status.isSome = true)
    (error : GatewayError) (beside : τ) :
    sink.writeError error (build response beside) = (.ok (), build response beside) := by
  have hwritten : sink.headerWritten (build response beside) = true :=
    (hsink.headerWritten response beside).trans h
  refine (Attempt.bind_ok _ (a := build response beside) rfl).trans ?_
  simp only [hwritten, if_true]
  rfl

omit hsink in
/-- The answer is made of what the handler does. -/
theorem answer_congr {handler other : Attempt σ GatewayError Unit} {before start : σ}
    (h : handler before = other start) : sink.answer handler before = sink.answer other start := by
  cases hresult : other start with
  | mk result after =>
      rw [hresult] at h
      have hhandler : sink.answer handler before = _ := stateM_bind _ h
      have hother : sink.answer other start = _ := stateM_bind _ hresult
      exact hhandler.trans hother.symm

omit hsink in
theorem answer_ok {handler : Attempt σ GatewayError Unit} {before after : σ}
    (h : handler before = (.ok (), after)) : sink.answer handler before = ((), after) :=
  stateM_bind _ h

/-- The error of a handler that has written nothing is the response. -/
theorem answer_error {handler : Attempt σ GatewayError Unit} {before : σ} {beside : τ}
    {error : GatewayError} (h : handler before = (.error error, build .empty beside)) :
    sink.answer handler before = ((), build (.failed error) beside) := by
  refine (stateM_bind _ h).trans ?_
  exact stateM_bind _ (writeError_empty hsink error beside)

/-- The error of a handler that has begun the response is dropped. -/
theorem answer_error_written {handler : Attempt σ GatewayError Unit} {before : σ}
    {response : RecordedResponse} {beside : τ} {error : GatewayError}
    (h : handler before = (.error error, build response beside))
    (hresponse : response.status.isSome = true) :
    sink.answer handler before = ((), build response beside) := by
  refine (stateM_bind _ h).trans ?_
  exact stateM_bind _ (writeError_written hsink hresponse error beside)

end Sink

/-! ## Replies -/

/-- A recorded response beside a state. -/
def RecordedResponse.sinkBeside : Sink (RecordedResponse × τ) :=
  RecordedResponse.sink.within Prod.fst fun response state => (response, state.2)

theorem RecordedResponse.sinkBeside_records :
    (RecordedResponse.sinkBeside : Sink (RecordedResponse × τ)).Records Prod.mk where
  writeHeader _ _ _ _ _ := rfl
  writeBody _ _ _ := rfl
  flush _ _ := rfl
  headerWritten _ _ := rfl

/-- A filter with a state of its own, beside a response. -/
def filterBeside (filter : α → StateM τ Bool) : α → StateM (RecordedResponse × τ) Bool :=
  fun item state => ((filter item state.2).1, (state.1, (filter item state.2).2))

theorem filterBeside_beside (filter : α → StateM τ Bool) :
    Beside Prod.mk (filterBeside filter) filter := fun _ _ _ => rfl

/-- The response that a handler leaves in the end, its error included. -/
def RecordedResponse.after (handler : Attempt (RecordedResponse × τ) GatewayError Unit) (state : τ) :
    RecordedResponse :=
  (RecordedResponse.sinkBeside.answer handler (.empty, state)).2.1

namespace RecordedResponse

variable {handler : Attempt (RecordedResponse × τ) GatewayError Unit} {state left : τ}
  {response : RecordedResponse} {error : GatewayError}

theorem after_ok (h : handler (.empty, state) = (.ok (), (response, left))) :
    after handler state = response := by
  rw [after, Sink.answer_ok h]

theorem after_error (h : handler (.empty, state) = (.error error, (.empty, left))) :
    after handler state = .failed error := by
  rw [after, Sink.answer_error sinkBeside_records h]

theorem after_error_written (h : handler (.empty, state) = (.error error, (response, left)))
    (hresponse : response.status.isSome = true) : after handler state = response := by
  rw [after, Sink.answer_error_written sinkBeside_records h hresponse]

end RecordedResponse

/-- Answers a unary call, of which the backend made `called`. -/
def serveCalled (sink : Sink σ) (encode : α → Except String Json) (called : Except GatewayError α) :
    Attempt σ GatewayError Unit := do
  let value ← Attempt.ofExcept called
  sink.reply (encode value)

theorem serveCalled_error (sink : Sink σ) (encode : α → Except String Json) (error : GatewayError)
    (response : σ) : serveCalled sink encode (.error error) response = (.error error, response) :=
  Attempt.bind_error _ rfl

/-- The response to a unary call, of which the backend made `called`. -/
def unaryReply (encode : α → Except String Json) (called : Except GatewayError α) :
    RecordedResponse :=
  .after (serveCalled (RecordedResponse.sinkBeside : Sink (RecordedResponse × Unit)) encode called) ()

/-- The response to a streaming call, of which the backend made `opened`, through a filter that is in
a state. -/
def streamReply (encode : α → Except String Json) (filter : α → StateM τ Bool)
    (opened : Except GatewayError (List (StreamItem α))) (state : τ) : RecordedResponse :=
  .after (serveStream RecordedResponse.sinkBeside encode (filterBeside filter) opened) state

theorem unaryReply_failed (encode : α → Except String Json) (error : GatewayError) :
    unaryReply encode (.error error) = .failed error :=
  RecordedResponse.after_error (serveCalled_error _ encode error _)

section

variable (encode : α → Except String Json) (filter : α → StateM τ Bool) (state : τ)

theorem streamReply_unopened (error : GatewayError) :
    streamReply encode filter (.error error) state = .failed error :=
  RecordedResponse.after_error (serveStream_unopened _ _ _ error _)

/-- A stream that fails before the first item is answered like a unary call that fails. -/
theorem streamReply_failed {stream : List (StreamItem α)} {error : GatewayError}
    (h : (sift filter stream state).1 = ([], some error)) :
    streamReply encode filter (.ok stream) state = .failed error := by
  obtain ⟨left, hserved⟩ := serveStream_empty (filterBeside_beside filter) encode
    RecordedResponse.sinkBeside_records stream state
  rw [h] at hserved
  exact RecordedResponse.after_error hserved

theorem streamReply_ended {stream : List (StreamItem α)}
    (h : (sift filter stream state).1 = ([], none)) :
    streamReply encode filter (.ok stream) state = .begun [] 1 := by
  obtain ⟨left, hserved⟩ := serveStream_empty (filterBeside_beside filter) encode
    RecordedResponse.sinkBeside_records stream state
  rw [h] at hserved
  exact RecordedResponse.after_ok hserved

/-- A stream of which something is sent is answered with its lines. -/
theorem streamReply_begun {stream : List (StreamItem α)} {item : α} {rest : List α}
    {failure : Option GatewayError} (h : (sift filter stream state).1 = (item :: rest, failure)) :
    streamReply encode filter (.ok stream) state =
      .begun (written encode failure (item :: rest)).2
        (written encode failure (item :: rest)).2.length := by
  obtain ⟨left, hserved⟩ := serveStream_empty (filterBeside_beside filter) encode
    RecordedResponse.sinkBeside_records stream state
  rw [h] at hserved
  cases hresult : (written encode failure (item :: rest)).1 with
  | ok =>
      rw [streamed, hresult] at hserved
      exact RecordedResponse.after_ok hserved
  | error error =>
      -- an item without JSON form: the error comes too late for the response
      rw [streamed, hresult] at hserved
      exact RecordedResponse.after_error_written hserved rfl

/-- In the end every reply has a status. -/
theorem streamReply_status (opened : Except GatewayError (List (StreamItem α))) :
    (streamReply encode filter opened state).status.isSome = true := by
  cases opened with
  | error error =>
      rw [streamReply_unopened]
      rfl
  | ok stream =>
      cases hsift : (sift filter stream state).1 with
      | mk items failure =>
          cases items with
          | cons item rest =>
              rw [streamReply_begun encode filter state hsift]
              rfl
          | nil =>
              cases failure with
              | none =>
                  rw [streamReply_ended encode filter state hsift]
                  rfl
              | some error =>
                  rw [streamReply_failed encode filter state hsift]
                  rfl

end

end RegionGateway
