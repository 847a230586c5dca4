import RegionGateway.Proofs.Gateway.Serving
import RegionGateway.Proofs.Json.AnyRead

/-!
# What arrives at a client

A reply is served, an error that is handed back is written, and the client decodes status and body.

* `streamed_round_trip`: of a stream, the client gets the items that the filter allows, or the
  first failure, provided that the failure has another status than 0 and 200;
* `decoded_iff_of_failure`: with these statuses a failure can arrive as success, and exactly when.
-/

namespace RegionGateway

variable {α β τ : Type}

/-- A response as it arrives. One that was never begun counts as a server error. -/
def RecordedResponse.arrived (response : RecordedResponse) : ApiResponse :=
  ⟨response.status.getD 500, response.body⟩

theorem RecordedResponse.arrived_begun (forms : List Json) (flushes : Nat) :
    (RecordedResponse.begun forms flushes).arrived = ⟨200, Envelope.lines forms⟩ := rfl

theorem RecordedResponse.arrived_failed (error : GatewayError) :
    (RecordedResponse.failed error).arrived = ⟨error.status, ApiResponse.errorBody error⟩ := by
  simp only [RecordedResponse.failed, RecordedResponse.arrived, Option.getD_some]

/-! ## Failed replies -/

theorem decodeStream_failed (output : Codec α) {error : GatewayError} (h : error.status ≠ 200) :
    (RecordedResponse.failed error).arrived.decodeStream output =
      .error (.status error.status error.message) := by
  have hstatus : (error.status != 200) = true := bne_iff_ne.mpr h
  rw [RecordedResponse.arrived_failed, ApiResponse.decodeStream, if_pos hstatus,
    ApiResponse.failure_errorBody]

theorem decodeUnary_failed (output : Codec α) {error : GatewayError} (h : error.status ≠ 200) :
    (RecordedResponse.failed error).arrived.decodeUnary output =
      .error (.status error.status error.message) := by
  have hstatus : (error.status != 200) = true := bne_iff_ne.mpr h
  rw [RecordedResponse.arrived_failed, ApiResponse.decodeUnary, if_pos hstatus,
    ApiResponse.failure_errorBody]

/-! ## Streams -/

/-- What a client makes of what a stream comes to. -/
def received : List α × Option GatewayError → Except ClientError (List α)
  | (items, none) => .ok items
  | ([], some error) => .error (.status error.status error.message)
  | (_ :: _, some error) => .error (.stream error.status error.message)

section

variable {codec : Codec α} (hobject : ∀ item, ∃ members, codec.write item = .obj members)
  (hreads : ∀ item, codec.ReadsBack (Json.maxDepth - 1) item)
include hobject hreads

theorem reads_items (items : List α) :
    List.Forall₂ (codec.option.Reads (Json.maxDepth - 1)) (items.map codec.write)
      (items.map some) := by
  rw [List.forall₂_map_left_iff, List.forall₂_map_right_iff, List.forall₂_same]
  intro item _
  obtain ⟨members, hmembers⟩ := hobject item
  exact Codec.option_reads (hreads item) (by rw [hmembers]; intro h; cases h)

/-- A reply that has begun is decoded as what the stream comes to. -/
theorem decodeStream_begun {items : List α} (hitems : items ≠ []) {failure : Option GatewayError}
    (hfailure : ∀ error ∈ failure, error.status ≠ 0 ∧ error.status ≠ 200) (flushes : Nat) :
    (RecordedResponse.begun (written (fun item => .ok (codec.write item)) failure items).2
      flushes).arrived.decodeStream codec = received (items, failure) := by
  have hread := reads_items hobject hreads items
  have hreduce : (items.map some).reduceOption = items := by simp [List.reduceOption]
  obtain ⟨item, rest, rfl⟩ := List.exists_cons_of_ne_nil hitems
  rw [written_total, RecordedResponse.arrived_begun, Envelope.lines_append]
  cases failure with
  | none =>
      have hdecoded := ApiResponse.decodeStream_items hread
      rw [hreduce] at hdecoded
      rw [Option.toList_none, List.map_nil, Envelope.lines_nil, List.append_nil, hdecoded]
      rfl
  | some error =>
      have hdecoded := ApiResponse.decodeStream_failed hread (hfailure error rfl)
      rw [Option.toList_some, List.map_singleton, hdecoded]
      rfl

theorem decodeStream_opened (filter : α → StateM τ Bool) (state : τ) (stream : List (StreamItem α))
    (hfailure : ∀ error ∈ (sift filter stream state).1.2,
      error.status ≠ 0 ∧ error.status ≠ 200) :
    (streamReply (fun item => .ok (codec.write item)) filter (.ok stream)
      state).arrived.decodeStream codec = received (sift filter stream state).1 := by
  cases hsift : (sift filter stream state).1 with
  | mk items failure =>
      rw [hsift] at hfailure
      cases items with
      | nil =>
          cases failure with
          | none =>
              have hread := reads_items hobject hreads []
              rw [streamReply_ended _ filter state hsift]
              exact ApiResponse.decodeStream_items hread
          | some error =>
              rw [streamReply_failed _ filter state hsift]
              exact decodeStream_failed codec (hfailure error rfl).2
      | cons item rest =>
          rw [streamReply_begun _ filter state hsift]
          exact decodeStream_begun hobject hreads (List.cons_ne_nil item rest) hfailure _

/-- The envelopes of a reply that has begun. -/
theorem decodeAll_begun (items : List α) (failure : Option GatewayError) (flushes : Nat) :
    Envelope.decodeAll codec (RecordedResponse.begun
      (written (fun item => .ok (codec.write item)) failure items).2 flushes).body =
      .ok (items.map (fun item => ⟨some item, none⟩) ++
        failure.toList.map fun error => ⟨none, some ⟨error.message, error.status⟩⟩) := by
  have hitems := Envelope.reads_dataForms (reads_items hobject hreads items)
  have hfailure : List.Forall₂ ((Envelope.codec codec).Reads Json.maxDepth)
      (failure.toList.map Envelope.resultForm)
      (failure.toList.map fun error => ⟨none, some ⟨error.message, error.status⟩⟩) := by
    rw [List.forall₂_map_left_iff, List.forall₂_map_right_iff, List.forall₂_same]
    exact fun error _ => Envelope.reads_result codec (Json.maxDepth - 2) error
  have hdata : (items.map some).map (fun data => (⟨data, none⟩ : Envelope α)) =
      items.map fun item => ⟨some item, none⟩ := List.map_map
  rw [hdata] at hitems
  rw [written_total, RecordedResponse.begun]
  exact Envelope.decodeAll_lines (List.rel_append hitems hfailure)

/-- **Streaming round trip.** A client that decodes the reply to a stream gets the items that the
filter allows before the first failure, or that failure: as the status of the reply if nothing was
sent, else as a line of it. The reply has a status, and what comes after the failure is no part of
it. One bracket of the reply is the envelope's, so messages are read back with one bracket less. -/
theorem streamed_round_trip (filter : α → StateM τ Bool) (state : τ) :
    (∀ error, error.status ≠ 0 ∧ error.status ≠ 200 →
      (streamReply (fun item => .ok (codec.write item)) filter (.error error)
        state).arrived.decodeStream codec = .error (.status error.status error.message)) ∧
    (∀ stream, (∀ error ∈ (sift filter stream state).1.2, error.status ≠ 0 ∧ error.status ≠ 200) →
      (streamReply (fun item => .ok (codec.write item)) filter (.ok stream)
        state).arrived.decodeStream codec = received (sift filter stream state).1) ∧
    (∀ opened, (streamReply (fun item => .ok (codec.write item)) filter opened
      state).status.isSome = true) ∧
    (∀ stream error rest,
      streamReply (fun item => .ok (codec.write item)) filter (.ok (stream ++ .error error :: rest))
        state =
      streamReply (fun item => .ok (codec.write item)) filter (.ok (stream ++ [.error error]))
        state) := by
  refine ⟨?_, ?_, ?_, ?_⟩
  · intro error herror
    rw [streamReply_unopened]
    exact decodeStream_failed codec herror.2
  · exact decodeStream_opened hobject hreads filter state
  · exact streamReply_status _ filter state
  · intro stream error rest
    rw [streamReply, streamReply, serveStream_error_append]

end

/-- The first of two messages is sent, and then the failure is reported. -/
theorem streamed_round_trip_messages :
    (streamReply (fun item => .ok (ErrorMessage.codec.write item)) (fun _ n => (n == 0, n + 1))
      (.ok [.ok ⟨"first"⟩, .ok ⟨"second"⟩, .error (.backend "gone" 409), .ok ⟨"third"⟩])
      (0 : Nat)).arrived.decodeStream ErrorMessage.codec = .error (.stream 409 "gone") := by
  have hobject : ∀ item, ∃ members, ErrorMessage.codec.write item = .obj members :=
    fun _ => ⟨_, rfl⟩
  have hreads : ∀ item, ErrorMessage.codec.ReadsBack (Json.maxDepth - 1) item :=
    ErrorMessage.readsBack (Json.maxDepth - 2)
  have htrip := streamed_round_trip hobject hreads (fun _ (n : Nat) => (n == 0, n + 1)) 0
  exact htrip.2.1 _ (by decide)

/-! ## Failures that arrive as success -/

/-- The codec takes a JSON value for a value of its own or refuses it, wherever its text stands. -/
def Codec.Decides (codec : Codec α) (depth : Nat) (json : Json) : Prop :=
  (∃ value, codec.Reads depth json value) ∨ codec.Refuses depth json

theorem Codec.Decides.option {codec : Codec α} {depth : Nat} {json : Json}
    (h : codec.Decides depth json) : codec.option.Decides depth json := by
  by_cases hnull : json = .null
  · rw [hnull]
    exact .inl ⟨none, codec.option_reads_null depth⟩
  · rcases h with ⟨value, h⟩ | h
    · exact .inl ⟨some value, Codec.option_reads h hnull⟩
    · exact .inr (Codec.option_refuses h hnull)

/-- Either all of several values are taken, or there is a first one that is refused. -/
theorem reads_or_refuses {codec : Codec α} {depth : Nat} {forms : List Json}
    (h : ∀ form ∈ forms, codec.Decides depth form) :
    (∃ values, List.Forall₂ (codec.Reads depth) forms values) ∨
    ∃ taken values refused rest, forms = taken ++ refused :: rest ∧
      List.Forall₂ (codec.Reads depth) taken values ∧ codec.Refuses depth refused := by
  induction forms with
  | nil => exact .inl ⟨[], .nil⟩
  | cons form forms ih =>
      rcases h form List.mem_cons_self with ⟨value, hform⟩ | hform
      · rcases ih fun form hform => h form (List.mem_cons_of_mem _ hform) with
          ⟨values, hforms⟩ | ⟨taken, values, refused, rest, rfl, hforms, hrefused⟩
        · exact .inl ⟨value :: values, .cons hform hforms⟩
        · exact .inr ⟨form :: taken, value :: values, refused, rest, rfl, .cons hform hforms, hrefused⟩
      · exact .inr ⟨[], [], form, forms, rfl, .nil, hform⟩

/-- No value that is taken is refused. -/
theorem not_refuses_of_reads {codec : Codec α} {depth : Nat} {forms : List Json} {values : List α}
    (h : List.Forall₂ (codec.Reads depth) forms values) :
    ∀ form ∈ forms, ¬codec.Refuses depth form := by
  induction h with
  | nil => simp
  | @cons form value forms values hform _ ih =>
      intro other hother hrefuses
      rcases List.mem_cons.mp hother with rfl | hother
      · obtain ⟨fault, hfault⟩ := hrefuses [] .nil
        rw [hform [] .nil] at hfault
        cases hfault
      · exact ih other hother hrefuses

theorem decodeStream_failed_iff (output : Codec α) (error : GatewayError) :
    (∃ items, (RecordedResponse.failed error).arrived.decodeStream output = .ok items) ↔
      error.status = 200 := by
  constructor
  · rintro ⟨items, hdecoded⟩
    by_contra hstatus
    rw [decodeStream_failed output hstatus] at hdecoded
    cases hdecoded
  · intro hstatus
    rw [RecordedResponse.arrived_failed, hstatus]
    exact ⟨[], ApiResponse.decodeStream_errorBody output error⟩

theorem decodeUnary_failed_iff (output : Codec α) (error : GatewayError) :
    (∃ value, (RecordedResponse.failed error).arrived.decodeUnary output = .ok value) ↔
      error.status = 200 ∧ ∃ value, output.decode (ApiResponse.errorBody error) = .ok value := by
  by_cases hstatus : error.status = 200
  · have hnot : ¬((200 : UInt16) != 200) = true := by decide
    rw [RecordedResponse.arrived_failed, ApiResponse.decodeUnary, hstatus, if_neg hnot]
    cases output.decode (ApiResponse.errorBody error) with
    | ok value => simp
    | error fault => simp
  · rw [decodeUnary_failed output hstatus]
    simp [hstatus]

/-- After an item has been sent, a failure arrives as success if its status is one of two and the
client takes every item. -/
theorem decodeStream_reported_iff {output : Codec β} {forms : List Json}
    (hdecides : ∀ form ∈ forms, output.Decides (Json.maxDepth - 1) form) (error : GatewayError) :
    (∃ items, ApiResponse.decodeStream output ⟨200, Envelope.lines (forms.map Envelope.dataForm) ++
        Envelope.lines [Envelope.resultForm error]⟩ = .ok items) ↔
      (error.status = 0 ∨ error.status = 200) ∧
        ∀ form ∈ forms, ¬output.option.Refuses (Json.maxDepth - 1) form := by
  have hoption := fun form hform => (hdecides form hform).option
  rcases reads_or_refuses hoption with
    ⟨data, hread⟩ | ⟨taken, data, refused, rest, rfl, hread, hrefused⟩
  · -- every item is taken, so the report is read and its status decides
    have hnone := not_refuses_of_reads hread
    constructor
    · rintro ⟨items, hdecoded⟩
      refine ⟨?_, hnone⟩
      by_contra hstatus
      rw [not_or] at hstatus
      rw [ApiResponse.decodeStream_failed hread hstatus] at hdecoded
      cases hdecoded
    · rintro ⟨hstatus, -⟩
      exact ⟨_, ApiResponse.decodeStream_reported hread hstatus⟩
  · -- the client stops at the first item it refuses and never sees the report
    obtain ⟨reason, hdecoded⟩ := ApiResponse.decodeStream_refused hread hrefused
      (Envelope.lines (rest.map Envelope.dataForm) ++ Envelope.lines [Envelope.resultForm error])
    have hlines : Envelope.lines ((taken ++ refused :: rest).map Envelope.dataForm) ++
        Envelope.lines [Envelope.resultForm error] =
        Envelope.lines (taken.map Envelope.dataForm) ++ (Envelope.lines [Envelope.dataForm refused] ++
          (Envelope.lines (rest.map Envelope.dataForm) ++
            Envelope.lines [Envelope.resultForm error])) := by
      rw [List.map_append, List.map_cons, ← List.singleton_append, Envelope.lines_append,
        Envelope.lines_append, List.append_assoc, List.append_assoc]
    rw [hlines, hdecoded]
    constructor
    · rintro ⟨items, h⟩
      cases h
    · rintro ⟨-, hnone⟩
      exact absurd hrefused (hnone refused (by simp))

/-- **When a failure arrives as success.** A client takes a failed call for a successful one if the
status of the failure is 200 and, in a unary call, the error body is a value; and after items of a
stream have been sent, if the status is 0 or 200 and the client takes every item sent. With any other
status a failure arrives as one. -/
theorem decoded_iff_of_failure (output : Codec β) (write : α → Json) (error : GatewayError) :
    ((∃ value, (unaryReply (fun item => .ok (write item)) (.error error)).arrived.decodeUnary output =
        .ok value) ↔
      error.status = 200 ∧ ∃ value, output.decode (ApiResponse.errorBody error) = .ok value) ∧
    (∀ (filter : α → StateM τ Bool) state,
      (∃ items, (streamReply (fun item => .ok (write item)) filter (.error error)
        state).arrived.decodeStream output = .ok items) ↔ error.status = 200) ∧
    (∀ (filter : α → StateM τ Bool) state stream,
      (sift filter stream state).1 = ([], some error) →
      ((∃ items, (streamReply (fun item => .ok (write item)) filter (.ok stream)
        state).arrived.decodeStream output = .ok items) ↔ error.status = 200)) ∧
    (∀ (filter : α → StateM τ Bool) state stream item rest,
      (sift filter stream state).1 = (item :: rest, some error) →
      (∀ sent ∈ item :: rest, output.Decides (Json.maxDepth - 1) (write sent)) →
      ((∃ items, (streamReply (fun item => .ok (write item)) filter (.ok stream)
        state).arrived.decodeStream output = .ok items) ↔
        (error.status = 0 ∨ error.status = 200) ∧
          ∀ sent ∈ item :: rest, ¬output.option.Refuses (Json.maxDepth - 1) (write sent))) := by
  refine ⟨?_, ?_, ?_, ?_⟩
  · rw [unaryReply_failed]
    exact decodeUnary_failed_iff output error
  · intro filter state
    rw [streamReply_unopened]
    exact decodeStream_failed_iff output error
  · intro filter state stream hsift
    rw [streamReply_failed _ filter state hsift]
    exact decodeStream_failed_iff output error
  · intro filter state stream item rest hsift hdecides
    have hforms : ∀ form ∈ (item :: rest).map write, output.Decides (Json.maxDepth - 1) form := by
      intro form hform
      obtain ⟨sent, hsent, rfl⟩ := List.mem_map.mp hform
      exact hdecides sent hsent
    rw [streamReply_begun _ filter state hsift, written_total, RecordedResponse.arrived_begun,
      Envelope.lines_append, Option.toList_some, List.map_singleton,
      decodeStream_reported_iff hforms error, List.forall_mem_map]

/-- A failure with status 0 is lost after an item. -/
theorem failure_lost_after_item :
    ∃ items, (streamReply (fun item => .ok (ErrorMessage.codec.write item))
      (fun _ => return true : ErrorMessage → StateM Unit Bool)
      (.ok [.ok ⟨"first"⟩, .error (.backend "gone" 0)]) ()).arrived.decodeStream
      ErrorMessage.codec = .ok items := by
  have hreads : ∀ item, ErrorMessage.codec.ReadsBack (Json.maxDepth - 1) item :=
    ErrorMessage.readsBack (Json.maxDepth - 2)
  have htaken : ∀ sent ∈ [(⟨"first"⟩ : ErrorMessage)],
      ¬ErrorMessage.codec.option.Refuses (Json.maxDepth - 1) (ErrorMessage.codec.write sent) :=
    fun sent _ => not_refuses_of_reads (.cons (Codec.option_reads (hreads sent) (by intro h; cases h))
      .nil) _ List.mem_cons_self
  exact ((decoded_iff_of_failure ErrorMessage.codec ErrorMessage.codec.write (.backend "gone" 0)).2.2.2
    (fun _ => return true : ErrorMessage → StateM Unit Bool) () _ ⟨"first"⟩ [] rfl
    fun sent _ => .inl ⟨sent, hreads sent⟩).mpr ⟨.inl rfl, htaken⟩

/-! ## Messages at the limit of nesting -/

/-- An object inside so many others. -/
def nested : Nat → Json
  | 0 => .obj []
  | depth + 1 => .obj [("inner", nested depth)]

theorem nested_object (n : Nat) : ∃ members, nested n = .obj members := by
  cases n with
  | zero => exact ⟨_, rfl⟩
  | succ n => exact ⟨_, rfl⟩

theorem nested_ne_null (n : Nat) : nested n ≠ .null := by
  obtain ⟨members, h⟩ := nested_object n
  rw [h]
  intro h
  cases h

theorem nested_succ (n : Nat) : nested (n + 1) = .obj [("inner", nested n)] := rfl

/-- Nested objects are read when there are brackets enough. -/
theorem any_reads_nested {n depth : Nat} (h : n < depth) :
    Codec.any.Reads depth (nested n) (nested n) := by
  -- every object takes one bracket of those that may still be opened
  induction n generalizing depth with
  | zero =>
      obtain ⟨depth, rfl⟩ : ∃ d, depth = d + 1 := ⟨depth - 1, by omega⟩
      intro rest _
      rw [nested, Json.bytes_obj_nil]
      rfl
  | succ n ih =>
      obtain ⟨depth, rfl⟩ : ∃ d, depth = d + 1 := ⟨depth - 1, by omega⟩
      intro rest _
      have hinner : Codec.any.Reads depth (nested n) (nested n) := ih (by omega)
      have hmembers : Reader.ReadsMembers (addMember depth) [("inner", nested n)] []
          [("inner", nested n)] := by
        refine ⟨_, ?_, rfl⟩
        intro more hmore
        rw [addMember, Reader.bind_ok _ (Reader.colon_cons _)]
        exact Reader.bind_ok _ (hinner more hmore)
      obtain ⟨tail, htail⟩ := Json.bytes_obj [("inner", nested n)]
      have hread := Reader.members_bytes hmembers rest
      rw [nested_succ]
      rw [htail, List.cons_append] at hread ⊢
      exact (read_object depth _).trans (Reader.map_ok Json.obj hread)

/-- One bracket too few is a fault. -/
theorem any_refuses_nested {n depth : Nat} (h : depth ≤ n) : Codec.any.Refuses depth (nested n) := by
  induction depth generalizing n with
  | zero =>
      intro rest _
      obtain ⟨members, hobject⟩ := nested_object n
      obtain ⟨tail, htail⟩ := Json.bytes_obj members
      rw [hobject, htail]
      exact ⟨.tooDeep, rfl⟩
  | succ depth ih =>
      obtain ⟨n, rfl⟩ : ∃ k, n = k + 1 := ⟨n - 1, by omega⟩
      intro rest _
      have hinner : Codec.any.Refuses depth (nested n) := ih (by omega)
      have hmember : ∀ more, Delimited more → ∃ fault,
          addMember depth "inner" [] (0x3A :: ((nested n).bytes ++ more)) = .error fault := by
        intro more hmore
        obtain ⟨fault, hfault⟩ := hinner more hmore
        refine ⟨fault, ?_⟩
        rw [addMember, Reader.bind_ok _ (Reader.colon_cons _)]
        exact Reader.bind_error _ hfault
      obtain ⟨fault, hread⟩ := Reader.members_stop hmember [] rest
      obtain ⟨tail, htail⟩ := Json.bytes_obj [("inner", nested n)]
      refine ⟨fault, ?_⟩
      rw [nested_succ]
      rw [htail, List.cons_append] at hread ⊢
      exact (read_object depth _).trans (Reader.map_error Json.obj hread)

/-- Messages of which the JSON form is so many objects deep. -/
def deepMessage (n : Nat) : Codec Unit := Codec.any.map (fun _ => ()) fun _ => nested n

theorem deepMessage_write (n : Nat) : (deepMessage n).write () = nested n := rfl

theorem deepMessage_reads {n depth : Nat} (h : n < depth) :
    (deepMessage n).Reads depth (nested n) () :=
  fun rest hrest => Reader.bind_ok _ (any_reads_nested h rest hrest)

theorem deepMessage_refuses {n depth : Nat} (h : depth ≤ n) :
    (deepMessage n).Refuses depth (nested n) := by
  intro rest hrest
  obtain ⟨fault, hread⟩ := any_refuses_nested h rest hrest
  exact ⟨fault, Reader.bind_error _ hread⟩

/-- The envelope around a message takes one of the brackets. -/
theorem decodeStream_nested {n : Nat} (h : Json.maxDepth - 1 ≤ n) : ∃ reason,
    ApiResponse.decodeStream (deepMessage n) ⟨200, Envelope.lines [Envelope.dataForm (nested n)]⟩ =
      .error (.decode reason) := by
  have hrefuses := Codec.option_refuses (deepMessage_refuses h) (nested_ne_null n)
  obtain ⟨reason, hdecoded⟩ := ApiResponse.decodeStream_refused .nil hrefuses []
  rw [List.map_nil, Envelope.lines_nil, List.nil_append, List.append_nil] at hdecoded
  exact ⟨reason, hdecoded⟩

theorem decodeStream_deepMessage {n : Nat} (h : Json.maxDepth - 1 ≤ n) :
    ∃ reason, (streamReply (fun item => .ok ((deepMessage n).write item)) (fun _ => return true)
      (.ok [.ok ()]) ()).arrived.decodeStream (deepMessage n) = .error (.decode reason) := by
  have hsift : (sift (fun _ => return true : Unit → StateM Unit Bool) [.ok ()] ()).1 =
      ([()], none) := rfl
  rw [streamReply_begun _ _ _ hsift, written_total, RecordedResponse.arrived_begun,
    List.map_singleton, List.map_singleton, Option.toList_none, List.map_nil, List.append_nil,
    deepMessage_write]
  exact decodeStream_nested h

/-- A message that uses every bracket is an object, and decoding undoes its encoding, but it does not
arrive in a stream. -/
theorem deep_message_lost :
    (∀ message, ∃ members, (deepMessage 126).write message = .obj members) ∧
    (∀ message, (deepMessage 126).decode ((deepMessage 126).write message).bytes = .ok message) ∧
    ∃ reason, (streamReply (fun item => .ok ((deepMessage 126).write item)) (fun _ => return true)
      (.ok [.ok ()]) ()).arrived.decodeStream (deepMessage 126) = .error (.decode reason) :=
  ⟨fun _ => nested_object 126, fun _ => (deepMessage_reads (by decide)).decode,
    decodeStream_deepMessage (by decide)⟩

end RegionGateway
