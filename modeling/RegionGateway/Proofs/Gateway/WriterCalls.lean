import RegionGateway.Proofs.Gateway.Serving
import RegionGateway.Proofs.Json.OneLine

/-!
# A writer under any calls

A stream writer takes in items, failures and ends in any order and number, also such as serving a
stream never makes: items after the end, an end after a failure, an end again.

* `act_fresh`, `act_begun`: what one call does, before and after the reply has begun;
* `afterCalls_eq`: the writer after a sequence of calls, by induction on the calls;
* `calls_written`: what can be told from it about state, header, lines, flushes and errors.
-/

namespace RegionGateway

/-- Every line of a streamed reply has its newline at the end and no other. -/
theorem Envelope.count_newline_lines (forms : List Json) : (lines forms).count 0x0A = forms.length := by
  induction forms with
  | nil => rfl
  | cons form forms ih =>
      have hsplit : lines (form :: forms) = form.bytes ++ 0x0A :: lines forms := by simp [lines]
      have hform : form.bytes.count 0x0A = 0 := List.count_eq_zero.mpr form.newline_not_mem_bytes
      rw [hsplit, List.count_append, hform, List.count_cons_self, ih, List.length_cons, Nat.zero_add]

/-- A call of a stream writer. An item comes in its JSON form and with the filter's verdict. -/
inductive WriterCall where
  | item (form : Json) (allowed : Bool)
  | fail (error : GatewayError)
  | finish

namespace WriterCall

/-- What the call does to a writer. -/
def act {σ : Type} (sink : Sink σ) : WriterCall → Attempt (StreamWriter σ) GatewayError Unit
  | .item form allowed => StreamWriter.item sink (.ok form) allowed
  | .fail error => StreamWriter.fail sink error
  | .finish => StreamWriter.finish sink

/-- Whether the call begins the reply, if nothing has begun it before. -/
def begins : WriterCall → Bool
  | .item _ allowed => allowed
  | .fail _ => false
  | .finish => true

/-- The envelope that the call adds to the reply. A failure is part of it only once it has begun. -/
def envelope? (begun : Bool) : WriterCall → Option Json
  | .item form allowed => if allowed then some (Envelope.dataForm form) else none
  | .fail error => if begun then some (Envelope.resultForm error) else none
  | .finish => none

/-- The envelopes of a sequence of calls, in the order of the calls. -/
def envelopes : Bool → List WriterCall → List Json
  | _, [] => []
  | begun, call :: rest => (call.envelope? begun).toList ++ envelopes (begun || call.begins) rest

/-- Whether the first call that begins the reply is its end. -/
def beginsEmpty (calls : List WriterCall) : Bool :=
  match calls.find? (·.begins) with
  | some .finish => true
  | _ => false

end WriterCall

namespace StreamWriter

/-- A writer over a response to which nothing has been written. -/
def fresh : StreamWriter RecordedResponse := ⟨.notStarted, .empty⟩

/-- The writer of a reply that has begun. -/
def begun (forms : List Json) (flushes : Nat) : StreamWriter RecordedResponse :=
  ⟨.started, .begun forms flushes⟩

/-- A writer after a sequence of calls. Calls that fail leave it usable. -/
def afterCalls (writer : StreamWriter RecordedResponse) (calls : List WriterCall) :
    StreamWriter RecordedResponse :=
  calls.foldl (fun writer call => (call.act RecordedResponse.sink writer).2) writer

theorem sink_records :
    RecordedResponse.sink.Records fun response (_ : Unit) => response where
  writeHeader _ _ _ _ _ := rfl
  writeBody _ _ _ := rfl
  flush _ _ := rfl
  headerWritten _ _ := rfl

/-! ## One call -/

/-- A call before the reply has begun. -/
theorem act_fresh (call : WriterCall) : call.act RecordedResponse.sink fresh =
    match call with
    | .fail error => (.error error, fresh)
    | .item form true => (.ok (), begun [Envelope.dataForm form] 1)
    | .item _ false => (.ok (), fresh)
    | .finish => (.ok (), begun [] 1) := by
  cases call with
  | fail error => rfl
  | finish => exact finish_notStarted sink_records ()
  | item form allowed =>
      cases allowed with
      | false => exact item_filtered _ _ _
      | true => exact item_notStarted sink_records form ()

/-- A call after the reply has begun never fails, and adds its envelope. -/
theorem act_begun (call : WriterCall) (forms : List Json) (flushes : Nat) :
    call.act RecordedResponse.sink (begun forms flushes) =
      (.ok (), begun (forms ++ (call.envelope? true).toList)
        (flushes + (call.envelope? true).toList.length)) := by
  cases call with
  | fail error => exact fail_started sink_records error forms flushes ()
  | finish =>
      simp only [WriterCall.envelope?, Option.toList_none, List.append_nil, List.length_nil]
      exact finish_started _ _
  | item form allowed =>
      cases allowed with
      | true => exact item_started sink_records form forms flushes ()
      | false =>
          simp only [WriterCall.envelope?, Bool.false_eq_true, if_false, Option.toList_none,
            List.append_nil, List.length_nil]
          exact item_filtered _ _ _

/-! ## Sequences of calls -/

theorem afterCalls_append (writer : StreamWriter RecordedResponse) (calls more : List WriterCall) :
    writer.afterCalls (calls ++ more) = (writer.afterCalls calls).afterCalls more :=
  List.foldl_append

theorem afterCalls_begun (calls : List WriterCall) (forms : List Json) (flushes : Nat) :
    (begun forms flushes).afterCalls calls = begun (forms ++ WriterCall.envelopes true calls)
      (flushes + (WriterCall.envelopes true calls).length) := by
  induction calls generalizing forms flushes with
  | nil =>
      rw [WriterCall.envelopes, List.append_nil]
      rfl
  | cons call rest ih =>
      have hstep : (begun forms flushes).afterCalls (call :: rest) =
          ((call.act RecordedResponse.sink (begun forms flushes)).2).afterCalls rest := rfl
      rw [hstep, act_begun, ih, WriterCall.envelopes, Bool.true_or, List.append_assoc,
        List.length_append, Nat.add_assoc]

/-- Nothing happens until a call begins the reply, and from there on every call adds its envelope. -/
theorem afterCalls_eq (calls : List WriterCall) :
    fresh.afterCalls calls =
      if calls.any (·.begins) then begun (WriterCall.envelopes false calls)
        ((WriterCall.envelopes false calls).length + (WriterCall.beginsEmpty calls).toNat)
      else fresh := by
  induction calls with
  | nil => rfl
  | cons call rest ih =>
      have hstep : fresh.afterCalls (call :: rest) =
          ((call.act RecordedResponse.sink fresh).2).afterCalls rest := rfl
      rw [hstep, act_fresh]
      cases call with
      | fail error => simpa [WriterCall.begins, WriterCall.envelopes, WriterCall.envelope?,
          WriterCall.beginsEmpty] using ih
      | finish => simp [afterCalls_begun, WriterCall.begins, WriterCall.envelopes,
          WriterCall.envelope?, WriterCall.beginsEmpty, Nat.add_comm]
      | item form allowed =>
          cases allowed with
          | false => simpa [WriterCall.begins, WriterCall.envelopes, WriterCall.envelope?,
              WriterCall.beginsEmpty] using ih
          | true => simp [afterCalls_begun, WriterCall.begins, WriterCall.envelopes,
              WriterCall.envelope?, WriterCall.beginsEmpty, Nat.add_comm]

/-- As long as no call begins the reply, nothing is part of it. -/
theorem envelopes_of_not_begun {calls : List WriterCall} (h : calls.any (·.begins) = false) :
    WriterCall.envelopes false calls = [] ∧ WriterCall.beginsEmpty calls = false := by
  have hnone : calls.find? (·.begins) = none := by
    rw [List.find?_eq_none]
    intro call hcall hbegins
    rw [List.any_eq_false] at h
    exact h call hcall hbegins
  refine ⟨?_, by rw [WriterCall.beginsEmpty, hnone]⟩
  clear hnone
  induction calls with
  | nil => rfl
  | cons call rest ih =>
      rw [List.any_cons, Bool.or_eq_false_iff] at h
      obtain ⟨hcall, hrest⟩ := h
      rw [WriterCall.envelopes, hcall, Bool.or_false, ih hrest, List.append_nil]
      cases call with
      | fail error => rfl
      | finish => cases hcall
      | item form allowed =>
          cases allowed with
          | false => rfl
          | true => cases hcall

/-- **What a writer has written.** After any calls, the state of the writer says whether the response
has a header, and it has one once an allowed item or the end has been called; that header is the one of
a streamed reply, whatever is called afterwards; the body is one line for each envelope, and has no
other newlines; every line has been flushed, and the header alone if the reply was begun by its end. A
further call fails if and only if it reports a failure before the reply has begun; it hands that
failure back and changes nothing. -/
theorem calls_written (calls : List WriterCall) :
    ((fresh.afterCalls calls).state = .started ↔
      (fresh.afterCalls calls).response.status.isSome = true) ∧
    ((fresh.afterCalls calls).state = .started ↔ ∃ call ∈ calls, call.begins = true) ∧
    (∀ more, (fresh.afterCalls calls).state = .started →
      (fresh.afterCalls (calls ++ more)).response.status = some 200 ∧
      (fresh.afterCalls (calls ++ more)).response.contentType = some linesContentType) ∧
    (fresh.afterCalls calls).response.body =
      Envelope.lines (WriterCall.envelopes false calls) ∧
    (fresh.afterCalls calls).response.body.count 0x0A = (WriterCall.envelopes false calls).length ∧
    (fresh.afterCalls calls).response.flushes =
      (WriterCall.envelopes false calls).length + (WriterCall.beginsEmpty calls).toNat ∧
    (∀ (call : WriterCall) (error : GatewayError),
      (call.act RecordedResponse.sink (fresh.afterCalls calls)).1 = .error error ↔
        call = .fail error ∧ (fresh.afterCalls calls).state = .notStarted) ∧
    (∀ (call : WriterCall) (error : GatewayError),
      (call.act RecordedResponse.sink (fresh.afterCalls calls)).1 = .error error →
        (call.act RecordedResponse.sink (fresh.afterCalls calls)).2 = fresh.afterCalls calls) := by
  have hafter := afterCalls_eq calls
  -- until a call begins the reply there is nothing to see but the failures that are handed back
  cases hany : calls.any (·.begins) with
  | false =>
      obtain ⟨henvelopes, hempty⟩ := envelopes_of_not_begun hany
      rw [hany, if_neg (by decide)] at hafter
      rw [hafter, henvelopes, hempty]
      have hnone : ¬∃ call ∈ calls, call.begins = true := by
        rw [← List.any_eq_true, hany]
        decide
      refine ⟨by decide, ?_, ?_, rfl, rfl, rfl, ?_, ?_⟩
      · exact ⟨fun h => absurd h (by decide), fun h => absurd h hnone⟩
      · exact fun _ h => absurd h (by decide)
      · intro call error
        rw [act_fresh]
        cases call with
        | fail other => simp [fresh]
        | finish => simp
        | item form allowed => cases allowed <;> simp
      · intro call error
        rw [act_fresh]
        cases call with
        | fail other => exact fun _ => rfl
        | finish => simp
        | item form allowed => cases allowed <;> simp
  | true =>
      rw [hany, if_pos rfl] at hafter
      have hbegun : ∃ call ∈ calls, call.begins = true := List.any_eq_true.mp hany
      refine ⟨?_, ?_, ?_, ?_, ?_, ?_, ?_, ?_⟩
      · rw [hafter]
        exact ⟨fun _ => rfl, fun _ => rfl⟩
      · rw [hafter]
        exact ⟨fun _ => hbegun, fun _ => rfl⟩
      · intro more _
        rw [afterCalls_append, hafter, afterCalls_begun]
        exact ⟨rfl, rfl⟩
      · rw [hafter]
        rfl
      · rw [hafter]
        exact Envelope.count_newline_lines _
      · rw [hafter]
        rfl
      · intro call error
        rw [hafter, act_begun]
        simp [begun]
      · intro call error
        rw [hafter, act_begun]
        simp

/-- A failure before the reply, the end, and then what serving a stream never calls: an item, the end
again and a failure. -/
theorem calls_written_after_end :
    (fresh.afterCalls [.fail .forbidden, .finish]).state = .started ∧
    (fresh.afterCalls [.fail .forbidden, .finish, .item .null true, .finish,
      .fail .forbidden]).response =
      ⟨some 200, some linesContentType,
        Envelope.lines [Envelope.dataForm .null, Envelope.resultForm .forbidden], 3⟩ := by
  have hstarted : (fresh.afterCalls [.fail .forbidden, .finish]).state = .started := rfl
  have hheader := (calls_written [.fail .forbidden, .finish]).2.2.1
    [.item .null true, .finish, .fail .forbidden] hstarted
  have hwritten := calls_written [.fail .forbidden, .finish, .item .null true, .finish,
    .fail .forbidden]
  refine ⟨hstarted, ?_⟩
  exact RecordedResponse.mk.injEq .. ▸
    ⟨hheader.1, hheader.2, hwritten.2.2.2.1, hwritten.2.2.2.2.2.1⟩

end StreamWriter

end RegionGateway
